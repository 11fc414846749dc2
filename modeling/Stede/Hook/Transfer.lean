import Stede.Hook.Isolation
import Stede.Rules.Recording
import Stede.Solana.Token2022

set_option autoImplicit false

/- A transfer of a mint whose transfer hook is `stede_hook`, from Token-2022 through
the hook to the rules and back. -/
namespace Stede.Hook

open ExtraAccountMeta

/-- What a program may pass on of the accounts `outer` it was itself called with:
none it does not have, and none with more privileges. -/
def permits (outer : List AccountMeta) (account : AccountMeta) : Bool :=
  let given := outer.filter fun other => other.pubkey = account.pubkey
  !given.isEmpty && (!account.isSigner || given.any AccountMeta.isSigner) &&
    (!account.isWritable || given.any AccountMeta.isWritable)

theorem permits_of_mem {outer : List AccountMeta} {account : AccountMeta}
    (unsigned : account.isSigner = false)
    (given : ∃ other ∈ outer, other.pubkey = account.pubkey ∧
      (account.isWritable = true → other.isWritable = true)) : permits outer account = true := by
  obtain ⟨other, member, same, writable⟩ := given
  have present : other ∈ outer.filter fun other => other.pubkey = account.pubkey :=
    List.mem_filter.mpr ⟨member, decide_eq_true same⟩
  have filled : (outer.filter fun other => other.pubkey = account.pubkey).isEmpty = false :=
    List.isEmpty_eq_false_iff_exists_mem.mpr ⟨other, present⟩
  simp only [permits, filled, unsigned, Bool.not_false, Bool.true_or, Bool.true_and]
  cases written : account.isWritable with
  | false => rfl
  | true => exact List.any_eq_true.mpr ⟨other, present, writable written⟩

/-- The accounts of the hook call. Without the list among the supplied accounts the
hook gets the four of the transfer and nothing else. -/
def executeAccounts (rt : Runtime) (ledger : Ledger) (lists : MetaLists) (transfer : Transfer) :
    Except Error (List AccountMeta) :=
  let base := baseAccounts rt transfer.source transfer.stedeMint transfer.destination
    transfer.authority.pubkey
  let list := (extraAccountMetaListPda rt transfer.stedeMint).1
  let supplied := transfer.supplied.map AccountMeta.pubkey
  if list ∈ supplied then do
    let extras ← okOr (lists list) (.program .invalidAccountData)
    addToCpiInstruction rt ledger base extras supplied
  else .ok (base.take 4)

/-- `invoke_execute`. -/
def invokeExecute (rt : Runtime) (env : Env) (ledger : Ledger) (lists : MetaLists)
    (transfer : Transfer) : Except Error Ledger := do
  let accounts ← executeAccounts rt ledger lists transfer
  require (Programs.stedeHook ∈ transfer.supplied.map AccountMeta.pubkey) (.program .accountNotFound)
  require (accounts.all (permits transfer.metas)) (.program .privilegeEscalation)
  fallback rt env ledger accounts (EXECUTE_DISCRIMINATOR ++ Codec.uint64.encode transfer.amount)

/-- `TransferChecked`. A transfer to the source itself ends before the hook is called. -/
def transferChecked {rt : Runtime} (token : Token2022 rt) (env : Env) (ledger : Ledger)
    (lists : MetaLists) (transfer : Transfer) : Except Error Ledger := do
  let moved ← token.move ledger transfer
  if transfer.source = transfer.destination then return moved
  else do
    let called ← invokeExecute rt env moved lists transfer
    return token.settle called transfer

/-- The instruction data of the hook call carries the amount. -/
theorem fallback_execute (rt : Runtime) (env : Env) (ledger : Ledger) (accounts : List AccountMeta)
    (amount : UInt64) :
    fallback rt env ledger accounts (EXECUTE_DISCRIMINATOR ++ Codec.uint64.encode amount) =
      execute rt env ledger accounts amount := by
  have head : EXECUTE_DISCRIMINATOR.length = 8 := rfl
  have size : (Codec.uint64.encode amount).length = 8 := Codec.encode_length _ _
  have amount_read := readU64_field head [] amount
  rw [List.append_nil] at amount_read
  have shape : (EXECUTE_DISCRIMINATOR ++ Codec.uint64.encode amount).take 8 = EXECUTE_DISCRIMINATOR ∧
      16 ≤ (EXECUTE_DISCRIMINATOR ++ Codec.uint64.encode amount).length := by
    constructor
    · rw [← head, List.take_left]
    · rw [List.length_append]
      omega
  rw [fallback, require_of_true shape, ok_bind, amount_read, ok_bind]

theorem invokeExecute_eq_ok {rt : Runtime} {env : Env} {ledger next : Ledger} {lists : MetaLists}
    {transfer : Transfer} :
    invokeExecute rt env ledger lists transfer = .ok next ↔
      ∃ accounts, executeAccounts rt ledger lists transfer = .ok accounts ∧
        Programs.stedeHook ∈ transfer.supplied.map AccountMeta.pubkey ∧
        accounts.all (permits transfer.metas) = true ∧
        execute rt env ledger accounts transfer.amount = .ok next := by
  simp only [invokeExecute, bind_eq_ok, require_eq_ok, exists_const, fallback_execute]

theorem transferChecked_eq_ok {rt : Runtime} {token : Token2022 rt} {env : Env}
    {ledger next : Ledger} {lists : MetaLists} {transfer : Transfer} :
    transferChecked token env ledger lists transfer = .ok next ↔
      ∃ moved, token.move ledger transfer = .ok moved ∧
        ((transfer.source = transfer.destination ∧ next = moved) ∨
          (transfer.source ≠ transfer.destination ∧ ∃ called,
            invokeExecute rt env moved lists transfer = .ok called ∧
              next = token.settle called transfer)) := by
  simp only [transferChecked, bind_eq_ok]
  refine exists_congr fun moved => and_congr_right fun _ => ?_
  by_cases self : transfer.source = transfer.destination
  · simp only [self, ↓reduceIte, pure, Except.pure, Except.ok.injEq, true_and, ne_eq,
      not_true_eq_false, false_and, or_false]
    exact eq_comm
  · simp only [self, ↓reduceIte, bind_eq_ok, pure, Except.pure, Except.ok.injEq, false_and, ne_eq,
      not_false_eq_true, true_and, false_or]
    refine exists_congr fun called => and_congr_right fun _ => eq_comm

/-- The addresses of a call, in order. -/
def Execute.pubkeys (accounts : Execute) : List Pubkey := accounts.toList.map AccountMeta.pubkey

namespace Rule

/-- The kind of account a rule is configured in. -/
def slot : Rule → RuleSlot
  | dailyLimit => .dailyLimit
  | blockHandle => .blockList
  | cooloff => .cooloff
  | newRecipientDelay => .slowSendConfig
  | timeWindow => .timeWindow
  | friendGate => .friendGate

theorem config_resolved (rt : Runtime) (source stedeMint destination authority recipient : Pubkey)
    (rule : Rule) :
    (rule.config (resolvedAccounts rt source stedeMint destination authority recipient)).pubkey =
      RuleKey.address rt ⟨⟨authority, stedeMint⟩, rule.slot⟩ := by
  cases rule <;> rfl

theorem contact_resolved (rt : Runtime) (source stedeMint destination authority recipient : Pubkey) :
    (resolvedAccounts rt source stedeMint destination authority recipient).slowSendContactPda.pubkey =
      RuleKey.address rt ⟨⟨authority, stedeMint⟩, .slowSendContact recipient⟩ := rfl

variable {rt : Runtime} {env : Env} {amount : UInt64}

/-- Of the accounts of a call a verdict takes the addresses, and for the two rules
that record something whether their account may be written. -/
theorem verdict_pubkeys {accounts accounts' : Execute} (same : accounts.pubkeys = accounts'.pubkeys)
    (daily : accounts.dailyLimitPda.isWritable = accounts'.dailyLimitPda.isWritable)
    (cool : accounts.cooloffPda.isWritable = accounts'.cooloffPda.isWritable) (rule : Rule)
    (ledger : Ledger) :
    rule.verdict rt env accounts amount ledger = rule.verdict rt env accounts' amount ledger := by
  simp only [Execute.pubkeys, Execute.toList, List.map_cons, List.map_nil, List.cons.injEq] at same
  cases rule <;>
    simp only [verdict, check, config, same, daily, cool, BlockList.checkTransfer,
      SlowSend.checkTransfer, TimeWindowConfig.checkTransfer, FriendGate.checkTransfer]

theorem config_pubkeys {accounts accounts' : Execute} (same : accounts.pubkeys = accounts'.pubkeys)
    (rule : Rule) : (rule.config accounts).pubkey = (rule.config accounts').pubkey := by
  simp only [Execute.pubkeys, Execute.toList, List.map_cons, List.map_nil, List.cons.injEq] at same
  cases rule <;> simp only [config, same]

theorem destination_pubkeys {accounts accounts' : Execute}
    (same : accounts.pubkeys = accounts'.pubkeys) :
    accounts.destinationToken.pubkey = accounts'.destinationToken.pubkey := by
  simp only [Execute.pubkeys, Execute.toList, List.map_cons, List.map_nil, List.cons.injEq] at same
  simp only [same]

/-- Reading the recipient takes the first 64 bytes of the destination. -/
theorem recipient_congr {data data' : List UInt8} (same : data.take 64 = data'.take 64) :
    (64 ≤ data.length ↔ 64 ≤ data'.length) ∧
      ∀ error, readPubkey data 32 error = readPubkey data' 32 error := by
  have lengths := congrArg List.length same
  rw [List.length_take, List.length_take] at lengths
  have long : 64 ≤ data.length ↔ 64 ≤ data'.length := by omega
  have field : (data.drop 32).take 32 = (data'.drop 32).take 32 := by
    have dropped := congrArg (List.drop 32) same
    rw [List.drop_take, List.drop_take] at dropped
    exact dropped
  refine ⟨long, fun error => ?_⟩
  simp only [readPubkey, slice, Nat.reduceAdd, Nat.reduceSub, long, field]

/-- A verdict reads the rule's own account, the contact, and where the destination
names its owner. -/
theorem verdict_recipient {accounts : Execute} (rule : Rule) {left right : Ledger}
    (own : left (rule.config accounts).pubkey = right (rule.config accounts).pubkey)
    (destination : (left accounts.destinationToken.pubkey).data.take 64 =
      (right accounts.destinationToken.pubkey).data.take 64)
    (contact : left accounts.slowSendContactPda.pubkey = right accounts.slowSendContactPda.pubkey) :
    rule.verdict rt env accounts amount left = rule.verdict rt env accounts amount right := by
  have ⟨long, read⟩ := recipient_congr destination
  cases rule with
  | dailyLimit | cooloff | timeWindow | friendGate =>
      simp only [config] at own
      simp only [verdict, check, map_eq_bind, bind_assoc, pure_bind, config, own,
        TimeWindowConfig.checkTransfer, FriendGate.checkTransfer]
  | blockHandle =>
      simp only [config] at own
      simp only [verdict, check, map_eq_bind, bind_assoc, pure_bind, config, own, read,
        BlockList.checkTransfer]
  | newRecipientDelay =>
      simp only [config] at own
      simp only [verdict, check, map_eq_bind, bind_assoc, pure_bind, config, own, read, long, contact,
        SlowSend.checkTransfer, SlowSend.checkTransferHandler]

end Rule

/-- Every list of extra accounts there is was written by the hook. -/
def ListsWritten (lists : MetaLists) : Prop :=
  ∀ list extras, lists list = some extras → extraAccounts = .ok extras

theorem ListsWritten.initialize {rt : Runtime} {ledger : Ledger} {lists : MetaLists}
    {accounts : InitializeExtraAccountMetaList} {next : Ledger × MetaLists}
    (written : ListsWritten lists)
    (success : initializeExtraAccountMetaList rt ledger lists accounts = .ok next) :
    ListsWritten next.2 := by
  have ⟨_, _, _, _, extras, packed, same⟩ :=
    (initializeExtraAccountMetaList_eq_ok _ _ _ _ _).mp success
  have updated : next.2 = Function.update lists accounts.extraAccountMetaList (some extras) :=
    congrArg Prod.snd same
  intro list extras' found
  rw [updated] at found
  by_cases here : list = accounts.extraAccountMetaList
  · rw [here, Function.update_self] at found
    rw [packed, Option.some.inj found]
  · rw [Function.update_of_ne here] at found
    exact written list extras' found

section Calls

variable {rt : Runtime} {env : Env} {ledger next : Ledger} {lists : MetaLists} {transfer : Transfer}
  {recipient : Pubkey}

/-- The accounts that the rules would be called with if `authority` were the
authority of the transfer. -/
def callFor (rt : Runtime) (transfer : Transfer) (authority recipient : Pubkey) : Execute :=
  resolvedAccounts rt transfer.source transfer.stedeMint transfer.destination authority recipient

theorem executeAccounts_pubkeys (written : ListsWritten lists) {accounts : List AccountMeta}
    (owned : (ledger transfer.destination).tokenOwner = some recipient)
    (success : executeAccounts rt ledger lists transfer = .ok accounts) :
    accounts.length = 4 ∨ accounts.map AccountMeta.pubkey =
      (callFor rt transfer transfer.authority.pubkey recipient).pubkeys := by
  simp only [executeAccounts] at success
  split at success
  · have ⟨extras, found, resolved⟩ := (bind_eq_ok _ _ _).mp success
    have resolves := extraAccounts_resolve rt ledger transfer.source transfer.stedeMint
      transfer.destination transfer.authority.pubkey recipient (Account.long_of_tokenOwner owned)
      ((Account.tokenOwner_eq_some _ _).mp owned)
    rw [written _ _ ((okOr_eq_ok _ _ _).mp found), ok_bind] at resolves
    rw [addToCpiInstruction, resolves, ok_bind] at resolved
    have ⟨_, _, same⟩ := (bind_eq_ok _ _ _).mp resolved
    right
    rw [← Except.ok.inj same, deEscalateAll_pubkeys]
    rfl
  · left
    rw [← Except.ok.inj success]
    rfl

theorem tryAccounts_writable {execute parsed : Execute} {rest : List AccountMeta}
    (success : Execute.tryAccounts rt ledger (execute.toList ++ rest) = .ok parsed) :
    execute.dailyLimitPda.isWritable = true ∧ execute.cooloffPda.isWritable = true := by
  simp only [Execute.toList, List.cons_append, Execute.tryAccounts, bind_eq_ok, require_eq_ok,
    exists_const] at success
  obtain ⟨_, _, _, _, _, _, _, _, _, _, _, _, _, _, daily, cool, _⟩ := success
  exact ⟨daily, cool⟩

theorem execute_short {accounts : List AccountMeta} (short : accounts.length = 4) (amount : UInt64) :
    ¬ execute rt env ledger accounts amount = .ok next := by
  intro success
  have ⟨_, parsed, _⟩ := (bind_eq_ok _ _ _).mp success
  rcases toList_or_short rt accounts with ⟨execute, rest, split⟩ | few
  · have size := congrArg List.length split
    rw [List.length_append, short] at size
    have whole : execute.toList.length = 19 := rfl
    omega
  · rw [few] at parsed
    cases parsed

/-- A hook call that succeeds is one of the handler, on accounts at the addresses
of the list. -/
theorem handler_of_execute {accounts : List AccountMeta} {expected : Execute} {amount : UInt64}
    (same : accounts.map AccountMeta.pubkey = expected.pubkeys)
    (success : execute rt env ledger accounts amount = .ok next) :
    ∃ given : Execute, given.pubkeys = expected.pubkeys ∧ given.dailyLimitPda.isWritable = true ∧
      given.cooloffPda.isWritable = true ∧
      executeHandler rt env ledger given amount = .ok next := by
  have ⟨_, parsed, handled⟩ := (bind_eq_ok _ _ _).mp success
  rcases toList_or_short rt accounts with ⟨given, rest, split⟩ | short
  · rw [split] at parsed same
    have ⟨daily, cool⟩ := tryAccounts_writable parsed
    rw [tryAccounts_toList rt parsed] at handled
    refine ⟨given, ?_, daily, cool, handled⟩
    rw [List.map_append, ← List.append_nil expected.pubkeys] at same
    exact List.append_inj_left same rfl
  · rw [short] at parsed
    cases parsed

theorem ruleSlots_pubkeys {accounts accounts' : Execute} (same : accounts.pubkeys = accounts'.pubkeys) :
    accounts.ruleSlots = accounts'.ruleSlots := by
  simp only [Execute.pubkeys, Execute.toList, List.map_cons, List.map_nil, List.cons.injEq] at same
  simp only [Execute.ruleSlots, same]

/-- What a hook call does that succeeds: each rule of the authority accepts, and
nothing changes but what the rules leave in their accounts. -/
theorem invokeExecute_verdicts (written : ListsWritten lists)
    (free : rt.CollisionFree
      {key | key ∈ ruleKeys transfer.authority.pubkey transfer.stedeMint recipient})
    (held : (ledger transfer.destination).owner = Programs.token2022)
    (owned : (ledger transfer.destination).tokenOwner = some recipient)
    (success : invokeExecute rt env ledger lists transfer = .ok next) :
    (∀ rule : Rule, rule.verdict rt env
        (callFor rt transfer transfer.authority.pubkey recipient) transfer.amount ledger =
      .ok (next (RuleKey.address rt ⟨⟨transfer.authority.pubkey, transfer.stedeMint⟩, rule.slot⟩))) ∧
    ∀ key, (∀ rule : Rule, key ≠
        RuleKey.address rt ⟨⟨transfer.authority.pubkey, transfer.stedeMint⟩, rule.slot⟩) →
      next key = ledger key := by
  have ⟨accounts, listed, _, _, executed⟩ := invokeExecute_eq_ok.mp success
  rcases executeAccounts_pubkeys written owned listed with short | same
  · exact absurd executed (execute_short short transfer.amount)
  · have ⟨given, pubkeys, daily, cool, handled⟩ := handler_of_execute same executed
    have apart : given.ruleSlots.Nodup := by
      rw [ruleSlots_pubkeys pubkeys]
      exact ruleSlots_nodup free
    have config (rule : Rule) : (rule.config given).pubkey =
        RuleKey.address rt ⟨⟨transfer.authority.pubkey, transfer.stedeMint⟩, rule.slot⟩ := by
      rw [Rule.config_pubkeys pubkeys]
      exact Rule.config_resolved _ _ _ _ _ _ rule
    have token : given.destinationToken.pubkey = transfer.destination :=
      Rule.destination_pubkeys pubkeys
    have held' : Rule.DestinationHeld given ledger := by
      rw [Rule.DestinationHeld, token]
      exact held
    rw [executeHandler_eq_checkAll, Rule.checkAll_eq_ok apart held'] at handled
    simp only [config] at handled
    refine ⟨fun rule => ?_, handled.2⟩
    rw [← handled.1 rule]
    exact (Rule.verdict_pubkeys pubkeys daily cool rule ledger).symm

/-- A hook call changes no account of Token-2022. -/
theorem execute_spares_tokens {accounts : List AccountMeta} {amount : UInt64} {key : Pubkey}
    (held : (ledger key).owner = Programs.token2022)
    (success : execute rt env ledger accounts amount = .ok next) : next key = ledger key := by
  have ⟨given, _, handled⟩ := (bind_eq_ok _ _ _).mp success
  simp only [executeHandler, bind_eq_ok] at handled
  have ⟨spent, first, _, _, _, _, cooled, second, _, _, _, _, _, _, last⟩ := handled
  have daily : Programs.token2022 ≠ DailyLimit.kind.program :=
    (Programs.workspace_foreign (by simp [Programs.workspace, DailyLimit.kind])).2.symm
  have cool : Programs.token2022 ≠ Cooloff.kind.program :=
    (Programs.workspace_foreign (by simp [Programs.workspace, Cooloff.kind])).2.symm
  have kept : spent key = ledger key :=
    DailyLimit.checkTransfer_spares first fun _ => Or.inr (by rw [held]; exact daily)
  rw [← Except.ok.inj last, ← kept]
  exact Cooloff.checkTransfer_spares second fun _ => Or.inr (by rw [kept, held]; exact cool)

/-- A settled transfer leaves the accounts with their owners. -/
theorem transferChecked_owner {token : Token2022 rt}
    (success : transferChecked token env ledger lists transfer = .ok next) :
    (next transfer.destination).tokenOwner = (ledger transfer.destination).tokenOwner := by
  have ⟨moved, paid, rest⟩ := transferChecked_eq_ok.mp success
  have keeps := token.move_keeps _ _ _ paid
  have first := Account.tokenOwner_congr (keeps.parties transfer.destination)
  rcases rest with ⟨_, same⟩ | ⟨_, called, invoked, same⟩
  · rw [same]
    exact first
  · have ⟨_, _, _, _, executed⟩ := invokeExecute_eq_ok.mp invoked
    have held : (moved transfer.destination).owner = Programs.token2022 :=
      (keeps.program _).trans (token.move_valid _ _ _ paid).1.destination.1
    have settled := (token.settle_keeps called transfer).parties transfer.destination
    rw [execute_spares_tokens held executed] at settled
    rw [same, Account.tokenOwner_congr settled]
    exact first

/-- Without the accounts of the hook no money moves to another account. -/
theorem not_transferChecked_bare {token : Token2022 rt} (bare : transfer.supplied = [])
    (apart : transfer.source ≠ transfer.destination) :
    ¬ transferChecked token env ledger lists transfer = .ok next := by
  intro success
  have ⟨moved, _, rest⟩ := transferChecked_eq_ok.mp success
  rcases rest with ⟨self, _⟩ | ⟨_, called, invoked, _⟩
  · exact apart self
  · have ⟨_, _, hooked, _⟩ := invokeExecute_eq_ok.mp invoked
    rw [bare] at hooked
    cases hooked

/-- The contact entry needs a destination that is there. -/
theorem long_of_resolves {rt : Runtime} {ledger : Ledger}
    {source stedeMint destination authority : Pubkey} {accounts : List AccountMeta}
    (resolved : (extraAccounts >>= resolveAll rt ledger
      (baseAccounts rt source stedeMint destination authority)) = .ok accounts) :
    64 ≤ (ledger destination).data.length := by
  rw [extraAccounts_eq_ok, ok_bind] at resolved
  obtain ⟨more, account, contact⟩ := resolve_of_mem (by simp only [List.mem_cons, true_or, or_true] :
    contactMeta ∈ _) resolved
  simp only [contactMeta, ExtraAccountMeta.resolve, bind_eq_ok] at contact
  obtain ⟨_, _, seeds, mapped, _⟩ := contact
  simp only [List.mapM_cons, bind_eq_ok, Seed.resolve, require_eq_ok, okOr_eq_ok] at mapped
  obtain ⟨_, _, _, ⟨_, _, _, ⟨_, ⟨given, found, _, long, _⟩, _⟩, _⟩, _⟩ := mapped
  have here : given = ⟨destination, false, false⟩ := (Option.some.inj found).symm
  rw [here] at long
  exact long

/-- The accounts that a client supplies behind the four of the transfer. -/
def suppliedFor (rt : Runtime) (stedeMint : Pubkey) (accounts : Execute) : List AccountMeta :=
  accounts.toList.drop 5 ++ [⟨Programs.stedeHook, false, false⟩,
    ⟨(extraAccountMetaListPda rt stedeMint).1, false, false⟩]

/-- The two rule accounts that a call may write are at no other address of it. -/
def WritableApart (rt : Runtime) (transfer : Transfer) : Prop :=
  ∀ slot ∈ [RuleSlot.dailyLimit, RuleSlot.cooloff],
    RuleKey.address rt ⟨⟨transfer.authority.pubkey, transfer.stedeMint⟩, slot⟩ ∉
      [transfer.source, transfer.stedeMint, transfer.destination, transfer.authority.pubkey,
        (extraAccountMetaListPda rt transfer.stedeMint).1] ++ Programs.workspace

theorem deEscalateAll_call (apart : WritableApart rt transfer)
    (rules : (callFor rt transfer transfer.authority.pubkey recipient).ruleSlots.Nodup) :
    deEscalateAll (baseAccounts rt transfer.source transfer.stedeMint transfer.destination
        transfer.authority.pubkey)
      ((callFor rt transfer transfer.authority.pubkey recipient).toList.drop 5) =
        (callFor rt transfer transfer.authority.pubkey recipient).toList := by
  have daily : (DailyLimit.kind.pda rt transfer.authority.pubkey transfer.stedeMint).1 ∉ _ :=
    apart .dailyLimit List.mem_cons_self
  have cool : (Cooloff.kind.pda rt transfer.authority.pubkey transfer.stedeMint).1 ∉ _ :=
    apart .cooloff (List.mem_cons_of_mem _ List.mem_cons_self)
  have first : (DailyLimit.kind.pda rt transfer.authority.pubkey transfer.stedeMint).1 ≠
      (Cooloff.kind.pda rt transfer.authority.pubkey transfer.stedeMint).1 :=
    (Rule.config_apart rules .dailyLimit).2 .cooloff (by decide)
  have second : (BlockList.kind.pda rt transfer.authority.pubkey transfer.stedeMint).1 ≠
      (Cooloff.kind.pda rt transfer.authority.pubkey transfer.stedeMint).1 :=
    (Rule.config_apart rules .blockHandle).2 .cooloff (by decide)
  simp only [List.cons_append, List.nil_append, Programs.workspace, List.mem_cons, not_or,
    List.not_mem_nil, not_false_eq_true, and_true] at daily cool
  rw [deEscalateAll_eq]
  · rfl
  · simp [Execute.toList, callFor, resolvedAccounts]
  · simp [Execute.toList, callFor, resolvedAccounts]
    grind
  · simp [Execute.toList, callFor, resolvedAccounts, baseAccounts]
    grind

/-- The client's instruction has every account of the hook call, with the privileges
the call gives it. -/
theorem permits_call (supplied : transfer.supplied = suppliedFor rt transfer.stedeMint
      (callFor rt transfer transfer.authority.pubkey recipient)) :
    (callFor rt transfer transfer.authority.pubkey recipient).toList.all (permits transfer.metas) =
      true := by
  rw [List.all_eq_true]
  intro account member
  have split : account ∈ baseAccounts rt transfer.source transfer.stedeMint transfer.destination
      transfer.authority.pubkey ++
        (callFor rt transfer transfer.authority.pubkey recipient).toList.drop 5 := member
  rcases List.mem_append.mp split with base | extra
  · simp only [baseAccounts, List.map_cons, List.map_nil, List.mem_cons, List.not_mem_nil,
      or_false] at base
    have listed : ⟨(extraAccountMetaListPda rt transfer.stedeMint).1, false, false⟩ ∈
        transfer.metas := by
      simp [Transfer.metas, supplied, suppliedFor]
    rcases base with same | same | same | same | same <;> rw [same] <;> apply permits_of_mem rfl
    · exact ⟨⟨transfer.source, false, true⟩, by simp [Transfer.metas], rfl, nofun⟩
    · exact ⟨⟨transfer.stedeMint, false, false⟩, by simp [Transfer.metas], rfl, id⟩
    · exact ⟨⟨transfer.destination, false, true⟩, by simp [Transfer.metas], rfl, nofun⟩
    · exact ⟨transfer.authority, by simp [Transfer.metas], rfl, nofun⟩
    · exact ⟨_, listed, rfl, id⟩
  · have unsigned : ∀ other ∈ (callFor rt transfer transfer.authority.pubkey recipient).toList,
        other.isSigner = false := by
      simp [Execute.toList, callFor, resolvedAccounts]
    apply permits_of_mem (unsigned account member)
    refine ⟨account, ?_, rfl, id⟩
    rw [Transfer.metas, supplied, suppliedFor]
    exact List.mem_append_right _ (List.mem_append_left _ extra)

/-- The hook call that Token-2022 makes of the client's instruction. -/
theorem executeAccounts_call (written : ListsWritten lists)
    (listed : (lists (extraAccountMetaListPda rt transfer.stedeMint).1).isSome = true)
    (supplied : transfer.supplied = suppliedFor rt transfer.stedeMint
      (callFor rt transfer transfer.authority.pubkey recipient))
    (apart : WritableApart rt transfer)
    (rules : (callFor rt transfer transfer.authority.pubkey recipient).ruleSlots.Nodup)
    (owned : (ledger transfer.destination).tokenOwner = some recipient) :
    executeAccounts rt ledger lists transfer =
      .ok (callFor rt transfer transfer.authority.pubkey recipient).toList := by
  obtain ⟨extras, found⟩ := Option.isSome_iff_exists.mp listed
  have resolves := extraAccounts_resolve rt ledger transfer.source transfer.stedeMint
    transfer.destination transfer.authority.pubkey recipient (Account.long_of_tokenOwner owned)
    ((Account.tokenOwner_eq_some _ _).mp owned)
  rw [written _ _ found, ok_bind, ← callFor] at resolves
  have list_mem : (extraAccountMetaListPda rt transfer.stedeMint).1 ∈
      transfer.supplied.map AccountMeta.pubkey := by
    simp [supplied, suppliedFor]
  have extras_mem : ∀ account ∈ (callFor rt transfer transfer.authority.pubkey
      recipient).toList.drop 5, account.pubkey ∈ transfer.supplied.map AccountMeta.pubkey := by
    intro account member
    rw [supplied, suppliedFor]
    exact List.mem_map_of_mem (List.mem_append_left _ member)
  have base : (baseAccounts rt transfer.source transfer.stedeMint transfer.destination
      transfer.authority.pubkey).length = 5 := rfl
  simp only [executeAccounts, if_pos list_mem, found, okOr, ok_bind, addToCpiInstruction, resolves,
    base]
  rw [require_of_true extras_mem, ok_bind]
  exact congrArg Except.ok (deEscalateAll_call apart rules)

/-- The hook lets through what every rule of the authority accepts, if it is called
through the client's instruction. -/
theorem invokeExecute_of_verdicts (written : ListsWritten lists)
    (listed : (lists (extraAccountMetaListPda rt transfer.stedeMint).1).isSome = true)
    (supplied : transfer.supplied = suppliedFor rt transfer.stedeMint
      (callFor rt transfer transfer.authority.pubkey recipient))
    (apart : WritableApart rt transfer)
    (free : rt.CollisionFree
      {key | key ∈ ruleKeys transfer.authority.pubkey transfer.stedeMint recipient})
    (mint : loadMint rt (ledger transfer.stedeMint) = .ok ())
    (held : (ledger transfer.destination).owner = Programs.token2022)
    (owned : (ledger transfer.destination).tokenOwner = some recipient)
    (accepts : ∀ rule : Rule, ∃ value, rule.verdict rt env
      (callFor rt transfer transfer.authority.pubkey recipient) transfer.amount ledger = .ok value) :
    ∃ called, invokeExecute rt env ledger lists transfer = .ok called := by
  have rules : (callFor rt transfer transfer.authority.pubkey recipient).ruleSlots.Nodup :=
    ruleSlots_nodup free
  have accounts := executeAccounts_call written listed supplied apart rules owned
  have hook_mem : Programs.stedeHook ∈ transfer.supplied.map AccountMeta.pubkey := by
    simp [supplied, suppliedFor]
  obtain ⟨called, handled⟩ : ∃ called, executeHandler rt env ledger
      (callFor rt transfer transfer.authority.pubkey recipient) transfer.amount = .ok called := by
    have ⟨_, _, _, _, success⟩ := Rule.checkAll_of_verdicts rules held accepts
    rw [executeHandler_eq_checkAll]
    exact ⟨_, success⟩
  have parsed : Execute.tryAccounts rt ledger
      (callFor rt transfer transfer.authority.pubkey recipient).toList =
        .ok (callFor rt transfer transfer.authority.pubkey recipient) :=
    tryAccounts_resolved rt ledger _ _ _ _ _ mint
  have executed : execute rt env ledger
      (callFor rt transfer transfer.authority.pubkey recipient).toList transfer.amount =
        .ok called := by
    rw [execute, parsed, ok_bind]
    exact handled
  exact ⟨_, invokeExecute_eq_ok.mpr ⟨_, accounts, hook_mem, permits_call supplied, executed⟩⟩

end Calls

end Stede.Hook
