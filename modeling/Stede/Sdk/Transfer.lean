import Stede.HandleRegistry.Registry
import Stede.Hook.OwnerBound
import Stede.Sdk.Pdas

set_option autoImplicit false

/- `StedeClient.transfer`: what the client looks up, builds and submits. -/
namespace Stede.Sdk

open ExtraAccountMeta
open Hook (MetaLists baseAccounts extraAccountMetaListPda callFor suppliedFor transferKeys)

/-- What the client and its transactions take from `spl-token`: Token-2022, the curve
test on wallets, and the token account that a wallet's associated one starts as. -/
structure SplToken (rt : Runtime) where
  token : Token2022 rt
  isOnCurve : Pubkey → Bool
  opened : Pubkey → Pubkey → Account
  opened_holds : ∀ stedeMint wallet, (opened stedeMint wallet).HoldsTokens stedeMint
  opened_owner : ∀ stedeMint wallet, (opened stedeMint wallet).tokenOwner = some wallet

/-- The chain as a client finds it. -/
structure World where
  handles : HandleRegistry.State
  ledger : Ledger
  lists : MetaLists
  clock : Clock

def ASSOCIATED_TOKEN_PROGRAM_ID : Pubkey :=
  .ofBase58 "ATokenGPvbdGVxr1b2hvZbsiqW5xWH25efTNsLJA8knL"

def deriveHandlePda (rt : Runtime) (name : String) : Pubkey :=
  (rt.pda [byteString "handle", HandleRegistry.asBytes name] STEDE_HANDLE_REGISTRY_PROGRAM_ID).1

/-- The address of a wallet's token account for the mint. -/
def stedeAta (rt : Runtime) (wallet stedeMint : Pubkey) : Pubkey :=
  (rt.pda [wallet.bytes, Programs.token2022.bytes, stedeMint.bytes] ASSOCIATED_TOKEN_PROGRAM_ID).1

/-- `getAccountInfo`: an account without lamports does not exist. -/
def getAccountInfo (ledger : Ledger) (key : Pubkey) : Option Account :=
  if (ledger key).lamports = 0 then none else some (ledger key)

/-- The accounts as a client can fetch them. -/
def fetched (ledger : Ledger) : Ledger := fun key => (getAccountInfo ledger key).getD .absent

section Client

variable {rt : Runtime} (spl : SplToken rt)

/-- `resolveHandle`: a failing fetch is `null`. -/
def resolveHandle (rt : Runtime) (handles : HandleRegistry.State) (name : String) :
    Option HandleRegistry.Handle :=
  (handles.loadHandle (deriveHandlePda rt name)).toOption

/-- `getStedeAta`: the owner of the account must not be off the curve. -/
def getStedeAta (wallet stedeMint : Pubkey) : Except Error Pubkey := do
  require (spl.isOnCurve wallet) (.program .invalidArgument)
  return stedeAta rt wallet stedeMint

/-- The extra accounts of the mint's transfer hook, resolved over the chain as it is
now, and behind them the hook and its list. Without a list there is nothing to add. -/
def addExtraAccountMetasForExecute (rt : Runtime) (world : World)
    (source stedeMint destination owner : Pubkey) : Except Error (List AccountMeta) :=
  let base := baseAccounts rt source stedeMint destination owner
  let list := (extraAccountMetaListPda rt stedeMint).1
  match world.lists list with
  | none => .ok []
  | some extras => do
      let accounts ← resolveAll rt (fetched world.ledger) base extras
      return (deEscalateAll base (accounts.drop base.length)).drop base.length ++
        [⟨Programs.stedeHook, false, false⟩, ⟨list, false, false⟩]

/-- `createTransferCheckedWithTransferHookInstruction`. -/
def createTransferChecked (rt : Runtime) (world : World)
    (source stedeMint destination owner : Pubkey) (amount : UInt64) (decimals : UInt8) :
    Except Error Transfer := do
  let mintInfo ← okOr (getAccountInfo world.ledger stedeMint) (.program .accountNotFound)
  require (mintInfo.owner = Programs.token2022 ∧ rt.unpacksAsMint mintInfo.data = true)
    (.program .invalidAccountData)
  let supplied ← addExtraAccountMetasForExecute rt world source stedeMint destination owner
  return ⟨source, stedeMint, destination, ⟨owner, true, false⟩, amount, decimals, supplied⟩

/-- The instructions of the client's transaction. -/
inductive TxInstruction
  | createAssociatedTokenAccount (payer associatedToken owner stedeMint : Pubkey)
  | transferChecked (transfer : Transfer)

def TxInstruction.metas : TxInstruction → List AccountMeta
  | createAssociatedTokenAccount payer associatedToken owner stedeMint =>
      [⟨payer, true, true⟩, ⟨associatedToken, false, true⟩, ⟨owner, false, false⟩,
        ⟨stedeMint, false, false⟩, ⟨Programs.system, false, false⟩, ⟨Programs.token2022, false, false⟩]
  | transferChecked transfer => transfer.metas

def TxInstruction.process (env : Env) (lists : MetaLists) (ledger : Ledger) :
    TxInstruction → Except Error Ledger
  | createAssociatedTokenAccount _ associatedToken owner stedeMint => do
      require ((ledger associatedToken).owner = Programs.system ∧ (ledger associatedToken).data = [])
        (.program .accountAlreadyInUse)
      return ledger.write associatedToken (spl.opened stedeMint owner)
  | transferChecked transfer => Hook.transferChecked spl.token env ledger lists transfer

/-- The instructions of a transaction in turn; one that fails undoes them all. -/
def processAll (world : World) (all : List (List AccountMeta)) :
    Nat → List TxInstruction → Ledger → Except Error Ledger
  | _, [], ledger => .ok ledger
  | index, instruction :: rest, ledger => do
      let ledger ← instruction.process spl ⟨world.clock, all, index⟩ world.lists ledger
      processAll world all (index + 1) rest ledger

/-- `sendAndConfirm`. -/
def sendAndConfirm (world : World) (instructions : List TxInstruction) : Except Error Ledger :=
  processAll spl world (instructions.map TxInstruction.metas) 0 instructions world.ledger

/-- The instruction that creates the recipient's account if it is missing. -/
def creation (rt : Runtime) (world : World) (sender recipient stedeMint : Pubkey) : List TxInstruction :=
  let destAta := stedeAta rt recipient stedeMint
  if getAccountInfo world.ledger destAta = none then
    [.createAssociatedTokenAccount sender destAta recipient stedeMint]
  else []

/-- `StedeClient.transfer` by the wallet `sender`. -/
def transfer (world : World) (sender : Pubkey) (toHandle : String) (stedeMint : Pubkey)
    (amount : UInt64) (decimals : UInt8) : Except Error Ledger := do
  let recipientRecord ← okOr (resolveHandle rt world.handles toHandle) (.program .invalidArgument)
  let recipient := recipientRecord.owner
  let sourceAta ← getStedeAta spl sender stedeMint
  let destAta ← getStedeAta spl recipient stedeMint
  let transferIx ← createTransferChecked rt world sourceAta stedeMint destAta sender amount decimals
  sendAndConfirm spl world
    (creation rt world sender recipient stedeMint ++ [.transferChecked transferIx])

end Client

/-- A call of `transfer`, once the handle is resolved. -/
structure Request where
  sender : Pubkey
  recipient : Pubkey
  stedeMint : Pubkey
  amount : UInt64
  decimals : UInt8

namespace Request

variable {rt : Runtime}

def sourceAta (rt : Runtime) (request : Request) : Pubkey := stedeAta rt request.sender request.stedeMint
def destAta (rt : Runtime) (request : Request) : Pubkey := stedeAta rt request.recipient request.stedeMint

/-- The accounts that the sender's rules are called with. -/
def call (rt : Runtime) (request : Request) : Hook.Execute :=
  Hook.resolvedAccounts rt (request.sourceAta rt) request.stedeMint (request.destAta rt)
    request.sender request.recipient

/-- The instruction that a client with the right accounts builds. -/
@[simps] def instruction (rt : Runtime) (world : World) (request : Request) : Transfer where
  source := request.sourceAta rt
  stedeMint := request.stedeMint
  destination := request.destAta rt
  authority := ⟨request.sender, true, false⟩
  amount := request.amount
  decimals := request.decimals
  supplied :=
    if (world.lists (extraAccountMetaListPda rt request.stedeMint).1).isSome then
      suppliedFor rt request.stedeMint (request.call rt)
    else []

/-- The transaction as the transfer in it sees it. -/
def env (rt : Runtime) (world : World) (request : Request) : Env :=
  let before := creation rt world request.sender request.recipient request.stedeMint
  ⟨world.clock, before.map TxInstruction.metas ++ [(request.instruction rt world).metas], before.length⟩

/-- Every rule of the sender would accept a transfer to an account of the recipient. -/
def Accepted (spl : SplToken rt) (world : World) (request : Request) : Prop :=
  ∀ rule : Hook.Rule, ∃ value,
    rule.verdict rt (request.env rt world) (request.call rt) request.amount
      (world.ledger.write (request.destAta rt) (spl.opened request.stedeMint request.recipient)) =
        .ok value

/-- The sender's account holds at least the amount. -/
def Funded (rt : Runtime) (world : World) (request : Request) : Prop :=
  (world.ledger (request.sourceAta rt)).HoldsTokens request.stedeMint ∧
    (world.ledger (request.sourceAta rt)).tokenOwner = some request.sender ∧
    request.amount.toNat ≤ (world.ledger (request.sourceAta rt)).tokenAmount

instance (world : World) (request : Request) : Decidable (request.Funded rt world) :=
  inferInstanceAs (Decidable (_ ∧ _ ∧ _))

/-- The recipient's account has been credited; a transfer to oneself moves nothing. -/
def Credited (rt : Runtime) (request : Request) (before after : Ledger) : Prop :=
  (after (request.destAta rt)).tokenOwner = some request.recipient ∧
    (after (request.destAta rt)).tokenAmount +
        (if request.sourceAta rt = request.destAta rt then request.amount.toNat else 0) =
      (before (request.destAta rt)).tokenAmount + request.amount.toNat

/-- What has to be the case when `transfer` is called: the recipient's account, above
all, must be there already. -/
structure Ready (spl : SplToken rt) (world : World) (request : Request) : Prop where
  recipientAccount : (world.ledger (request.destAta rt)).lamports ≠ 0 ∧
    (world.ledger (request.destAta rt)).HoldsTokens request.stedeMint ∧
    (world.ledger (request.destAta rt)).tokenOwner = some request.recipient
  onCurve : spl.isOnCurve request.sender = true ∧ spl.isOnCurve request.recipient = true
  mint : (world.ledger request.stedeMint).lamports ≠ 0 ∧
    (world.ledger request.stedeMint).owner = Programs.token2022 ∧
    rt.unpacksAsMint (world.ledger request.stedeMint).data = true ∧
    (world.ledger request.stedeMint).data[44]? = some request.decimals
  list : request.sourceAta rt ≠ request.destAta rt →
    (world.lists (extraAccountMetaListPda rt request.stedeMint).1).isSome = true
  room : request.sourceAta rt ≠ request.destAta rt →
    (world.ledger (request.destAta rt)).tokenAmount + request.amount.toNat < 2 ^ 64
  admitted : spl.token.admits world.ledger (request.instruction rt world)

/-- What the platform sees to: the wallet can sign, the lists are the hook's, and
addresses that are derived or assigned in different ways are different. -/
structure Platform (rt : Runtime) (world : World) (request : Request) : Prop where
  signs : rt.canSign request.sender = true
  written : Hook.ListsWritten world.lists
  foreign : ∀ key ∈ transferKeys request.sender request.sender request.recipient request.stedeMint,
    (world.ledger (key.address rt)).owner ≠ Programs.token2022
  free : rt.CollisionFree (RuleKey.derivation ''
    transferKeys request.sender request.sender request.recipient request.stedeMint)
  derived : ∀ slot ∈ [RuleSlot.dailyLimit, RuleSlot.cooloff],
    RuleKey.address rt ⟨⟨request.sender, request.stedeMint⟩, slot⟩ ∉
      (extraAccountMetaListPda rt request.stedeMint).1 :: Programs.workspace
  mint : request.stedeMint ≠ request.sourceAta rt ∧ request.stedeMint ≠ request.destAta rt

theorem createTransferChecked_eq_ok {world : World} {source stedeMint destination owner : Pubkey}
    {amount : UInt64} {decimals : UInt8} {transferIx : Transfer} :
    createTransferChecked rt world source stedeMint destination owner amount decimals =
        .ok transferIx ↔
      ((world.ledger stedeMint).lamports ≠ 0 ∧
        (world.ledger stedeMint).owner = Programs.token2022 ∧
        rt.unpacksAsMint (world.ledger stedeMint).data = true) ∧
      ∃ supplied, addExtraAccountMetasForExecute rt world source stedeMint destination owner =
          .ok supplied ∧
        transferIx = ⟨source, stedeMint, destination, ⟨owner, true, false⟩, amount, decimals,
          supplied⟩ := by
  by_cases missing : (world.ledger stedeMint).lamports = 0
  · have info : getAccountInfo world.ledger stedeMint = none := if_pos missing
    simp [createTransferChecked, info, okOr, bind_eq_ok, missing]
  · have info : getAccountInfo world.ledger stedeMint = some (world.ledger stedeMint) :=
      if_neg missing
    simp only [createTransferChecked, info, okOr, ok_bind, bind_eq_ok, require_eq_ok, exists_const,
      pure, Except.pure, Except.ok.injEq, ne_eq, missing, not_false_eq_true, true_and]
    refine and_congr_right fun _ => exists_congr fun supplied => and_congr_right fun _ => eq_comm

section Building

variable {world : World} {request : Request} (platform : request.Platform rt world)
  (sourceHolds : (world.ledger (request.sourceAta rt)).HoldsTokens request.stedeMint)
  (destHolds : (world.ledger (request.destAta rt)).HoldsTokens request.stedeMint)
  (mintOwner : (world.ledger request.stedeMint).owner = Programs.token2022)
include platform

theorem config_foreign (rule : Hook.Rule) :
    (world.ledger (RuleKey.address rt ⟨⟨request.sender, request.stedeMint⟩, rule.slot⟩)).owner ≠
      Programs.token2022 :=
  platform.foreign _ (Hook.config_mem rule (Or.inl rfl))

include sourceHolds destHolds mintOwner in
theorem writableApart : Hook.WritableApart rt (request.instruction rt world) := by
  intro slot member
  have rule_slot : ∃ rule : Hook.Rule, rule.slot = slot := by
    simp only [List.mem_cons, List.not_mem_nil, or_false] at member
    rcases member with same | same
    · exact ⟨.dailyLimit, same.symm⟩
    · exact ⟨.cooloff, same.symm⟩
  obtain ⟨rule, same⟩ := rule_slot
  have foreign := config_foreign platform rule
  have silent := Hook.rule_address_silent rt ⟨⟨request.sender, request.stedeMint⟩, slot⟩
  rw [same] at foreign
  have other := platform.derived slot member
  simp only [List.mem_cons, not_or] at other
  simp only [instruction, List.cons_append, List.nil_append, List.mem_cons, not_or]
  refine ⟨?_, ?_, ?_, ?_, other⟩
  · intro here
    rw [here] at foreign
    exact foreign sourceHolds.1
  · intro here
    rw [here] at foreign
    exact foreign mintOwner
  · intro here
    rw [here] at foreign
    exact foreign destHolds.1
  · intro here
    rw [here, platform.signs] at silent
    cases silent

theorem ruleSlots_nodup : (request.call rt).ruleSlots.Nodup :=
  Hook.ruleSlots_nodup (platform.free.mono (Hook.ruleKeys_subset _ _))

include sourceHolds destHolds mintOwner in
/-- With the recipient's account in place the client builds the right instruction. -/
theorem createTransferChecked_eq
    (mint : (world.ledger request.stedeMint).lamports ≠ 0 ∧
      rt.unpacksAsMint (world.ledger request.stedeMint).data = true)
    (present : (world.ledger (request.destAta rt)).lamports ≠ 0)
    (owned : (world.ledger (request.destAta rt)).tokenOwner = some request.recipient) :
    createTransferChecked rt world (request.sourceAta rt) request.stedeMint (request.destAta rt)
      request.sender request.amount request.decimals = .ok (request.instruction rt world) := by
  have there : fetched world.ledger (request.destAta rt) = world.ledger (request.destAta rt) := by
    simp only [fetched, getAccountInfo, present, ↓reduceIte, Option.getD_some]
  have info : getAccountInfo world.ledger request.stedeMint =
      some (world.ledger request.stedeMint) := if_neg mint.1
  simp only [createTransferChecked, info, okOr, ok_bind]
  rw [require_of_true ⟨mintOwner, mint.2⟩, ok_bind]
  cases listed : world.lists (extraAccountMetaListPda rt request.stedeMint).1 with
  | none => simp [addExtraAccountMetasForExecute, instruction, listed, bind, Except.bind, pure,
      Except.pure]
  | some extras =>
      have resolves := Hook.extraAccounts_resolve rt (fetched world.ledger) (request.sourceAta rt)
        request.stedeMint (request.destAta rt) request.sender request.recipient
        (by rw [there]; exact Account.long_of_tokenOwner owned)
        (by rw [there]; exact (Account.tokenOwner_eq_some _ _).mp owned)
      rw [platform.written _ _ listed, ok_bind, ← call] at resolves
      have kept := @Hook.deEscalateAll_call rt (request.instruction rt world) request.recipient
        (writableApart platform sourceHolds destHolds mintOwner)
      simp only [callFor, instruction_source, instruction_stedeMint, instruction_destination,
        instruction_authority_pubkey] at kept
      rw [← call] at kept
      have base : (baseAccounts rt (request.sourceAta rt) request.stedeMint (request.destAta rt)
          request.sender).length = 5 := rfl
      simp only [addExtraAccountMetasForExecute, listed, resolves, ok_bind, base,
        kept (ruleSlots_nodup platform), instruction, Option.isSome_some, ↓reduceIte, suppliedFor,
        pure, Except.pure]

end Building

section Sending

variable {spl : SplToken rt} {world : World} {request : Request}

/-- A transaction that only transfers. -/
theorem send_transfer (transfer : Transfer) : sendAndConfirm spl world [.transferChecked transfer] =
    Hook.transferChecked spl.token ⟨world.clock, [transfer.metas], 0⟩ world.ledger world.lists
      transfer := by
  simp only [sendAndConfirm, List.map_cons, List.map_nil, TxInstruction.metas, processAll,
    TxInstruction.process]
  exact bind_pure _

theorem creation_of_present (present : (world.ledger (request.destAta rt)).lamports ≠ 0) :
    creation rt world request.sender request.recipient request.stedeMint = [] := by
  have there : getAccountInfo world.ledger (stedeAta rt request.recipient request.stedeMint) =
      some (world.ledger (request.destAta rt)) := if_neg present
  simp only [creation, there, reduceCtorEq, ↓reduceIte]

/-- The first 64 bytes of a token account are its mint and its owner. -/
theorem take_of_holds {account : Account} {stedeMint owner : Pubkey}
    (holds : account.HoldsTokens stedeMint) (owned : account.tokenOwner = some owner) :
    account.data.take 64 = stedeMint.bytes ++ owner.bytes := by
  have front : account.data.take 32 = stedeMint.bytes := holds.2.2.1
  have back := (Account.tokenOwner_eq_some _ _).mp owned
  have split : account.data.take 64 = account.data.take 32 ++ (account.data.drop 32).take 32 := by
    rw [← List.take_add]
  rw [split, front, back]

/-- What the rules accept of an account that the recipient might have, they accept
of the one that the recipient has. -/
theorem verdicts_of_accepted (platform : request.Platform rt world) (ready : request.Ready spl world)
    (accepted : request.Accepted spl world) {moved : Ledger}
    (paid : spl.token.move world.ledger (request.instruction rt world) = .ok moved)
    (rule : Hook.Rule) : ∃ value, rule.verdict rt
      ⟨world.clock, [(request.instruction rt world).metas], 0⟩ (request.call rt) request.amount
      moved = .ok value := by
  obtain ⟨value, accepts⟩ := accepted rule
  have ⟨present, holds, owned⟩ := ready.recipientAccount
  have env_eq : request.env rt world = ⟨world.clock, [(request.instruction rt world).metas], 0⟩ := by
    simp only [env, creation_of_present present, List.map_nil, List.nil_append, List.length_nil]
  rw [env_eq] at accepts
  have kept {key : RuleKey} (member : key ∈ transferKeys request.sender request.sender
      request.recipient request.stedeMint) :
      moved (key.address rt) = world.ledger.write (request.destAta rt)
        (spl.opened request.stedeMint request.recipient) (key.address rt) := by
    have ⟨_, apart, same⟩ := Hook.move_foreign paid (platform.foreign key member)
    have not_destination : key.address rt ≠ request.destAta rt := apart
    rw [same, Ledger.write_of_ne not_destination]
  refine ⟨value, ?_⟩
  rw [← accepts]
  apply Hook.Rule.verdict_recipient
  · rw [call, Hook.Rule.config_resolved]
    exact kept (Hook.config_mem rule (Or.inl rfl))
  · have before := (spl.token.move_keeps _ _ _ paid).parties (request.destAta rt)
    have opened := take_of_holds (spl.opened_holds request.stedeMint request.recipient)
      (spl.opened_owner request.stedeMint request.recipient)
    show (moved (request.destAta rt)).data.take 64 =
      (world.ledger.write (request.destAta rt) _ (request.destAta rt)).data.take 64
    rw [Ledger.write_self, before, opened, take_of_holds holds owned]
  · rw [call, Hook.Rule.contact_resolved]
    exact kept (Hook.contact_mem (Or.inl rfl))

theorem credited_of_moved {moved after : Ledger}
    (paid : spl.token.move world.ledger (request.instruction rt world) = .ok moved)
    (owned : (world.ledger (request.destAta rt)).tokenOwner = some request.recipient)
    (owner : (after (request.destAta rt)).data.take 64 = (moved (request.destAta rt)).data.take 64)
    (amount : (after (request.destAta rt)).tokenAmount = (moved (request.destAta rt)).tokenAmount) :
    request.Credited rt world.ledger after := by
  have before := (spl.token.move_keeps _ _ _ paid).parties (request.destAta rt)
  constructor
  · rw [Account.tokenOwner_congr (owner.trans before)]
    exact owned
  · rw [amount]
    by_cases self : request.sourceAta rt = request.destAta rt
    · have unmoved := spl.token.move_self _ _ _ paid self
      rw [instruction_source, self] at unmoved
      rw [if_pos self, unmoved]
    · have ⟨_, credited⟩ := spl.token.move_pays _ _ _ paid self
      rw [if_neg self, Nat.add_zero]
      exact credited

/-- From a ready chain the transfer settles. -/
theorem settles_of_ready (platform : request.Platform rt world) (funded : request.Funded rt world)
    (ready : request.Ready spl world) (accepted : request.Accepted spl world) :
    ∃ after, Hook.transferChecked spl.token ⟨world.clock, [(request.instruction rt world).metas], 0⟩
        world.ledger world.lists (request.instruction rt world) = .ok after ∧
      request.Credited rt world.ledger after := by
  obtain ⟨_, destHolds, owned⟩ := ready.recipientAccount
  obtain ⟨_, mintOwner, mintData, decimals⟩ := ready.mint
  have valid : (request.instruction rt world).Valid rt world.ledger :=
    ⟨⟨mintOwner, mintData⟩, decimals, funded.1, destHolds, Or.inl funded.2.1, funded.2.2, ready.room⟩
  have signed : (request.instruction rt world).authority.signed rt = true := by
    simp only [instruction, AccountMeta.signed, platform.signs, Bool.and_self]
  obtain ⟨moved, paid⟩ := spl.token.move_complete _ _ signed valid ready.admitted
  have keeps := spl.token.move_keeps _ _ _ paid
  by_cases self : request.sourceAta rt = request.destAta rt
  · refine ⟨moved, Hook.transferChecked_eq_ok.mpr ⟨moved, paid, Or.inl ⟨self, rfl⟩⟩, ?_⟩
    exact credited_of_moved paid owned rfl rfl
  · have listed := ready.list self
    have supplied : (request.instruction rt world).supplied =
        suppliedFor rt request.stedeMint (request.call rt) := if_pos listed
    have free := platform.free.mono (Hook.ruleKeys_subset request.sender request.stedeMint)
    have mint : Hook.loadMint rt (moved request.stedeMint) = .ok () := by
      have kept : moved request.stedeMint = world.ledger request.stedeMint :=
        keeps.elsewhere _ platform.mint.1 platform.mint.2
      rw [kept]
      exact (Hook.loadMint_eq_ok rt _ ()).mpr ⟨Or.inr mintOwner, mintData⟩
    have held : (moved (request.destAta rt)).owner = Programs.token2022 :=
      (keeps.program _).trans destHolds.1
    have owned' : (moved (request.destAta rt)).tokenOwner = some request.recipient :=
      (Account.tokenOwner_congr (keeps.parties _)).trans owned
    obtain ⟨called, invoked⟩ := Hook.invokeExecute_of_verdicts platform.written listed supplied
      (writableApart platform funded.1 destHolds mintOwner) free mint held owned'
      (verdicts_of_accepted platform ready accepted paid)
    have untouched : called (request.destAta rt) = moved (request.destAta rt) := by
      obtain ⟨_, _, _, _, executed⟩ := Hook.invokeExecute_eq_ok.mp invoked
      exact Hook.execute_spares_tokens held executed
    refine ⟨_, Hook.transferChecked_eq_ok.mpr ⟨moved, paid, Or.inr ⟨self, called, invoked, rfl⟩⟩, ?_⟩
    apply credited_of_moved paid owned
    · rw [(spl.token.settle_keeps called _).parties, untouched]
    · rw [spl.token.settle_amount, untouched]

/-- The extra accounts are resolved before the account-creating instruction has run:
without the recipient's account nothing can be built that settles. -/
theorem not_sent_of_missing (platform : request.Platform rt world) (funded : request.Funded rt world)
    (missing : (world.ledger (request.destAta rt)).lamports = 0) {supplied : List AccountMeta}
    {after : Ledger}
    (added : addExtraAccountMetasForExecute rt world (request.sourceAta rt) request.stedeMint
      (request.destAta rt) request.sender = .ok supplied) :
    ¬ sendAndConfirm spl world (creation rt world request.sender request.recipient
      request.stedeMint ++ [.transferChecked ⟨request.sourceAta rt, request.stedeMint,
        request.destAta rt, ⟨request.sender, true, false⟩, request.amount, request.decimals,
        supplied⟩]) = .ok after := by
  intro sent
  have absent : getAccountInfo world.ledger (request.destAta rt) = none := if_pos missing
  cases listed : world.lists (extraAccountMetaListPda rt request.stedeMint).1 with
  | some extras =>
      simp only [addExtraAccountMetasForExecute, listed, bind_eq_ok] at added
      obtain ⟨accounts, resolved, _⟩ := added
      have resolves : (Hook.extraAccounts >>= resolveAll rt (fetched world.ledger) (baseAccounts rt
          (request.sourceAta rt) request.stedeMint (request.destAta rt) request.sender)) =
            .ok accounts := by
        rw [platform.written _ _ listed, ok_bind]
        exact resolved
      have long := Hook.long_of_resolves resolves
      simp only [fetched, absent, Option.getD_none, Account.absent, List.length_nil] at long
      omega
  | none =>
      simp only [addExtraAccountMetasForExecute, listed, Except.ok.injEq] at added
      have created : creation rt world request.sender request.recipient request.stedeMint =
          [.createAssociatedTokenAccount request.sender (request.destAta rt) request.recipient
            request.stedeMint] := if_pos absent
      simp only [created, sendAndConfirm, List.cons_append, List.nil_append, processAll,
        TxInstruction.process, bind_eq_ok, require_eq_ok] at sent
      obtain ⟨opened, ⟨_, ⟨unused, _⟩, _⟩, settled, transferred, _⟩ := sent
      refine Hook.not_transferChecked_bare added.symm ?_ transferred
      intro self
      have foreign := Programs.token2022_foreign
      have same : request.sourceAta rt = request.destAta rt := self
      rw [← same, funded.1.1] at unused
      exact foreign unused

/-- A transfer that reached the recipient was made from a ready chain. -/
theorem ready_of_sent (platform : request.Platform rt world) (funded : request.Funded rt world)
    (onCurve : spl.isOnCurve request.sender = true ∧ spl.isOnCurve request.recipient = true)
    {transferIx : Transfer} {after : Ledger}
    (built : createTransferChecked rt world (request.sourceAta rt) request.stedeMint
      (request.destAta rt) request.sender request.amount request.decimals = .ok transferIx)
    (sent : sendAndConfirm spl world (creation rt world request.sender request.recipient
      request.stedeMint ++ [.transferChecked transferIx]) = .ok after)
    (credited : request.Credited rt world.ledger after) : request.Ready spl world := by
  have ⟨⟨exists_mint, mintOwner, mintData⟩, supplied, added, made⟩ :=
    createTransferChecked_eq_ok.mp built
  by_cases missing : (world.ledger (request.destAta rt)).lamports = 0
  · rw [made] at sent
    exact absurd sent (not_sent_of_missing platform funded missing added)
  · rw [creation_of_present missing, List.nil_append, send_transfer] at sent
    have ⟨moved, paid, _⟩ := Hook.transferChecked_eq_ok.mp sent
    have ⟨valid, admitted⟩ := spl.token.move_valid _ _ _ paid
    have owner := Hook.transferChecked_owner sent
    rw [made] at valid owner
    have owned : (world.ledger (request.destAta rt)).tokenOwner = some request.recipient :=
      owner.symm.trans credited.1
    have expected := createTransferChecked_eq platform funded.1 valid.destination mintOwner
      ⟨exists_mint, mintData⟩ missing owned
    rw [Except.ok.inj (built.symm.trans expected)] at admitted sent
    refine ⟨⟨missing, valid.destination, owned⟩, onCurve,
      ⟨exists_mint, mintOwner, mintData, valid.decimals⟩, ?_, valid.fits, admitted⟩
    intro apart
    cases listed : (world.lists (extraAccountMetaListPda rt request.stedeMint).1).isSome with
    | true => rfl
    | false =>
        have bare : (request.instruction rt world).supplied = [] := if_neg (by rw [listed]; decide)
        exact absurd sent (Hook.not_transferChecked_bare bare apart)

end Sending

end Request

theorem transfer_eq_ok {rt : Runtime} {spl : SplToken rt} {world : World} {sender : Pubkey}
    {toHandle : String} {stedeMint : Pubkey} {amount : UInt64} {decimals : UInt8} {after : Ledger} :
    transfer spl world sender toHandle stedeMint amount decimals = .ok after ↔
      ∃ handle, resolveHandle rt world.handles toHandle = some handle ∧
        spl.isOnCurve sender = true ∧ spl.isOnCurve handle.owner = true ∧
        ∃ transferIx, createTransferChecked rt world (stedeAta rt sender stedeMint) stedeMint
            (stedeAta rt handle.owner stedeMint) sender amount decimals = .ok transferIx ∧
          sendAndConfirm spl world (creation rt world sender handle.owner stedeMint ++
            [.transferChecked transferIx]) = .ok after := by
  simp only [transfer, getStedeAta, bind_eq_ok, okOr_eq_ok, require_eq_ok, exists_const, pure,
    Except.pure, Except.ok.injEq]
  refine exists_congr fun handle => and_congr_right fun _ => ?_
  constructor
  · rintro ⟨_, ⟨signer, source⟩, _, ⟨owner, destination⟩, built⟩
    rw [← source, ← destination] at built
    exact ⟨signer, owner, built⟩
  · rintro ⟨signer, owner, built⟩
    exact ⟨_, ⟨signer, rfl⟩, _, ⟨owner, rfl⟩, built⟩

/-- When the handle resolves, the sender has the money and the sender's rules would
accept, `transfer` reaches the recipient exactly from a ready chain. In particular it
never does when it would have to create the recipient's account first. -/
theorem transfer_reaches_iff (rt : Runtime) (spl : SplToken rt) (world : World) (toHandle : String)
    (request : Request) (resolves : (resolveHandle rt world.handles toHandle).map
      HandleRegistry.Handle.owner = some request.recipient)
    (funded : request.Funded rt world) (accepted : request.Accepted spl world)
    (platform : request.Platform rt world) :
    (∃ after, transfer spl world request.sender toHandle request.stedeMint request.amount
        request.decimals = .ok after ∧ request.Credited rt world.ledger after) ↔
      request.Ready spl world := by
  obtain ⟨handle, found, recipient⟩ := Option.map_eq_some_iff.mp resolves
  constructor
  · intro ⟨after, success, credited⟩
    have ⟨handle', found', signer, owner, transferIx, built, sent⟩ := transfer_eq_ok.mp success
    rw [Option.some.inj (found'.symm.trans found), recipient] at owner built sent
    exact request.ready_of_sent platform funded ⟨signer, owner⟩ built sent credited
  · intro ready
    have ⟨present, holds, owned⟩ := ready.recipientAccount
    have ⟨exists_mint, mintOwner, mintData, _⟩ := ready.mint
    have ⟨after, settled, credited⟩ := request.settles_of_ready platform funded ready accepted
    have built := request.createTransferChecked_eq platform funded.1 holds mintOwner
      ⟨exists_mint, mintData⟩ present owned
    have sent : sendAndConfirm spl world (creation rt world request.sender request.recipient
        request.stedeMint ++ [.transferChecked (request.instruction rt world)]) = .ok after := by
      rw [request.creation_of_present present, List.nil_append, Request.send_transfer]
      exact settled
    have owner := ready.onCurve.2
    rw [← recipient] at owner
    refine ⟨after, transfer_eq_ok.mpr ⟨handle, found, ready.onCurve.1, owner,
      request.instruction rt world, ?_, ?_⟩, credited⟩
    · rw [recipient]
      exact built
    · rw [recipient]
      exact sent

/- Wallet 1 sends 50 to the handle of wallet 5, with wallet 5's token account in place
and without it. -/
section Sample

open Stede.Runtime (sampleKey)

/-- The bytes of a token account without extensions and without tokens. -/
def plainOpened (stedeMint wallet : Pubkey) : Account :=
  ⟨1, (stedeMint.bytes ++ (wallet.bytes ++ List.replicate 44 0)) ++ 1 :: List.replicate 56 0,
    Programs.token2022⟩

/-- On the sample chain a wallet is on the curve, and a derived address is not. -/
def plainSpl : SplToken .sample where
  token := .plain .sample
  isOnCurve key := key.bytes.head? ≠ some 255
  opened := plainOpened
  opened_holds stedeMint wallet := by
    have front : (stedeMint.bytes ++ (wallet.bytes ++ List.replicate 44 0)).length = 108 := by
      simp [stedeMint.size, wallet.size]
    refine ⟨rfl, ?_, ?_, ?_⟩
    · simp only [plainOpened, List.length_append, front, List.length_cons, List.length_replicate]
      omega
    · rw [plainOpened, List.append_assoc, ← stedeMint.size, List.take_left]
    · rw [plainOpened, List.getElem?_append_right (by omega), front]
      rfl
  opened_owner stedeMint wallet := by
    rw [Account.tokenOwner_eq_some, plainOpened, List.append_assoc, ← stedeMint.size,
      List.drop_left, stedeMint.size, List.append_assoc, ← wallet.size, List.take_left]

def sampleRequest : Request := ⟨sampleKey 1, sampleKey 5, sampleKey 2, 50, 0⟩

/-- The chain without the recipient's account. -/
def sampleMissing : World where
  handles := ⟨fun _ => 0, fun key =>
    if key = deriveHandlePda .sample "kay" then some (.handle ⟨sampleKey 5, "kay", 0, 0⟩) else none⟩
  ledger := Hook.sampleLedger.write (sampleRequest.sourceAta .sample)
    (Hook.sampleTokens (sampleKey 1) (sampleKey 3))
  lists := fun _ => Hook.extraAccounts.toOption
  clock := ⟨500, 1700000000⟩

/-- The chain with it. -/
def samplePresent : World where
  handles := sampleMissing.handles
  ledger := sampleMissing.ledger.write (sampleRequest.destAta .sample)
    (plainOpened (sampleKey 2) (sampleKey 5))
  lists := sampleMissing.lists
  clock := sampleMissing.clock

/-- What the rules answer, computed. -/
def sampleVerdicts (world : World) : Bool :=
  Hook.Rule.all.all fun rule => (rule.verdict .sample (sampleRequest.env .sample world)
    (sampleRequest.call .sample) sampleRequest.amount (world.ledger.write
      (sampleRequest.destAta .sample) (plainOpened (sampleKey 2) (sampleKey 5)))).isOk

theorem sample_accepted {world : World} (verdicts : sampleVerdicts world = true) :
    sampleRequest.Accepted plainSpl world := by
  intro rule
  exact isOk_iff_exists.mp (List.all_eq_true.mp verdicts rule (by cases rule <;> decide))

theorem present_evaluates :
    (resolveHandle .sample samplePresent.handles "kay").map HandleRegistry.Handle.owner =
        some sampleRequest.recipient ∧
      sampleRequest.Funded .sample samplePresent ∧ sampleVerdicts samplePresent = true ∧
      Runtime.sample.canSign sampleRequest.sender = true ∧
      (∀ key ∈ Hook.partyKeys (sampleKey 1) (sampleKey 1),
        (samplePresent.ledger (key.address .sample)).owner ≠ Programs.token2022) ∧
      (∀ slot ∈ [RuleSlot.dailyLimit, RuleSlot.cooloff],
        RuleKey.address .sample ⟨⟨sampleRequest.sender, sampleRequest.stedeMint⟩, slot⟩ ∉
          (extraAccountMetaListPda .sample sampleRequest.stedeMint).1 :: Programs.workspace) ∧
      sampleRequest.stedeMint ≠ sampleRequest.sourceAta .sample ∧
      sampleRequest.stedeMint ≠ sampleRequest.destAta .sample := by
  decide +kernel

theorem transfer_reaches_iff_sample :
    (∃ after, transfer plainSpl samplePresent (sampleKey 1) "kay" (sampleKey 2) 50 0 = .ok after ∧
        sampleRequest.Credited .sample samplePresent.ledger after) ↔
      sampleRequest.Ready plainSpl samplePresent := by
  have ⟨resolves, funded, verdicts, signs, foreign, derived, mint⟩ := present_evaluates
  refine transfer_reaches_iff .sample plainSpl samplePresent "kay" sampleRequest resolves funded
    (sample_accepted verdicts) ⟨signs, Hook.sample_written, ?_, ?_, derived, mint⟩
  · intro key member
    exact foreign key (Hook.transferKeys_listed member)
  · apply Hook.sample_free.mono
    apply Set.image_mono
    intro key ⟨party, mint, contact⟩
    exact ⟨Or.inl (party.elim id id), mint, contact⟩

theorem missing_evaluates :
    (resolveHandle .sample sampleMissing.handles "kay").map HandleRegistry.Handle.owner =
        some sampleRequest.recipient ∧
      sampleRequest.Funded .sample sampleMissing ∧ sampleVerdicts sampleMissing = true ∧
      (transfer plainSpl sampleMissing sampleRequest.sender "kay" sampleRequest.stedeMint
        sampleRequest.amount sampleRequest.decimals).map (fun _ => ()) =
          .error (.program .accountDataTooSmall) := by
  decide +kernel

/-- Everything that the client relies on is there but the recipient's account: the
transfer cannot be built. -/
theorem transfer_misses_new_recipient :
    (resolveHandle .sample sampleMissing.handles "kay").map HandleRegistry.Handle.owner =
        some sampleRequest.recipient ∧
      sampleRequest.Funded .sample sampleMissing ∧ sampleRequest.Accepted plainSpl sampleMissing ∧
      (transfer plainSpl sampleMissing sampleRequest.sender "kay" sampleRequest.stedeMint
        sampleRequest.amount sampleRequest.decimals).map (fun _ => ()) =
          .error (.program .accountDataTooSmall) := by
  have ⟨resolves, funded, verdicts, refused⟩ := missing_evaluates
  exact ⟨resolves, funded, sample_accepted verdicts, refused⟩

end Sample

end Stede.Sdk
