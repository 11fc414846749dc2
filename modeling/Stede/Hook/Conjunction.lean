import Mathlib
import Stede.Hook.Resolution
import Stede.Lib.Guards
import Stede.Lib.Run

set_option autoImplicit false

/- The hook as the conjunction of its six rules. -/
namespace Stede.Hook

open ExtraAccountMeta

inductive Rule
  | dailyLimit
  | blockHandle
  | cooloff
  | newRecipientDelay
  | timeWindow
  | friendGate
deriving DecidableEq

namespace Rule

/-- The order in which `execute_handler` calls the rules. -/
def all : List Rule :=
  [dailyLimit, blockHandle, cooloff, newRecipientDelay, timeWindow, friendGate]

/-- The account a rule is configured in. -/
def config (accounts : Execute) : Rule → AccountMeta
  | dailyLimit => accounts.dailyLimitPda
  | blockHandle => accounts.blockListPda
  | cooloff => accounts.cooloffPda
  | newRecipientDelay => accounts.slowSendConfigPda
  | timeWindow => accounts.timeWindowConfigPda
  | friendGate => accounts.friendGateConfigPda

section Checks

variable (rt : Runtime) (env : Env) (accounts : Execute) (amount : UInt64)

/-- The call of one rule, as `execute_handler` makes it. -/
def check (ledger : Ledger) : Rule → Except Error Ledger
  | dailyLimit => DailyLimit.checkTransfer rt env.clock ledger accounts.dailyLimitPda amount
  | blockHandle => do
      let recipientWallet ← readPubkey (ledger accounts.destinationToken.pubkey).data 32
        (.program .invalidAccountData)
      BlockList.checkTransfer rt ledger accounts.blockListPda recipientWallet
      return ledger
  | cooloff => Cooloff.checkTransfer rt env.clock ledger accounts.cooloffPda amount
  | newRecipientDelay => do
      SlowSend.checkTransfer rt env.clock ledger accounts.slowSendConfigPda
        accounts.slowSendContactPda accounts.destinationToken
      return ledger
  | timeWindow => do
      TimeWindowConfig.checkTransfer rt env.clock ledger accounts.timeWindowConfigPda accounts.owner
        accounts.stedeMint amount
      return ledger
  | friendGate => do
      FriendGate.checkTransfer rt env ledger accounts.friendGateConfigPda
        accounts.instructionsSysvar amount
      return ledger

/-- The calls of several rules in turn. -/
def checkAll : List Rule → Ledger → Except Error Ledger
  | [], ledger => .ok ledger
  | rule :: rest, ledger => do
      let ledger ← rule.check rt env accounts amount ledger
      checkAll rest ledger

/-- What a rule's call leaves in the rule's account; only two rules change it. -/
def verdict (rule : Rule) (ledger : Ledger) : Except Error Account :=
  match rule with
  | dailyLimit => do
      require (accounts.dailyLimitPda.isWritable) (.anchor .constraintMut)
      DailyLimit.checkTransferHandler rt env.clock accounts.dailyLimitPda.pubkey
        (ledger accounts.dailyLimitPda.pubkey) amount
  | cooloff => do
      require (accounts.cooloffPda.isWritable) (.anchor .constraintMut)
      Cooloff.checkTransferHandler rt env.clock accounts.cooloffPda.pubkey
        (ledger accounts.cooloffPda.pubkey) amount
  | _ => (rule.check rt env accounts amount ledger).map fun _ =>
      ledger (rule.config accounts).pubkey

/-- A rule's call as an update of its own account. -/
def guard (rule : Rule) : Guard Pubkey Account Error where
  key := (rule.config accounts).pubkey
  verdict := rule.verdict rt env accounts amount

end Checks

end Rule

theorem executeHandler_eq_checkAll (rt : Runtime) (env : Env) (ledger : Ledger) (accounts : Execute)
    (amount : UInt64) :
    executeHandler rt env ledger accounts amount =
      Rule.checkAll rt env accounts amount Rule.all ledger := by
  simp only [executeHandler, Rule.all, Rule.checkAll, Rule.check, bind_assoc, pure_bind]
  rfl

namespace Rule

variable {rt : Runtime} {env : Env} {accounts : Execute} {amount : UInt64}

/-- A call that succeeds without changing the ledger writes back what it found. -/
theorem map_update_self {ledger : Ledger} (key : Pubkey) (first : Except Error Unit) :
    ((first >>= fun _ => pure ledger).map fun _ => ledger key).map (Function.update ledger key) =
      (first >>= fun _ => pure ledger) := by
  cases first with
  | error reason => rfl
  | ok _ => simp only [bind, Except.bind, pure, Except.pure, Except.map, Function.update_eq_self]

theorem guard_apply (rule : Rule) (ledger : Ledger) :
    (rule.guard rt env accounts amount).apply ledger = rule.check rt env accounts amount ledger := by
  show (rule.verdict rt env accounts amount ledger).map (Function.update ledger _) = _
  cases rule with
  | dailyLimit | cooloff =>
      simp only [verdict, check, DailyLimit.checkTransfer, Cooloff.checkTransfer, require]
      split
      · exact map_eq_bind _ _
      · rfl
  | blockHandle =>
      simp only [verdict, check, config]
      rw [← bind_assoc]
      exact map_update_self _ _
  | newRecipientDelay | timeWindow | friendGate => exact map_update_self _ _

theorem applyAll_guard (rules : List Rule) (ledger : Ledger) :
    Guard.applyAll (rules.map (guard rt env accounts amount)) ledger =
      checkAll rt env accounts amount rules ledger := by
  induction rules generalizing ledger with
  | nil => rfl
  | cons rule rest ih =>
      rw [List.map_cons, Guard.applyAll, guard_apply, checkAll]
      exact congrArg _ (funext ih)

/-- A verdict reads the rule's own account, the destination and the contact. -/
theorem verdict_congr (rule : Rule) {left right : Ledger}
    (own : left (rule.config accounts).pubkey = right (rule.config accounts).pubkey)
    (destination : left accounts.destinationToken.pubkey = right accounts.destinationToken.pubkey)
    (contact : left accounts.slowSendContactPda.pubkey = right accounts.slowSendContactPda.pubkey) :
    rule.verdict rt env accounts amount left = rule.verdict rt env accounts amount right := by
  cases rule with
  | dailyLimit | cooloff =>
      simp only [config] at own
      simp only [verdict, own]
  | blockHandle | newRecipientDelay | timeWindow | friendGate =>
      simp only [config] at own
      simp only [verdict, check, map_eq_bind, bind_assoc, pure_bind, config, own, destination, contact,
        BlockList.checkTransfer, SlowSend.checkTransfer, TimeWindowConfig.checkTransfer,
        FriendGate.checkTransfer]

/-- A rule leaves its account as it is, unless it is one of the two that record
something and the account is its program's own. -/
theorem verdict_cases {rule : Rule} {ledger : Ledger} {value : Account}
    (success : rule.verdict rt env accounts amount ledger = .ok value) :
    value = ledger (rule.config accounts).pubkey ∨
      ((ledger (rule.config accounts).pubkey).owner ≠ Programs.token2022 ∧
        (rule = dailyLimit ∨ rule = cooloff)) := by
  cases rule with
  | dailyLimit =>
      simp only [verdict, bind_eq_ok, DailyLimit.checkTransferHandler,
        ConfigKind.checked_eq_ok] at success
      rcases success with ⟨_, _, ⟨_, same⟩ | ⟨_, owned, _⟩⟩
      · exact Or.inl same
      · refine Or.inr ⟨?_, Or.inl rfl⟩
        rw [config, owned]
        exact (Programs.workspace_foreign (by simp [Programs.workspace, DailyLimit.kind])).2
  | cooloff =>
      simp only [verdict, bind_eq_ok, Cooloff.checkTransferHandler,
        ConfigKind.checked_eq_ok] at success
      rcases success with ⟨_, _, ⟨_, same⟩ | ⟨_, owned, _⟩⟩
      · exact Or.inl same
      · refine Or.inr ⟨?_, Or.inr rfl⟩
        rw [config, owned]
        exact (Programs.workspace_foreign (by simp [Programs.workspace, Cooloff.kind])).2
  | blockHandle | newRecipientDelay | timeWindow | friendGate =>
      simp only [verdict, map_eq_bind, bind_eq_ok, pure, Except.pure, Except.ok.injEq] at success
      obtain ⟨_, _, same⟩ := success
      exact Or.inl same.symm

/-- A rule that is not configured accepts and writes nothing. -/
theorem verdict_of_unconfigured {rule : Rule} {ledger : Ledger} {recipient : Pubkey}
    (writable : accounts.dailyLimitPda.isWritable = true ∧ accounts.cooloffPda.isWritable = true)
    (derived : accounts.timeWindowConfigPda.pubkey =
      (TimeWindowConfig.kind.pda rt accounts.owner.pubkey accounts.stedeMint.pubkey).1)
    (owned : readPubkey (ledger accounts.destinationToken.pubkey).data 32
      (.program .invalidAccountData) = .ok recipient)
    (absent : (ledger (rule.config accounts).pubkey).unconfigured = true) :
    rule.verdict rt env accounts amount ledger = .ok (ledger (rule.config accounts).pubkey) := by
  cases rule with
  | dailyLimit =>
      simp only [config] at absent
      simp only [verdict, config, writable, require, ↓reduceIte, ok_bind,
        DailyLimit.checkTransferHandler, ConfigKind.checked, absent]
  | cooloff =>
      simp only [config] at absent
      simp only [verdict, config, writable, require, ↓reduceIte, ok_bind,
        Cooloff.checkTransferHandler, ConfigKind.checked, absent]
  | blockHandle =>
      simp only [config] at absent
      simp only [verdict, check, config, owned, ok_bind, BlockList.checkTransfer,
        BlockList.checkTransferHandler, ConfigKind.checked, absent, ↓reduceIte]
      rfl
  | newRecipientDelay =>
      simp only [config] at absent
      simp only [verdict, check, config, SlowSend.checkTransfer, SlowSend.checkTransferHandler, absent,
        ↓reduceIte, ok_bind]
      rfl
  | timeWindow =>
      simp only [config] at absent
      simp only [verdict, check, config, TimeWindowConfig.checkTransfer, derived, require, ↓reduceIte,
        ok_bind, TimeWindowConfig.checkTransferHandler]
      rw [derived] at absent
      simp only [absent, ↓reduceIte, ok_bind]
      rfl
  | friendGate =>
      simp only [config] at absent
      simp only [verdict, check, config, FriendGate.checkTransfer, FriendGate.checkTransferHandler,
        absent, ↓reduceIte, ok_bind]
      rfl

end Rule

/-- The seeds and programs of the seven rule accounts of a call. -/
def ruleKeys (authority stedeMint recipient : Pubkey) : List (List UInt8 × Pubkey) :=
  [([DailyLimit.kind.seedPrefix, authority.bytes, stedeMint.bytes].flatten, DailyLimit.kind.program),
    ([BlockList.kind.seedPrefix, authority.bytes, stedeMint.bytes].flatten, BlockList.kind.program),
    ([Cooloff.kind.seedPrefix, authority.bytes, stedeMint.bytes].flatten, Cooloff.kind.program),
    ([SlowSendConfig.kind.seedPrefix, authority.bytes, stedeMint.bytes].flatten,
      SlowSendConfig.kind.program),
    ([SlowSendContact.seedPrefix, authority.bytes, recipient.bytes, stedeMint.bytes].flatten,
      SlowSendContact.kind.program),
    ([TimeWindowConfig.kind.seedPrefix, authority.bytes, stedeMint.bytes].flatten,
      TimeWindowConfig.kind.program),
    ([FriendGate.kind.seedPrefix, authority.bytes, stedeMint.bytes].flatten, FriendGate.kind.program)]

theorem ruleKeys_nodup (authority stedeMint recipient : Pubkey) :
    (ruleKeys authority stedeMint recipient).Nodup := by
  apply List.Nodup.of_map fun key => (key.1.length, key.2)
  simp only [ruleKeys, List.map_cons, List.map_nil, List.flatten_cons, List.flatten_nil,
    List.length_append, List.length_nil, Pubkey.size]
  decide +kernel

/-- The addresses of the rule accounts of a call. -/
def Execute.ruleSlots (accounts : Execute) : List Pubkey :=
  [accounts.dailyLimitPda.pubkey, accounts.blockListPda.pubkey, accounts.cooloffPda.pubkey,
    accounts.slowSendConfigPda.pubkey, accounts.slowSendContactPda.pubkey,
    accounts.timeWindowConfigPda.pubkey, accounts.friendGateConfigPda.pubkey]

theorem ruleSlots_nodup {rt : Runtime} {source stedeMint destination authority recipient : Pubkey}
    (free : rt.CollisionFree {key | key ∈ ruleKeys authority stedeMint recipient}) :
    (resolvedAccounts rt source stedeMint destination authority recipient).ruleSlots.Nodup :=
  List.Nodup.map_on (fun _ first _ second => free first second) (ruleKeys_nodup _ _ _)

namespace Rule

/-- Different rules are configured in different accounts, none of them the contact. -/
theorem config_apart {accounts : Execute} (apart : accounts.ruleSlots.Nodup) (rule : Rule) :
    (rule.config accounts).pubkey ≠ accounts.slowSendContactPda.pubkey ∧
      ∀ other : Rule, rule ≠ other →
        (rule.config accounts).pubkey ≠ (other.config accounts).pubkey := by
  simp only [Execute.ruleSlots, List.nodup_cons, List.mem_cons, List.not_mem_nil, or_false, not_or,
    not_false_eq_true, List.nodup_nil, and_true] at apart
  constructor
  · cases rule <;> simp only [config] <;> grind
  · intro other different
    cases rule <;> cases other <;> simp only [config] <;> grind

/-- The destination is an account of Token-2022. -/
def DestinationHeld (accounts : Execute) (ledger : Ledger) : Prop :=
  (ledger accounts.destinationToken.pubkey).owner = Programs.token2022

variable {rt : Runtime} {env : Env} {accounts : Execute} {amount : UInt64}

/-- A verdict changes neither the destination nor what its own rule did not write. -/
theorem destination_update {rule : Rule} {ledger : Ledger} {value : Account}
    (held : DestinationHeld accounts ledger)
    (success : rule.verdict rt env accounts amount ledger = .ok value) :
    Function.update ledger (rule.config accounts).pubkey value accounts.destinationToken.pubkey =
      ledger accounts.destinationToken.pubkey := by
  by_cases same : accounts.destinationToken.pubkey = (rule.config accounts).pubkey
  · rcases verdict_cases success with unchanged | ⟨foreign, _⟩
    · rw [unchanged, Function.update_eq_self]
    · rw [← same] at foreign
      exact absurd held foreign
  · rw [Function.update_of_ne same]

theorem guard_unseen (apart : accounts.ruleSlots.Nodup) {first second : Rule}
    (different : first ≠ second) :
    Guard.Unseen (DestinationHeld accounts) (first.guard rt env accounts amount)
      (second.guard rt env accounts amount) where
  apart := (config_apart apart first).2 second different
  blind := by
    intro ledger value held success
    apply verdict_congr
    · exact Function.update_of_ne ((config_apart apart first).2 second different).symm _ _
    · exact destination_update held success
    · exact Function.update_of_ne (config_apart apart first).1.symm _ _

theorem guards_unseen (apart : accounts.ruleSlots.Nodup) :
    (all.map (guard rt env accounts amount)).Pairwise fun first second =>
      Guard.Unseen (DestinationHeld accounts) first second ∧
        Guard.Unseen (DestinationHeld accounts) second first := by
  apply List.Pairwise.map _ _ (show all.Pairwise (· ≠ ·) by decide)
  intro first second different
  exact ⟨guard_unseen apart different, guard_unseen apart different.symm⟩

theorem guards_preserve (guard : Guard Pubkey Account Error)
    (member : guard ∈ all.map (Rule.guard rt env accounts amount)) :
    guard.Preserves (DestinationHeld accounts) := by
  obtain ⟨rule, _, same⟩ := List.mem_map.mp member
  intro ledger value held success
  rw [← same] at success ⊢
  exact (congrArg Account.owner (destination_update held success)).trans held

theorem mem_all (rule : Rule) : rule ∈ all := by
  cases rule <;> decide

/-- All the rules in turn accept exactly when each does alone, and then leave in
each rule's account what that rule alone would. -/
theorem checkAll_eq_ok (apart : accounts.ruleSlots.Nodup) {ledger : Ledger}
    (held : DestinationHeld accounts ledger) (next : Ledger) :
    checkAll rt env accounts amount all ledger = .ok next ↔
      (∀ rule : Rule, rule.verdict rt env accounts amount ledger =
        .ok (next (rule.config accounts).pubkey)) ∧
      ∀ key, (∀ rule : Rule, key ≠ (rule.config accounts).pubkey) → next key = ledger key := by
  rw [← applyAll_guard, Guard.applyAll_eq_ok ((guards_unseen apart).imp And.left) guards_preserve held]
  constructor
  · intro ⟨alone, frame⟩
    refine ⟨fun rule => alone _ (List.mem_map_of_mem (mem_all rule)), fun key outside => ?_⟩
    apply frame
    intro member
    obtain ⟨guard, inside, same⟩ := List.mem_map.mp member
    obtain ⟨rule, _, here⟩ := List.mem_map.mp inside
    rw [← here] at same
    exact outside rule same.symm
  · intro ⟨alone, frame⟩
    constructor
    · intro guard member
      obtain ⟨rule, _, here⟩ := List.mem_map.mp member
      rw [← here]
      exact alone rule
    · intro key outside
      apply frame
      intro rule same
      exact outside (List.mem_map.mpr ⟨_, List.mem_map_of_mem (mem_all rule), same.symm⟩)

/-- The verdict of a call is what it leaves in its rule's account. -/
theorem check_eq_ok (rule : Rule) (ledger next : Ledger) :
    rule.check rt env accounts amount ledger = .ok next ↔
      ∃ value, rule.verdict rt env accounts amount ledger = .ok value ∧
        next = Function.update ledger (rule.config accounts).pubkey value := by
  rw [← guard_apply]
  exact Guard.apply_eq_ok _ _ _

/-- Only the two rules that record something show in the final state. -/
theorem checkAll_of_verdicts (apart : accounts.ruleSlots.Nodup) {ledger : Ledger}
    (held : DestinationHeld accounts ledger)
    (accepts : ∀ rule : Rule, ∃ value, rule.verdict rt env accounts amount ledger = .ok value) :
    ∃ spent cooled, dailyLimit.verdict rt env accounts amount ledger = .ok spent ∧
      cooloff.verdict rt env accounts amount ledger = .ok cooled ∧
      checkAll rt env accounts amount all ledger =
        .ok ((ledger.write accounts.dailyLimitPda.pubkey spent).write accounts.cooloffPda.pubkey
          cooled) := by
  obtain ⟨spent, daily⟩ := accepts dailyLimit
  obtain ⟨cooled, later⟩ := accepts cooloff
  have pair : accounts.dailyLimitPda.pubkey ≠ accounts.cooloffPda.pubkey :=
    (config_apart apart dailyLimit).2 cooloff (by decide)
  refine ⟨spent, cooled, daily, later, (checkAll_eq_ok apart held _).mpr ⟨?_, ?_⟩⟩
  · intro rule
    by_cases first : rule = dailyLimit
    · rw [first, daily]
      simp only [config, Ledger.write, Function.update_of_ne pair, Function.update_self]
    · by_cases second : rule = cooloff
      · rw [second, later]
        simp only [config, Ledger.write, Function.update_self]
      · obtain ⟨value, accepted⟩ := accepts rule
        have notDaily : (rule.config accounts).pubkey ≠ accounts.dailyLimitPda.pubkey :=
          (config_apart apart rule).2 dailyLimit first
        have notCooloff : (rule.config accounts).pubkey ≠ accounts.cooloffPda.pubkey :=
          (config_apart apart rule).2 cooloff second
        rcases verdict_cases accepted with unchanged | ⟨_, either⟩
        · rw [accepted, unchanged, Ledger.write, Function.update_of_ne notCooloff, Ledger.write,
            Function.update_of_ne notDaily]
        · exact absurd either (not_or.mpr ⟨first, second⟩)
  · intro key outside
    have notDaily : key ≠ accounts.dailyLimitPda.pubkey := outside dailyLimit
    have notCooloff : key ≠ accounts.cooloffPda.pubkey := outside cooloff
    rw [Ledger.write, Function.update_of_ne notCooloff, Ledger.write, Function.update_of_ne notDaily]

end Rule

/-- The accounts of the call are those that the list resolves to for a transfer
of `stedeMint` to a token account of `recipient`. -/
structure Resolved (rt : Runtime) (ledger : Ledger)
    (source stedeMint destination authority recipient : Pubkey) (accounts : Execute) : Prop where
  resolves : (extraAccounts >>= resolveAll rt ledger
    (baseAccounts rt source stedeMint destination authority)) = .ok accounts.toList
  token : (ledger destination).owner = Programs.token2022
  owned : readPubkey (ledger destination).data 32 (.program .invalidAccountData) = .ok recipient

theorem Execute.toList_injective : Function.Injective Execute.toList := by
  intro first second same
  simp only [toList, List.cons.injEq, and_true] at same
  cases first
  cases second
  simp only [Execute.mk.injEq]
  exact same

theorem Resolved.accounts_eq {rt : Runtime} {ledger : Ledger}
    {source stedeMint destination authority recipient : Pubkey} {accounts : Execute}
    (resolved : Resolved rt ledger source stedeMint destination authority recipient accounts) :
    accounts = resolvedAccounts rt source stedeMint destination authority recipient := by
  have ⟨long, bytes⟩ := (readPubkey_eq_ok _ _ _ _).mp resolved.owned
  have expected := extraAccounts_resolve rt ledger source stedeMint destination authority recipient
    long bytes
  exact Execute.toList_injective (Except.ok.inj (resolved.resolves.symm.trans expected))

/-- The hook is exactly the conjunction of the six rules. -/
theorem execute_is_conjunction (rt : Runtime) (env : Env) (ledger : Ledger)
    (source stedeMint destination authority recipient : Pubkey) (accounts : Execute)
    (resolved : Resolved rt ledger source stedeMint destination authority recipient accounts)
    (free : rt.CollisionFree {key | key ∈ ruleKeys authority stedeMint recipient})
    (amount : UInt64) :
    ((∃ next, executeHandler rt env ledger accounts amount = .ok next) ↔
      ∀ rule : Rule, ∃ next, rule.check rt env accounts amount ledger = .ok next) ∧
    (∀ next, executeHandler rt env ledger accounts amount = .ok next →
      ∃ spent cooled, Rule.dailyLimit.check rt env accounts amount ledger = .ok spent ∧
        Rule.cooloff.check rt env accounts amount ledger = .ok cooled ∧
        next = (ledger.write accounts.dailyLimitPda.pubkey
          (spent accounts.dailyLimitPda.pubkey)).write accounts.cooloffPda.pubkey
            (cooled accounts.cooloffPda.pubkey)) ∧
    (∀ reason, executeHandler rt env ledger accounts amount = .error reason →
      Run.commit (fun state => executeHandler rt env state accounts) ledger amount = ledger) ∧
    (∀ order, order.Perm Rule.all → (Rule.checkAll rt env accounts amount order ledger).toOption =
      (executeHandler rt env ledger accounts amount).toOption) ∧
    (∀ rule : Rule, (ledger (rule.config accounts).pubkey).data = [] →
      (Rule.checkAll rt env accounts amount (Rule.all.erase rule) ledger).toOption =
        (executeHandler rt env ledger accounts amount).toOption ∧
      ∀ next, executeHandler rt env ledger accounts amount = .ok next →
        next (rule.config accounts).pubkey = ledger (rule.config accounts).pubkey) := by
  have same := resolved.accounts_eq
  have apart : accounts.ruleSlots.Nodup := by
    rw [same]
    exact ruleSlots_nodup free
  have held : Rule.DestinationHeld accounts ledger := by
    rw [Rule.DestinationHeld, same]
    exact resolved.token
  have accepts_iff (rule : Rule) : (∃ next, rule.check rt env accounts amount ledger = .ok next) ↔
      ∃ value, rule.verdict rt env accounts amount ledger = .ok value := by
    simp only [Rule.check_eq_ok]
    exact ⟨fun ⟨_, value, accepted, _⟩ => ⟨value, accepted⟩,
      fun ⟨value, accepted⟩ => ⟨_, value, accepted, rfl⟩⟩
  have alone (next : Ledger) (success : executeHandler rt env ledger accounts amount = .ok next)
      (rule : Rule) : ∃ value, rule.verdict rt env accounts amount ledger = .ok value := by
    rw [executeHandler_eq_checkAll] at success
    exact ⟨_, ((Rule.checkAll_eq_ok apart held next).mp success).1 rule⟩
  refine ⟨⟨?_, ?_⟩, ?_, ?_, ?_, ?_⟩
  · intro ⟨next, success⟩ rule
    exact (accepts_iff rule).mpr (alone next success rule)
  · intro accepts
    have ⟨_, _, _, _, success⟩ := Rule.checkAll_of_verdicts apart held
      fun rule => (accepts_iff rule).mp (accepts rule)
    rw [executeHandler_eq_checkAll]
    exact ⟨_, success⟩
  · intro next success
    have ⟨spent, cooled, daily, later, outcome⟩ :=
      Rule.checkAll_of_verdicts apart held (alone next success)
    rw [executeHandler_eq_checkAll, outcome] at success
    refine ⟨_, _, (Rule.check_eq_ok _ _ _).mpr ⟨spent, daily, rfl⟩,
      (Rule.check_eq_ok _ _ _).mpr ⟨cooled, later, rfl⟩, ?_⟩
    rw [← Except.ok.inj success]
    simp only [Rule.config, Function.update_self]
  · intro reason failed
    exact Run.commit_of_error failed
  · intro order reordered
    apply toOption_congr
    intro next
    rw [executeHandler_eq_checkAll, ← Rule.applyAll_guard, ← Rule.applyAll_guard]
    exact Guard.applyAll_perm (Rule.guards_unseen apart) Rule.guards_preserve held
      (reordered.map _) next
  · intro rule empty
    have absent : (ledger (rule.config accounts).pubkey).unconfigured = true := by
      simp only [Account.unconfigured, empty, List.isEmpty_nil, Bool.true_or]
    have writable : accounts.dailyLimitPda.isWritable = true ∧
        accounts.cooloffPda.isWritable = true := by
      rw [same]
      exact ⟨rfl, rfl⟩
    have derived : accounts.timeWindowConfigPda.pubkey =
        (TimeWindowConfig.kind.pda rt accounts.owner.pubkey accounts.stedeMint.pubkey).1 := by
      rw [same]
      rfl
    have owned : readPubkey (ledger accounts.destinationToken.pubkey).data 32
        (.program .invalidAccountData) = .ok recipient := by
      rw [same]
      exact resolved.owned
    have idle : rule.verdict rt env accounts amount ledger =
        .ok (ledger (rule.config accounts).pubkey) :=
      Rule.verdict_of_unconfigured writable derived owned absent
    constructor
    · apply toOption_congr
      intro next
      rw [executeHandler_eq_checkAll, ← Rule.applyAll_guard, ← Rule.applyAll_guard]
      exact Guard.applyAll_of_idle (Rule.guards_unseen apart) Rule.guards_preserve held
        ((List.perm_cons_erase (Rule.mem_all rule)).map _) idle next
    · intro next success
      rw [executeHandler_eq_checkAll] at success
      have written := ((Rule.checkAll_eq_ok apart held next).mp success).1 rule
      exact (Except.ok.inj (idle.symm.trans written)).symm

/- Wallet 3 has a daily limit of 100, a pause of a minute after every transfer of 50 or
more, and a friend, wallet 9, who signs from 70 on, and pays wallet 5. -/
section Sample

open Stede.Runtime (sampleKey)

def sampleRules : Ledger :=
  ((sampleLedger.write (DailyLimit.kind.pda .sample (sampleKey 3) (sampleKey 2)).1
      (DailyLimit.kind.created .sample ⟨sampleKey 3, sampleKey 2, 100, 0, 500,
        (DailyLimit.kind.pda .sample (sampleKey 3) (sampleKey 2)).2⟩)).write
    (Cooloff.kind.pda .sample (sampleKey 3) (sampleKey 2)).1
      (Cooloff.kind.created .sample ⟨sampleKey 3, sampleKey 2, 50, 60, 0,
        (Cooloff.kind.pda .sample (sampleKey 3) (sampleKey 2)).2⟩)).write
    (FriendGate.kind.pda .sample (sampleKey 3) (sampleKey 2)).1
      (FriendGate.kind.created .sample ⟨sampleKey 3, sampleKey 2, 70, sampleKey 9,
        (FriendGate.kind.pda .sample (sampleKey 3) (sampleKey 2)).2⟩)

def sampleCall : Execute :=
  resolvedAccounts .sample (sampleKey 6) (sampleKey 2) (sampleKey 4) (sampleKey 3) (sampleKey 5)

/-- All rules accept 60, and two of them record it, in any order; 80 is the friend's. -/
theorem execute_is_conjunction_sample :
    (∃ next, executeHandler .sample sampleEnv sampleRules sampleCall 60 = .ok next ∧
      ∃ spent cooled, Rule.dailyLimit.check .sample sampleEnv sampleCall 60 sampleRules = .ok spent ∧
        Rule.cooloff.check .sample sampleEnv sampleCall 60 sampleRules = .ok cooled ∧
        next = (sampleRules.write sampleCall.dailyLimitPda.pubkey
          (spent sampleCall.dailyLimitPda.pubkey)).write sampleCall.cooloffPda.pubkey
            (cooled sampleCall.cooloffPda.pubkey)) ∧
    (Rule.checkAll .sample sampleEnv sampleCall 60 Rule.all.reverse sampleRules).toOption =
      (executeHandler .sample sampleEnv sampleRules sampleCall 60).toOption ∧
    (¬ ∃ next, executeHandler .sample sampleEnv sampleRules sampleCall 80 = .ok next) ∧
    Run.commit (fun state => executeHandler .sample sampleEnv state sampleCall) sampleRules 80 =
      sampleRules := by
  have owned : readPubkey (sampleRules (sampleKey 4)).data 32 (.program .invalidAccountData) =
      .ok (sampleKey 5) := by decide +kernel
  have token : (sampleRules (sampleKey 4)).owner = Programs.token2022 := by decide +kernel
  obtain ⟨long, bytes⟩ := (readPubkey_eq_ok _ _ _ _).mp owned
  have holds := execute_is_conjunction .sample sampleEnv sampleRules (sampleKey 6) (sampleKey 2)
    (sampleKey 4) (sampleKey 3) (sampleKey 5) sampleCall
    ⟨extraAccounts_resolve _ _ _ _ _ _ _ long bytes, token, owned⟩
    (Runtime.CollisionFree.of_nodup (by decide +kernel))
  have accepts (rule : Rule) :
      ∃ next, rule.check .sample sampleEnv sampleCall 60 sampleRules = .ok next := by
    apply isOk_iff_exists.mp
    cases rule <;> decide +kernel
  have refuses : (Rule.friendGate.check .sample sampleEnv sampleCall 80 sampleRules).isOk = false := by
    decide +kernel
  obtain ⟨next, success⟩ := (holds 60).1.mpr accepts
  have refused : ¬ ∃ next, executeHandler .sample sampleEnv sampleRules sampleCall 80 = .ok next := by
    intro settles
    obtain ⟨next, accepted⟩ := (holds 80).1.mp settles .friendGate
    rw [accepted] at refuses
    cases refuses
  refine ⟨⟨next, success, (holds 60).2.1 next success⟩,
    (holds 60).2.2.2.1 _ (List.reverse_perm _), refused, ?_⟩
  cases outcome : executeHandler .sample sampleEnv sampleRules sampleCall 80 with
  | ok next => exact absurd ⟨next, outcome⟩ refused
  | error reason => exact (holds 80).2.2.1 reason outcome

end Sample

end Stede.Hook
