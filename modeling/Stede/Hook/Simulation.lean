import Stede.Hook.Transfer
import Stede.Rules.Messages

set_option autoImplicit false

/- A transfer as a simulation shows it: what is written to the log, and where a
failure comes from. -/
namespace Stede.Hook

open ExtraAccountMeta

/-- `execute_handler`, with what it writes. -/
def loggedExecuteHandler (rt : Runtime) (env : Env) (ledger : Ledger) (accounts : Execute)
    (amount : UInt64) : Logging Ledger := do
  Logged.msg .executeInvoked
  let ledger ← DailyLimit.loggedCheckTransfer rt env.clock ledger accounts.dailyLimitPda amount
  Logged.msg .dailyLimitRulePassed
  let recipientWallet ← readPubkey (ledger accounts.destinationToken.pubkey).data 32
    (.program .invalidAccountData)
  BlockList.loggedCheckTransfer rt ledger accounts.blockListPda recipientWallet
  Logged.msg .blockListRulePassed
  let ledger ← Cooloff.loggedCheckTransfer rt env.clock ledger accounts.cooloffPda amount
  Logged.msg .cooloffRulePassed
  SlowSend.loggedCheckTransfer rt env.clock ledger accounts.slowSendConfigPda
    accounts.slowSendContactPda accounts.destinationToken
  Logged.msg .slowSendRulePassed
  -- night mode writes nothing
  TimeWindowConfig.checkTransfer rt env.clock ledger accounts.timeWindowConfigPda accounts.owner
    accounts.stedeMint amount
  Logged.msg .timeWindowRulePassed
  FriendGate.loggedCheckTransfer rt env ledger accounts.friendGateConfigPda
    accounts.instructionsSysvar amount
  Logged.msg .friendGateRulePassed
  return ledger

def loggedInvokeExecute (rt : Runtime) (env : Env) (ledger : Ledger) (lists : MetaLists)
    (transfer : Transfer) : Logging Ledger := do
  let metas ← executeAccounts rt ledger lists transfer
  require (Programs.stedeHook ∈ transfer.supplied.map AccountMeta.pubkey) (.program .accountNotFound)
  require (metas.all (permits transfer.metas)) (.program .privilegeEscalation)
  let accounts ← Execute.tryAccounts rt ledger metas
  loggedExecuteHandler rt env ledger accounts transfer.amount

/-- The transfer, with what the hook and the rules write. -/
def loggedTransferChecked {rt : Runtime} (token : Token2022 rt) (env : Env) (ledger : Ledger)
    (lists : MetaLists) (transfer : Transfer) : Logging Ledger := do
  let moved ← token.move ledger transfer
  if transfer.source = transfer.destination then return moved
  else do
    let called ← loggedInvokeExecute rt env moved lists transfer
    return token.settle called transfer

theorem loggedExecuteHandler_result (rt : Runtime) (env : Env) (ledger : Ledger) (accounts : Execute)
    (amount : UInt64) :
    (loggedExecuteHandler rt env ledger accounts amount).result =
      executeHandler rt env ledger accounts amount := by
  simp only [loggedExecuteHandler, Logged.result_bind, Logged.result_silent, Logged.result_msg,
    Logged.result_pure, ok_bind, DailyLimit.loggedCheckTransfer_result,
    BlockList.loggedCheckTransfer_result, Cooloff.loggedCheckTransfer_result,
    SlowSend.loggedCheckTransfer_result, FriendGate.loggedCheckTransfer_result, executeHandler]
  rfl

theorem loggedTransferChecked_result {rt : Runtime} (token : Token2022 rt) (env : Env)
    (ledger : Ledger) (lists : MetaLists) (transfer : Transfer) :
    (loggedTransferChecked token env ledger lists transfer).result =
      transferChecked token env ledger lists transfer := by
  simp only [loggedTransferChecked, loggedInvokeExecute, Logged.result_bind, Logged.result_ite,
    Logged.result_silent, Logged.result_pure, loggedExecuteHandler_result, transferChecked,
    invokeExecute, fallback_execute, execute]
  rfl

end Stede.Hook

namespace Stede

/-- The rule whose program an error belongs to. -/
def Error.rule? : Error → Option Hook.Rule
  | dailyLimit _ => some .dailyLimit
  | blockHandle _ => some .blockHandle
  | cooloff _ => some .cooloff
  | slowSend _ => some .newRecipientDelay
  | timeWindow _ => some .timeWindow
  | friendGate _ => some .friendGate
  | vault _ | handle _ | anchor _ | program _ => none

/-- Every failure of the computation is of the given kind. -/
def Fails {α : Type} (kind : Error → Prop) (outcome : Except Error α) : Prop :=
  ∀ reason, outcome = .error reason → kind reason

section Fails

variable {α β : Type} {kind : Error → Prop}

@[simp] theorem fails_ok (value : α) : Fails kind (.ok value) :=
  fun _ failed => absurd failed (by simp)

@[simp] theorem fails_pure (value : α) : Fails kind (pure value) := fails_ok value

@[simp] theorem fails_error (reason : Error) :
    Fails kind (.error reason : Except Error α) ↔ kind reason := by
  simp [Fails]

@[simp] theorem fails_bind (first : Except Error α) (next : α → Except Error β) :
    Fails kind (first >>= next) ↔
      Fails kind first ∧ ∀ value, first = .ok value → Fails kind (next value) := by
  cases first with
  | ok value => simp [ok_bind]
  | error reason => simp [Fails, bind, Except.bind]

@[simp] theorem fails_require (condition : Prop) [Decidable condition] (reason : Error) :
    Fails kind (require condition reason) ↔ (¬ condition → kind reason) := by
  simp [Fails]

@[simp] theorem fails_okOr (option : Option α) (reason : Error) :
    Fails kind (okOr option reason) ↔ (option = none → kind reason) := by
  simp [Fails]

@[simp] theorem fails_ite (condition : Prop) [Decidable condition] (yes no : Except Error α) :
    Fails kind (if condition then yes else no) ↔
      (condition → Fails kind yes) ∧ (¬ condition → Fails kind no) := by
  split <;> simp_all

@[simp] theorem fails_slice (data : List UInt8) (low high : Nat) :
    Fails kind (slice data low high) ↔ (¬ high ≤ data.length → kind (.program .panicked)) := by
  unfold slice
  split <;> simp_all

theorem AccountType.fails_tryDeserialize (account : AccountType α) (data : List UInt8)
    (anchor : ∀ error, kind (.anchor error)) : Fails kind (account.tryDeserialize data) := by
  unfold tryDeserialize
  split
  · exact (fails_error _).mpr (anchor _)
  · split
    · exact (fails_error _).mpr (anchor _)
    · split
      · exact fails_ok _
      · exact (fails_error _).mpr (anchor _)

theorem AccountType.fails_store (type : AccountType α) (value : α) (account : Account)
    (anchor : ∀ error, kind (.anchor error)) : Fails kind (type.store value account) := by
  intro reason failed
  rw [((type.store_eq_error value account reason).mp failed).2]
  exact anchor _

theorem ConfigKind.fails_checked (config : ConfigKind α) {rt : Runtime} {invalid : Error}
    {key : Pubkey} {account : Account} {pass : β} {body : α → Except Error β}
    (anchor : ∀ error, kind (.anchor error)) (wrong : kind invalid)
    (inside : ∀ value, Fails kind (body value)) :
    Fails kind (config.checked rt invalid key account pass body) := by
  unfold checked
  split
  · exact fails_ok pass
  · simp only [fails_bind, fails_require, wrong, implies_true, true_and]
    intro _ _
    refine ⟨config.fails_tryDeserialize account.data anchor, fun value _ _ _ => inside value⟩

end Fails

namespace Hook

open ExtraAccountMeta

variable {rt : Runtime} {env : Env}

/-- What a rule's call fails with belongs to the rule, or to no rule. -/
def Rule.Own (rule : Rule) (reason : Error) : Prop := reason.rule? = none ∨ reason.rule? = some rule

namespace Rule

variable {accounts : Execute} {amount : UInt64}

theorem own_anchor (rule : Rule) (error : AnchorError) : rule.Own (.anchor error) := Or.inl rfl

theorem own_program (rule : Rule) (error : ProgramError) : rule.Own (.program error) := Or.inl rfl

theorem fails_readPubkey {kind : Error → Prop} (program : ∀ error, kind (.program error))
    (data : List UInt8) (low : Nat) {reason : Error} (wrong : kind reason) :
    Fails kind (readPubkey data low reason) := by
  simp [readPubkey, program, wrong]

theorem check_fails (rule : Rule) (ledger : Ledger) :
    Fails rule.Own (rule.check rt env accounts amount ledger) := by
  cases rule with
  | dailyLimit =>
      simp only [check, DailyLimit.checkTransfer, DailyLimit.checkTransferHandler, fails_bind,
        fails_require, own_anchor, fails_pure, implies_true, true_and, and_true]
      intro _ _
      apply DailyLimit.kind.fails_checked (own_anchor _) (Or.inr rfl)
      intro dailyLimit
      simp only [DailyLimit.spend, fails_bind, fails_okOr, fails_require, fails_pure]
      exact ⟨⟨fun _ => Or.inr rfl, fun _ _ => ⟨fun _ => Or.inr rfl, fun _ _ => trivial⟩⟩,
        fun value _ => DailyLimit.kind.fails_store value _ (own_anchor _)⟩
  | blockHandle =>
      simp only [check, BlockList.checkTransfer, BlockList.checkTransferHandler, fails_bind,
        fails_pure, implies_true, and_true]
      refine ⟨fails_readPubkey (own_program _) _ _ (own_program _ _), fun recipient _ => ?_⟩
      apply BlockList.kind.fails_checked (own_anchor _) (Or.inr rfl)
      intro blockList
      exact (fails_require _ _).mpr fun _ => Or.inr rfl
  | cooloff =>
      simp only [check, Cooloff.checkTransfer, Cooloff.checkTransferHandler, fails_bind,
        fails_require, own_anchor, fails_pure, implies_true, true_and, and_true]
      intro _ _
      apply Cooloff.kind.fails_checked (own_anchor _) (Or.inr rfl)
      intro cooloff
      split
      · exact fails_ok _
      · simp only [fails_bind, fails_okOr, fails_require]
        exact ⟨fun _ => Or.inr rfl, fun _ _ => ⟨fun _ => Or.inr rfl,
          fun _ _ => Cooloff.kind.fails_store _ _ (own_anchor _)⟩⟩
  | newRecipientDelay =>
      simp [check, SlowSend.checkTransfer, SlowSend.checkTransferHandler, readPubkey, readI64, readU64,
        readByte, Own, Error.rule?, -bind_pure_comp]
  | timeWindow =>
      simp [check, TimeWindowConfig.checkTransfer, TimeWindowConfig.checkTransferHandler, readByte, Own,
        Error.rule?, -bind_pure_comp]
  | friendGate =>
      simp [check, FriendGate.checkTransfer, FriendGate.checkTransferHandler, readPubkey, readU64, Own,
        Error.rule?, -bind_pure_comp]

theorem checkAll_eq_error {rules : List Rule} {ledger : Ledger} {reason : Error} :
    checkAll rt env accounts amount rules ledger = .error reason ↔
      ∃ earlier rule later reached, rules = earlier ++ rule :: later ∧
        checkAll rt env accounts amount earlier ledger = .ok reached ∧
        rule.check rt env accounts amount reached = .error reason := by
  induction rules generalizing ledger with
  | nil => simp [checkAll]
  | cons first rest ih =>
      rw [checkAll, bind_eq_error]
      constructor
      · rintro (failed | ⟨next, passed, failed⟩)
        · exact ⟨[], first, rest, ledger, rfl, rfl, failed⟩
        · obtain ⟨earlier, rule, later, reached, split, passed_all, rejects⟩ := ih.mp failed
          refine ⟨first :: earlier, rule, later, reached, by rw [split, List.cons_append], ?_, rejects⟩
          rw [checkAll, passed, ok_bind]
          exact passed_all
      · rintro ⟨earlier, rule, later, reached, split, passed_all, rejects⟩
        cases earlier with
        | nil =>
            obtain ⟨same, _⟩ := List.cons.inj split
            rw [← Except.ok.inj passed_all, ← same] at rejects
            exact Or.inl rejects
        | cons head tail =>
            obtain ⟨same, rest_eq⟩ := List.cons.inj split
            rw [checkAll, bind_eq_ok, ← same] at passed_all
            obtain ⟨next, passed, passed_rest⟩ := passed_all
            exact Or.inr ⟨next, passed, ih.mpr ⟨tail, rule, later, reached, rest_eq, passed_rest, rejects⟩⟩

end Rule

/-- An error of no rule. -/
def Foreign (reason : Error) : Prop := reason.rule? = none

theorem fails_seeds (ledger : Ledger) (accounts : List AccountMeta) (seeds : List Seed) :
    Fails Foreign (seeds.mapM (Seed.resolve ledger accounts)) := by
  induction seeds with
  | nil => exact fails_ok _
  | cons seed rest ih =>
      rw [List.mapM_cons]
      simp only [fails_bind, fails_pure, implies_true, and_true]
      refine ⟨?_, fun _ _ => ih⟩
      cases seed <;> simp [Seed.resolve, Foreign, Error.rule?, -bind_pure_comp]

theorem fails_resolveAll (ledger : Ledger) (accounts : List AccountMeta)
    (extras : List ExtraAccountMeta) : Fails Foreign (resolveAll rt ledger accounts extras) := by
  induction extras generalizing accounts with
  | nil => exact fails_ok _
  | cons extra rest ih =>
      rw [resolveAll, fails_bind]
      refine ⟨?_, fun account _ => ih _⟩
      unfold resolve
      split
      · exact fails_ok _
      · simp only [fails_bind, fails_okOr, fails_require, fails_pure]
        exact ⟨fun _ => rfl, fun _ _ => ⟨fails_seeds ledger accounts _, fun _ _ =>
          ⟨fun _ => rfl, fun _ _ => trivial⟩⟩⟩

theorem fails_executeAccounts (ledger : Ledger) (lists : MetaLists) (transfer : Transfer) :
    Fails Foreign (executeAccounts rt ledger lists transfer) := by
  simp only [executeAccounts, addToCpiInstruction, fails_ite, fails_bind, fails_okOr, fails_require,
    fails_pure, fails_ok, implies_true, and_true]
  exact fun _ => ⟨fun _ => rfl, fun _ _ => ⟨fails_resolveAll ledger _ _, fun _ _ _ => rfl⟩⟩

theorem fails_tryAccounts (ledger : Ledger) (metas : List AccountMeta) :
    Fails Foreign (Execute.tryAccounts rt ledger metas) := by
  unfold Execute.tryAccounts
  split
  · simp [loadMint, loadProgram, Foreign, Error.rule?, -bind_pure_comp]
  · exact (fails_error _).mpr rfl

section Transfers

variable (token : Token2022 rt) (env : Env) (ledger : Ledger) (lists : MetaLists) (transfer : Transfer)

/-- Token-2022 has moved the tokens and the hook has accepted its accounts. -/
structure Called (moved : Ledger) (accounts : Execute) : Prop where
  paid : token.move ledger transfer = .ok moved
  apart : transfer.source ≠ transfer.destination
  listed : Programs.stedeHook ∈ transfer.supplied.map AccountMeta.pubkey
  called : ∃ metas, executeAccounts rt moved lists transfer = .ok metas ∧
    metas.all (permits transfer.metas) = true ∧ Execute.tryAccounts rt moved metas = .ok accounts

/-- The rule is the first in the order of the hook whose `check_transfer` fails, and
this is what it fails with. -/
def Rejects (rule : Rule) (reason : Error) : Prop :=
  ∃ moved accounts earlier later reached, Called token ledger lists transfer moved accounts ∧
    Rule.all = earlier ++ rule :: later ∧
    Rule.checkAll rt env accounts transfer.amount earlier moved = .ok reached ∧
    rule.check rt env accounts transfer.amount reached = .error reason

end Transfers

section Failing

variable {token : Token2022 rt} {ledger : Ledger} {lists : MetaLists} {transfer : Transfer}
  {rule : Rule} {reason : Error}

theorem transferChecked_of_called {moved : Ledger} {accounts : Execute}
    (reached : Called token ledger lists transfer moved accounts) :
    transferChecked token env ledger lists transfer =
      (executeHandler rt env moved accounts transfer.amount).map fun called =>
        token.settle called transfer := by
  have ⟨metas, resolved, permitted, accepted⟩ := reached.called
  rw [transferChecked, reached.paid, ok_bind, if_neg reached.apart, invokeExecute, resolved, ok_bind,
    require_of_true reached.listed, ok_bind, require_of_true permitted, ok_bind, fallback_execute,
    execute, accepted, ok_bind, map_eq_bind]

theorem Rejects.failed (rejects : Rejects token env ledger lists transfer rule reason) :
    transferChecked token env ledger lists transfer = .error reason := by
  have ⟨moved, accounts, earlier, later, reached, called, order, passed, rejected⟩ := rejects
  have handler : executeHandler rt env moved accounts transfer.amount = .error reason := by
    rw [executeHandler_eq_checkAll]
    exact Rule.checkAll_eq_error.mpr ⟨earlier, rule, later, reached, order, passed, rejected⟩
  rw [transferChecked_of_called called, handler]
  rfl

/-- An error of a rule comes from the call of that rule. -/
theorem rejects_of_failed (foreign : Fails Foreign (token.move ledger transfer))
    (belongs : reason.rule? = some rule)
    (failed : transferChecked token env ledger lists transfer = .error reason) :
    Rejects token env ledger lists transfer rule reason := by
  have not_foreign : ¬ Foreign reason := by
    intro none
    rw [Foreign, belongs] at none
    cases none
  simp only [transferChecked, bind_eq_error] at failed
  rcases failed with before | ⟨moved, paid, failed⟩
  · exact absurd (foreign reason before) not_foreign
  · by_cases self : transfer.source = transfer.destination
    · simp [self, pure, Except.pure] at failed
    · simp only [self, ↓reduceIte, bind_eq_error, invokeExecute, require_eq_error, fallback_execute,
        execute, pure, Except.pure, reduceCtorEq, and_false, exists_false, or_false] at failed
      rcases failed with unresolved | ⟨metas, resolved, ⟨_, missing⟩ | ⟨_, hook, failed⟩⟩
      · exact absurd (fails_executeAccounts moved lists transfer reason unresolved) not_foreign
      · exact absurd (missing ▸ rfl) not_foreign
      · rcases failed with ⟨_, escalates⟩ | ⟨_, permitted, unaccepted | ⟨accounts, accepted, failed⟩⟩
        · exact absurd (escalates ▸ rfl) not_foreign
        · exact absurd (fails_tryAccounts moved metas reason unaccepted) not_foreign
        · rw [executeHandler_eq_checkAll, Rule.checkAll_eq_error] at failed
          obtain ⟨earlier, first, later, reached, order, passed, rejected⟩ := failed
          have same : first = rule := by
            have own := (first.check_fails reached reason rejected).resolve_left not_foreign
            exact Option.some.inj (own.symm.trans belongs)
          rw [same] at order rejected
          have called : Called token ledger lists transfer moved accounts :=
            ⟨paid, self, (require_eq_ok _ _ _).mp hook, metas, resolved,
              (require_eq_ok _ _ _).mp permitted, accepted⟩
          exact ⟨moved, accounts, earlier, later, reached, called, order, passed, rejected⟩

end Failing

end Hook

end Stede
