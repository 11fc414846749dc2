import Stede.Hook.Isolation
import Stede.Rules.Recording

set_option autoImplicit false

/- Who can spend what the daily limit and the cool-off of a sender record. -/
namespace Stede.Allowance

open Hook (MetaLists InitializeExtraAccountMetaList)

/-- The instructions of the hook and of the two rules that record something. -/
inductive Instruction
  | initializeExtraAccountMetaList (accounts : InitializeExtraAccountMetaList)
  | execute (accounts : List AccountMeta) (amount : UInt64)
  | fallback (accounts : List AccountMeta) (data : List UInt8)
  | setLimit (accounts : SetConfig) (limit : UInt64)
  | checkDailyLimit (dailyLimit : AccountMeta) (amount : UInt64)
  | setCooloff (accounts : SetConfig) (threshold : UInt64) (durationSeconds : Int64)
  | disableCooloff (accounts : DisableConfig)
  | checkCooloff (cooloff : AccountMeta) (amount : UInt64)

/-- An instruction anyone may send, from a transaction of their own. -/
structure Call where
  env : Env
  instruction : Instruction

/-- The account metas of a call that may carry a signature. -/
def Call.metas (call : Call) : List AccountMeta :=
  match call.instruction with
  | .initializeExtraAccountMetaList accounts => [accounts.payer]
  | .execute accounts _ | .fallback accounts _ => accounts
  | .setLimit accounts _ | .setCooloff accounts _ _ => [accounts.sender]
  | .disableCooloff accounts => [accounts.sender]
  | .checkDailyLimit given _ | .checkCooloff given _ => [given]

/-- What the address of the account it may create is derived from. -/
def Call.creates (call : Call) : Option (List UInt8 × Pubkey) :=
  match call.instruction with
  | .initializeExtraAccountMetaList accounts =>
      some ([Hook.EXTRA_ACCOUNT_META_LIST_SEED, accounts.stedeMint.bytes].flatten, Programs.stedeHook)
  | .setLimit accounts _ =>
      some (RuleKey.derivation ⟨⟨accounts.sender.pubkey, accounts.stedeMint⟩, .dailyLimit⟩)
  | .setCooloff accounts _ _ =>
      some (RuleKey.derivation ⟨⟨accounts.sender.pubkey, accounts.stedeMint⟩, .cooloff⟩)
  | _ => none

/-- The accounts of the rules, and the lists of extra accounts. -/
abbrev State := Ledger × MetaLists

def step (rt : Runtime) (state : State) (call : Call) : Except Error State :=
  let onLedger := fun (outcome : Except Error Ledger) => outcome.map fun ledger => (ledger, state.2)
  match call.instruction with
  | .initializeExtraAccountMetaList accounts =>
      Hook.initializeExtraAccountMetaList rt state.1 state.2 accounts
  | .execute accounts amount => onLedger (Hook.execute rt call.env state.1 accounts amount)
  | .fallback accounts data => onLedger (Hook.fallback rt call.env state.1 accounts data)
  | .setLimit accounts limit =>
      onLedger (DailyLimit.setLimit rt call.env.clock state.1 accounts limit)
  | .checkDailyLimit given amount =>
      onLedger (DailyLimit.checkTransfer rt call.env.clock state.1 given amount)
  | .setCooloff accounts threshold durationSeconds =>
      onLedger (Cooloff.setCooloff rt state.1 accounts threshold durationSeconds)
  | .disableCooloff accounts => onLedger (Cooloff.disableCooloff rt state.1 accounts)
  | .checkCooloff given amount =>
      onLedger (Cooloff.checkTransfer rt call.env.clock state.1 given amount)

def dailyKey (rt : Runtime) (pair : SenderMint) : Pubkey := RuleKey.address rt ⟨pair, .dailyLimit⟩
def coolKey (rt : Runtime) (pair : SenderMint) : Pubkey := RuleKey.address rt ⟨pair, .cooloff⟩

/-- What the addresses of a history and of the pair's two accounts are derived from. -/
def inPlay (pair : SenderMint) (calls : List Call) : Set (List UInt8 × Pubkey) :=
  {derivation | derivation = RuleKey.derivation ⟨pair, .dailyLimit⟩ ∨
    derivation = RuleKey.derivation ⟨pair, .cooloff⟩ ∨
    ∃ call ∈ calls, call.creates = some derivation}

/-- Both accounts of the pair are unused or live, and theirs. -/
structure Placed (rt : Runtime) (pair : SenderMint) (ledger : Ledger) : Prop where
  daily : DailyLimit.kind.PlacedFor rt pair.sender pair.stedeMint (ledger (dailyKey rt pair))
  cool : Cooloff.kind.PlacedFor rt pair.sender pair.stedeMint (ledger (coolKey rt pair))

def InPlace (rt : Runtime) (pair : SenderMint) (state : State) : Prop := Placed rt pair state.1

/-- Neither account has changed. -/
def Unchanged (rt : Runtime) (pair : SenderMint) (before after : Ledger) : Prop :=
  after (dailyKey rt pair) = before (dailyKey rt pair) ∧
    after (coolKey rt pair) = before (coolKey rt pair)

def Untouched (rt : Runtime) (pair : SenderMint) (start reached : State) : Prop :=
  Unchanged rt pair start.1 reached.1

/-- The pair's DailyLimit is given to a check that leaves a trace in it. -/
def SpendsLimit (rt : Runtime) (pair : SenderMint) (ledger : Ledger) (clock : Clock) (given : Pubkey)
    (amount : UInt64) : Prop :=
  given = dailyKey rt pair ∧ ∃ dailyLimit,
    DailyLimit.kind.load (ledger (dailyKey rt pair)) = .ok dailyLimit ∧
      DailyLimit.Records clock amount dailyLimit

/-- The pair's Cooloff is given to a check that leaves a trace in it. -/
def StartsCooloff (rt : Runtime) (pair : SenderMint) (ledger : Ledger) (clock : Clock) (given : Pubkey)
    (amount : UInt64) : Prop :=
  given = coolKey rt pair ∧ ∃ cooloff,
    Cooloff.kind.load (ledger (coolKey rt pair)) = .ok cooloff ∧ Cooloff.Records clock amount cooloff

section Effects

variable {rt : Runtime} {pair : SenderMint} {ledger next : Ledger} {clock : Clock} {amount : UInt64}

theorem programs_apart : DailyLimit.kind.program ≠ Cooloff.kind.program := by decide +kernel

theorem checkDailyLimit_effect (placed : Placed rt pair ledger) {given : AccountMeta}
    (success : DailyLimit.checkTransfer rt clock ledger given amount = .ok next) :
    Placed rt pair next ∧ next (coolKey rt pair) = ledger (coolKey rt pair) ∧
      (next (dailyKey rt pair) = ledger (dailyKey rt pair) ↔
        ¬ SpendsLimit rt pair ledger clock given.pubkey amount) := by
  have cool_kept : next (coolKey rt pair) = ledger (coolKey rt pair) :=
    DailyLimit.checkTransfer_spares success fun _ => placed.cool.spared programs_apart.symm
  have cool : Cooloff.kind.PlacedFor rt pair.sender pair.stedeMint (next (coolKey rt pair)) := by
    rw [cool_kept]
    exact placed.cool
  by_cases here : given.pubkey = dailyKey rt pair
  · rcases placed.daily with unused | ⟨dailyLimit, live, sender, stedeMint⟩
    · have kept : next (dailyKey rt pair) = ledger (dailyKey rt pair) :=
        DailyLimit.checkTransfer_spares success fun _ => Or.inl unused.unconfigured
      refine ⟨⟨?_, cool⟩, cool_kept, iff_of_true kept ?_⟩
      · rw [kept]
        exact placed.daily
      · intro ⟨_, dailyLimit, loaded, _⟩
        exact ConfigKind.load_of_unused unused ⟨dailyLimit, loaded⟩
    · have ⟨⟨charged, live', kept, kept'⟩, changes⟩ :=
        DailyLimit.checkTransfer_changes live here success
      refine ⟨⟨Or.inr ⟨charged, live', ?_, ?_⟩, cool⟩, cool_kept, ?_⟩
      · exact kept.trans sender
      · exact kept'.trans stedeMint
      · refine changes.trans (not_congr ?_)
        constructor
        · intro records
          exact ⟨here, dailyLimit, live.load, records⟩
        · intro ⟨_, loaded, found, records⟩
          rw [← Except.ok.inj (found.symm.trans live.load)]
          exact records
  · have kept : next (dailyKey rt pair) = ledger (dailyKey rt pair) :=
      DailyLimit.checkTransfer_spares success fun same => absurd same.symm here
    refine ⟨⟨?_, cool⟩, cool_kept, iff_of_true kept fun spends => here spends.1⟩
    rw [kept]
    exact placed.daily

theorem checkCooloff_effect (placed : Placed rt pair ledger) {given : AccountMeta}
    (success : Cooloff.checkTransfer rt clock ledger given amount = .ok next) :
    Placed rt pair next ∧ next (dailyKey rt pair) = ledger (dailyKey rt pair) ∧
      (next (coolKey rt pair) = ledger (coolKey rt pair) ↔
        ¬ StartsCooloff rt pair ledger clock given.pubkey amount) := by
  have daily_kept : next (dailyKey rt pair) = ledger (dailyKey rt pair) :=
    Cooloff.checkTransfer_spares success fun _ => placed.daily.spared programs_apart
  have daily : DailyLimit.kind.PlacedFor rt pair.sender pair.stedeMint (next (dailyKey rt pair)) := by
    rw [daily_kept]
    exact placed.daily
  by_cases here : given.pubkey = coolKey rt pair
  · rcases placed.cool with unused | ⟨cooloff, live, sender, stedeMint⟩
    · have kept : next (coolKey rt pair) = ledger (coolKey rt pair) :=
        Cooloff.checkTransfer_spares success fun _ => Or.inl unused.unconfigured
      refine ⟨⟨daily, ?_⟩, daily_kept, iff_of_true kept ?_⟩
      · rw [kept]
        exact placed.cool
      · intro ⟨_, cooloff, loaded, _⟩
        exact ConfigKind.load_of_unused unused ⟨cooloff, loaded⟩
    · have ⟨⟨moved, live', kept, kept'⟩, changes⟩ :=
        Cooloff.checkTransfer_changes live here success
      refine ⟨⟨daily, Or.inr ⟨moved, live', ?_, ?_⟩⟩, daily_kept, ?_⟩
      · exact kept.trans sender
      · exact kept'.trans stedeMint
      · refine changes.trans (not_congr ?_)
        constructor
        · intro records
          exact ⟨here, cooloff, live.load, records⟩
        · intro ⟨_, loaded, found, records⟩
          rw [← Except.ok.inj (found.symm.trans live.load)]
          exact records
  · have kept : next (coolKey rt pair) = ledger (coolKey rt pair) :=
      Cooloff.checkTransfer_spares success fun same => absurd same.symm here
    refine ⟨⟨daily, ?_⟩, daily_kept, iff_of_true kept fun starts => here starts.1⟩
    rw [kept]
    exact placed.cool

end Effects

/-- A hook call gives one of the pair's accounts to its rule, which leaves a trace. -/
def HookRecords (rt : Runtime) (pair : SenderMint) (ledger : Ledger) (clock : Clock)
    (accounts : List AccountMeta) (amount : UInt64) : Prop :=
  (∃ given, accounts[6]? = some given ∧ SpendsLimit rt pair ledger clock given.pubkey amount) ∨
    ∃ given, accounts[10]? = some given ∧ StartsCooloff rt pair ledger clock given.pubkey amount

/-- The call gives an account of the pair to a check that leaves a trace in it. -/
def Records (rt : Runtime) (pair : SenderMint) (ledger : Ledger) (call : Call) : Prop :=
  match call.instruction with
  | .execute accounts amount => HookRecords rt pair ledger call.env.clock accounts amount
  | .fallback accounts data => ∃ amount, readU64 data 8 = .ok amount ∧
      HookRecords rt pair ledger call.env.clock accounts amount
  | .checkDailyLimit given amount => SpendsLimit rt pair ledger call.env.clock given.pubkey amount
  | .checkCooloff given amount => StartsCooloff rt pair ledger call.env.clock given.pubkey amount
  | _ => False

section Hooks

variable {rt : Runtime} {pair : SenderMint} {ledger next : Ledger} {env : Env} {amount : UInt64}

theorem execute_effect (placed : Placed rt pair ledger) {accounts : List AccountMeta}
    (success : Hook.execute rt env ledger accounts amount = .ok next) :
    Placed rt pair next ∧ (Unchanged rt pair ledger next ↔
      ¬ HookRecords rt pair ledger env.clock accounts amount) := by
  obtain ⟨parsed, loaded, handled⟩ := (bind_eq_ok _ _ _).mp success
  rcases Hook.toList_or_short rt accounts with ⟨execute, rest, split⟩ | short
  · rw [split] at loaded
    rw [Hook.tryAccounts_toList rt loaded] at handled
    have dailySlot : accounts[6]? = some execute.dailyLimitPda := by
      rw [split]
      rfl
    have coolSlot : accounts[10]? = some execute.cooloffPda := by
      rw [split]
      rfl
    simp only [Hook.executeHandler, bind_eq_ok] at handled
    obtain ⟨spent, first, _, _, _, _, cooled, second, _, _, _, _, _, _, last⟩ := handled
    have same : cooled = next := Except.ok.inj last
    rw [same] at second
    obtain ⟨placed', cool_kept, daily⟩ := checkDailyLimit_effect placed first
    obtain ⟨placed'', daily_kept, cool⟩ := checkCooloff_effect placed' second
    refine ⟨placed'', ?_⟩
    rw [Unchanged, daily_kept, daily, ← cool_kept, cool, HookRecords, not_or]
    simp only [dailySlot, coolSlot, Option.some.injEq, exists_eq_left', StartsCooloff, cool_kept]
  · rw [short] at loaded
    cases loaded

theorem fallback_effect (placed : Placed rt pair ledger) {accounts : List AccountMeta}
    {data : List UInt8} (success : Hook.fallback rt env ledger accounts data = .ok next) :
    Placed rt pair next ∧ (Unchanged rt pair ledger next ↔
      ¬ ∃ amount, readU64 data 8 = .ok amount ∧
        HookRecords rt pair ledger env.clock accounts amount) := by
  simp only [Hook.fallback, bind_eq_ok] at success
  obtain ⟨_, _, amount, amount_read, executed⟩ := success
  obtain ⟨placed', unchanged⟩ := execute_effect placed executed
  refine ⟨placed', ?_⟩
  rw [unchanged]
  simp only [amount_read, Except.ok.injEq, exists_eq_left']

end Hooks

section Setters

variable {rt : Runtime} {pair : SenderMint} {inPlay : Set (List UInt8 × Pubkey)}
  (free : rt.CollisionFree inPlay)
  (daily_mem : RuleKey.derivation ⟨pair, .dailyLimit⟩ ∈ inPlay)
  (cool_mem : RuleKey.derivation ⟨pair, .cooloff⟩ ∈ inPlay)
  {ledger next : Ledger}

include free daily_mem cool_mem in
/-- A write at an address derived from something else changes neither account. -/
theorem unchanged_of_write {own : List UInt8 × Pubkey} (member : own ∈ inPlay)
    (not_daily : own ≠ RuleKey.derivation ⟨pair, .dailyLimit⟩)
    (not_cool : own ≠ RuleKey.derivation ⟨pair, .cooloff⟩) {address : Pubkey} {account : Account}
    (derived : address = (rt.findProgramAddress own.1 own.2).1)
    (written : next = ledger.write address account) : Unchanged rt pair ledger next := by
  constructor
  · rw [written, Ledger.write_of_ne]
    intro same
    exact not_daily (free daily_mem member (same.trans derived)).symm
  · rw [written, Ledger.write_of_ne]
    intro same
    exact not_cool (free cool_mem member (same.trans derived)).symm

theorem Placed.unchanged (placed : Placed rt pair ledger) (kept : Unchanged rt pair ledger next) :
    Placed rt pair next := by
  constructor
  · rw [kept.1]
    exact placed.daily
  · rw [kept.2]
    exact placed.cool

theorem derivation_ne {pair' : SenderMint} {slot slot' : RuleSlot}
    (different : pair' ≠ pair ∨ slot' ≠ slot) :
    RuleKey.derivation ⟨pair', slot'⟩ ≠ RuleKey.derivation ⟨pair, slot⟩ := by
  intro same
  have keys := RuleKey.derivation_injective same
  rcases different with other_pair | other_slot
  · exact other_pair (congrArg RuleKey.pair keys)
  · exact other_slot (congrArg RuleKey.slot keys)

include free daily_mem cool_mem in
/-- A setter writes to an account of the sender and the mint it is called with. -/
theorem setter_effect (placed : Placed rt pair ledger) {accounts : SetConfig} {slot : RuleSlot}
    {account : Account}
    (member : RuleKey.derivation ⟨⟨accounts.sender.pubkey, accounts.stedeMint⟩, slot⟩ ∈ inPlay)
    (derived : accounts.config = RuleKey.address rt ⟨⟨accounts.sender.pubkey, accounts.stedeMint⟩, slot⟩)
    (written : next = ledger.write accounts.config account)
    (placed_own : ⟨accounts.sender.pubkey, accounts.stedeMint⟩ = pair → Placed rt pair next) :
    Placed rt pair next ∧
      (accounts.sender.pubkey ≠ pair.sender → Unchanged rt pair ledger next) := by
  have elsewhere (other : (⟨accounts.sender.pubkey, accounts.stedeMint⟩ : SenderMint) ≠ pair) :
      Unchanged rt pair ledger next :=
    unchanged_of_write free daily_mem cool_mem member (derivation_ne (Or.inl other))
      (derivation_ne (Or.inl other)) derived written
  constructor
  · by_cases own : (⟨accounts.sender.pubkey, accounts.stedeMint⟩ : SenderMint) = pair
    · exact placed_own own
    · exact placed.unchanged (elsewhere own)
  · intro other
    exact elsewhere fun own => other (congrArg SenderMint.sender own)

include free daily_mem cool_mem in
theorem setLimit_effect (placed : Placed rt pair ledger) {clock : Clock} {accounts : SetConfig}
    {limit : UInt64}
    (member : RuleKey.derivation ⟨⟨accounts.sender.pubkey, accounts.stedeMint⟩, .dailyLimit⟩ ∈ inPlay)
    (success : DailyLimit.setLimit rt clock ledger accounts limit = .ok next) :
    Placed rt pair next ∧
      (accounts.sender.pubkey ≠ pair.sender → Unchanged rt pair ledger next) := by
  have ⟨_, derived, _, _, _, _, _, _, _, written⟩ := (DailyLimit.kind.set_eq_ok _ _ _ _ _).mp success
  apply setter_effect free daily_mem cool_mem placed member derived written
  intro own
  rw [← own] at placed cool_mem ⊢
  have here : dailyKey rt ⟨accounts.sender.pubkey, accounts.stedeMint⟩ = accounts.config :=
    derived.symm
  have apart : coolKey rt ⟨accounts.sender.pubkey, accounts.stedeMint⟩ ≠ accounts.config := by
    intro same
    exact derivation_ne (Or.inr (by decide)) (free cool_mem member (same.trans derived))
  have daily := placed.daily
  rw [here] at daily
  constructor
  · rw [here]
    exact ConfigKind.PlacedFor.set accounts
      (DailyLimit.setLimitHandler_claims clock _ _ limit) rfl daily success
  · rw [written, Ledger.write_of_ne apart]
    exact placed.cool

include free daily_mem cool_mem in
theorem setCooloff_effect (placed : Placed rt pair ledger) {accounts : SetConfig}
    {threshold : UInt64} {durationSeconds : Int64}
    (member : RuleKey.derivation ⟨⟨accounts.sender.pubkey, accounts.stedeMint⟩, .cooloff⟩ ∈ inPlay)
    (success : Cooloff.setCooloff rt ledger accounts threshold durationSeconds = .ok next) :
    Placed rt pair next ∧
      (accounts.sender.pubkey ≠ pair.sender → Unchanged rt pair ledger next) := by
  have ⟨_, derived, _, _, _, _, _, _, _, written⟩ := (Cooloff.kind.set_eq_ok _ _ _ _ _).mp success
  apply setter_effect free daily_mem cool_mem placed member derived written
  intro own
  rw [← own] at placed daily_mem ⊢
  have here : coolKey rt ⟨accounts.sender.pubkey, accounts.stedeMint⟩ = accounts.config :=
    derived.symm
  have apart : dailyKey rt ⟨accounts.sender.pubkey, accounts.stedeMint⟩ ≠ accounts.config := by
    intro same
    exact derivation_ne (Or.inr (by decide)) (free daily_mem member (same.trans derived))
  have cool := placed.cool
  rw [here] at cool
  constructor
  · rw [written, Ledger.write_of_ne apart]
    exact placed.daily
  · rw [here]
    exact ConfigKind.PlacedFor.set accounts
      (Cooloff.setCooloffHandler_claims _ _ threshold durationSeconds) rfl cool success

/-- Only the sender whose cool-off it is can close it. -/
theorem disableCooloff_effect (placed : Placed rt pair ledger) {accounts : DisableConfig}
    (success : Cooloff.disableCooloff rt ledger accounts = .ok next) :
    Placed rt pair next ∧
      (accounts.sender.pubkey ≠ pair.sender → Unchanged rt pair ledger next) := by
  have ⟨_, cooloff, loaded, _, owned, written⟩ := (Cooloff.kind.disable_eq_ok _ _ _ _).mp success
  have not_daily : dailyKey rt pair ≠ accounts.config := by
    intro here
    have daily := placed.daily
    rw [here] at daily
    have ⟨owner, _⟩ := (Cooloff.kind.load_eq_ok _ _ Cooloff.kind.foreign).mp loaded
    rcases daily with unused | ⟨dailyLimit, live, _⟩
    · exact ConfigKind.load_of_unused unused ⟨cooloff, loaded⟩
    · have owner' := congrArg Account.owner live.holds
      exact programs_apart (owner'.symm.trans owner)
  have daily_kept : next (dailyKey rt pair) = ledger (dailyKey rt pair) := by
    rw [written, Ledger.write_of_ne not_daily]
  by_cases here : coolKey rt pair = accounts.config
  · constructor
    · constructor
      · rw [daily_kept]
        exact placed.daily
      · rw [here]
        exact Or.inl (ConfigKind.disable_unused success)
    · intro other
      have cool := placed.cool
      rw [here] at cool
      rcases cool with unused | ⟨cooloff', live, sender, _⟩
      · exact absurd ⟨cooloff, loaded⟩ (ConfigKind.load_of_unused unused)
      · have same := Except.ok.inj (live.load.symm.trans loaded)
        rw [same] at sender
        exact absurd (owned.symm.trans sender) other
  · have kept : Unchanged rt pair ledger next := by
      refine ⟨daily_kept, ?_⟩
      rw [written, Ledger.write_of_ne here]
    exact ⟨placed.unchanged kept, fun _ => kept⟩

include free daily_mem cool_mem in
theorem initializeExtraAccountMetaList_effect {lists : MetaLists}
    {accounts : InitializeExtraAccountMetaList} {written : State}
    (member : ([Hook.EXTRA_ACCOUNT_META_LIST_SEED, accounts.stedeMint.bytes].flatten,
      Programs.stedeHook) ∈ inPlay)
    (success : Hook.initializeExtraAccountMetaList rt ledger lists accounts = .ok written) :
    Unchanged rt pair ledger written.1 := by
  have ⟨_, derived, _, _, extras, _, same⟩ :=
    (Hook.initializeExtraAccountMetaList_eq_ok _ _ _ _ _).mp success
  have programs : Programs.stedeHook ≠ DailyLimit.kind.program ∧
      Programs.stedeHook ≠ Cooloff.kind.program := by decide +kernel
  apply unchanged_of_write free daily_mem cool_mem member _ _ derived (congrArg Prod.fst same)
  · intro equal
    exact programs.1 (congrArg Prod.snd equal)
  · intro equal
    exact programs.2 (congrArg Prod.snd equal)

end Setters

/-- The sender of the pair signs nothing in the call. -/
def Unsigned (sender : Pubkey) (call : Call) : Prop :=
  ∀ account ∈ call.metas, account.pubkey = sender → account.isSigner = false

theorem signer_ne_sender {rt : Runtime} {sender : Pubkey} {call : Call} (unsigned : Unsigned sender call)
    {account : AccountMeta} (listed : account ∈ call.metas) (signed : account.signed rt = true) :
    account.pubkey ≠ sender := by
  intro same
  have flag := unsigned account listed same
  rw [AccountMeta.signed, flag] at signed
  cases signed

section Steps

variable {rt : Runtime} {pair : SenderMint} {state next : State}

theorem map_ledger_eq_ok {outcome : Except Error Ledger} {lists : MetaLists} :
    (outcome.map fun ledger => (ledger, lists)) = .ok next ↔
      outcome = .ok next.1 ∧ lists = next.2 := by
  cases outcome with
  | error reason => simp only [Except.map, reduceCtorEq, false_and]
  | ok ledger => simp only [Except.map, Except.ok.injEq, Prod.ext_iff]

/-- One call: both accounts stay in place, and without a signature of their sender
they change exactly when a check leaves a trace in one of them. -/
theorem step_effect {inPlay : Set (List UInt8 × Pubkey)} (free : rt.CollisionFree inPlay)
    (daily_mem : RuleKey.derivation ⟨pair, .dailyLimit⟩ ∈ inPlay)
    (cool_mem : RuleKey.derivation ⟨pair, .cooloff⟩ ∈ inPlay) (placed : Placed rt pair state.1)
    (call : Call) (given : ∀ derivation, call.creates = some derivation → derivation ∈ inPlay)
    (success : step rt state call = .ok next) :
    Placed rt pair next.1 ∧ (Unsigned pair.sender call →
      (Unchanged rt pair state.1 next.1 ↔ ¬ Records rt pair state.1 call)) := by
  obtain ⟨env, instruction⟩ := call
  cases instruction with
  | initializeExtraAccountMetaList accounts =>
      have kept := initializeExtraAccountMetaList_effect free daily_mem cool_mem (given _ rfl) success
      exact ⟨placed.unchanged kept, fun _ => iff_of_true kept not_false⟩
  | execute accounts amount =>
      have ⟨placed', unchanged⟩ := execute_effect placed (map_ledger_eq_ok.mp success).1
      exact ⟨placed', fun _ => unchanged⟩
  | fallback accounts data =>
      have ⟨placed', unchanged⟩ := fallback_effect placed (map_ledger_eq_ok.mp success).1
      exact ⟨placed', fun _ => unchanged⟩
  | setLimit accounts limit =>
      have set := (map_ledger_eq_ok.mp success).1
      have ⟨placed', unchanged⟩ := setLimit_effect free daily_mem cool_mem placed (given _ rfl) set
      refine ⟨placed', fun unsigned => iff_of_true (unchanged ?_) not_false⟩
      have pays := ((DailyLimit.kind.set_eq_ok _ _ _ _ _).mp set).1
      exact signer_ne_sender unsigned List.mem_cons_self (AccountMeta.signed_of_pays pays)
  | setCooloff accounts threshold durationSeconds =>
      have set := (map_ledger_eq_ok.mp success).1
      have ⟨placed', unchanged⟩ := setCooloff_effect free daily_mem cool_mem placed (given _ rfl) set
      refine ⟨placed', fun unsigned => iff_of_true (unchanged ?_) not_false⟩
      have pays := ((Cooloff.kind.set_eq_ok _ _ _ _ _).mp set).1
      exact signer_ne_sender unsigned List.mem_cons_self (AccountMeta.signed_of_pays pays)
  | disableCooloff accounts =>
      have closed := (map_ledger_eq_ok.mp success).1
      have ⟨placed', unchanged⟩ := disableCooloff_effect placed closed
      refine ⟨placed', fun unsigned => iff_of_true (unchanged ?_) not_false⟩
      have pays := ((Cooloff.kind.disable_eq_ok _ _ _ _).mp closed).1
      exact signer_ne_sender unsigned List.mem_cons_self (AccountMeta.signed_of_pays pays)
  | checkDailyLimit given amount =>
      have ⟨placed', cool_kept, daily⟩ :=
        checkDailyLimit_effect placed (map_ledger_eq_ok.mp success).1
      exact ⟨placed', fun _ => (and_iff_left cool_kept).trans daily⟩
  | checkCooloff given amount =>
      have ⟨placed', daily_kept, cool⟩ := checkCooloff_effect placed (map_ledger_eq_ok.mp success).1
      exact ⟨placed', fun _ => (and_iff_right daily_kept).trans cool⟩

end Steps

/-- Nobody else touches a sender's daily limit and cool-off over a whole sequence
of calls exactly when no call that is executed gives one of the two accounts to a
check that leaves a trace in it: nothing asks the caller of a check for a transfer
of the sender's, or for a signature. -/
theorem allowance_untouched_iff (rt : Runtime) (pair : SenderMint) (genesis : State)
    (daily_unused : (genesis.1 (dailyKey rt pair)).Unused)
    (cool_unused : (genesis.1 (coolKey rt pair)).Unused) (history calls : List Call)
    (free : rt.CollisionFree (inPlay pair (history ++ calls)))
    (unsigned : ∀ call ∈ calls, Unsigned pair.sender call) :
    (∀ reached, Run.Reached (step rt) (Run.run (step rt) genesis history) calls reached →
      Untouched rt pair (Run.run (step rt) genesis history) reached) ↔
    ∀ current call, Run.Taken (step rt) (Run.run (step rt) genesis history) calls current call →
      (step rt current call).isOk = true → ¬ Records rt pair current.1 call := by
  have daily_mem : RuleKey.derivation ⟨pair, .dailyLimit⟩ ∈ inPlay pair (history ++ calls) := Or.inl rfl
  have cool_mem : RuleKey.derivation ⟨pair, .cooloff⟩ ∈ inPlay pair (history ++ calls) :=
    Or.inr (Or.inl rfl)
  have effect {state next : State} {call : Call} (member : call ∈ history ++ calls)
      (placed : Placed rt pair state.1) (success : step rt state call = .ok next) :=
    step_effect free daily_mem cool_mem placed call
      (fun derivation creates => Or.inr (Or.inr ⟨call, member, creates⟩)) success
  have begun : InPlace rt pair (Run.run (step rt) genesis history) := by
    have fresh : InPlace rt pair genesis := ⟨Or.inl daily_unused, Or.inl cool_unused⟩
    apply Run.run_invariant fresh
    intro current call next member placed success
    exact (effect (List.mem_append_left _ member) placed success).1
  have start : Untouched rt pair (Run.run (step rt) genesis history)
      (Run.run (step rt) genesis history) := ⟨rfl, rfl⟩
  apply Run.forall_reached_iff begun start
  · intro current call next member placed success
    exact (effect (List.mem_append_right _ member) placed success).1
  · intro current call member placed ⟨daily, cool⟩
    rcases Run.commit_cases (step rt) current call with success | ⟨⟨reason, failed⟩, rolled_back⟩
    · have ⟨_, changes⟩ := effect (List.mem_append_right _ member) placed success
      rw [Untouched, Unchanged, ← daily, ← cool, success]
      refine (changes (unsigned call member)).trans ?_
      exact ⟨fun quiet _ => quiet, fun quiet => quiet rfl⟩
    · rw [rolled_back, failed]
      exact iff_of_true ⟨daily, cool⟩ nofun

/- A limit of 100, and a stranger's check of 100 that nobody signs. -/
section Sample

open Stede.Runtime (sampleKey)

def samplePair : SenderMint := ⟨sampleKey 1, sampleKey 2⟩

def sampleGenesis : State := (fun _ => .absent, fun _ => none)

def sampleHistory : List Call :=
  [⟨⟨⟨10, 0⟩, [], 0⟩,
    .setLimit ⟨⟨sampleKey 1, true, true⟩, sampleKey 2, dailyKey .sample samplePair⟩ 100⟩]

def sampleTheft : List Call :=
  [⟨⟨⟨20, 0⟩, [], 0⟩, .checkDailyLimit ⟨dailyKey .sample samplePair, false, true⟩ 100⟩]

theorem sample_free :
    Runtime.CollisionFree .sample (inPlay samplePair (sampleHistory ++ sampleTheft)) := by
  have free : Runtime.CollisionFree .sample {derivation | derivation ∈
      [RuleKey.derivation ⟨samplePair, .dailyLimit⟩, RuleKey.derivation ⟨samplePair, .cooloff⟩]} :=
    Runtime.CollisionFree.of_nodup (by decide +kernel)
  apply free.mono
  rintro derivation (daily | cool | ⟨call, member, creates⟩)
  · rw [daily]
    exact List.mem_cons_self
  · rw [cool]
    exact List.mem_cons_of_mem _ List.mem_cons_self
  · have listed : call ∈ sampleHistory ++ sampleTheft := member
    simp only [sampleHistory, sampleTheft, List.cons_append, List.nil_append, List.mem_cons,
      List.not_mem_nil, or_false] at listed
    rcases listed with rfl | rfl <;> cases creates
    exact List.mem_cons_self

theorem allowance_untouched_iff_sample :
    (∀ reached, Run.Reached (step .sample) (Run.run (step .sample) sampleGenesis sampleHistory)
        sampleTheft reached →
      Untouched .sample samplePair (Run.run (step .sample) sampleGenesis sampleHistory) reached) ↔
    ∀ current call, Run.Taken (step .sample) (Run.run (step .sample) sampleGenesis sampleHistory)
        sampleTheft current call →
      (step .sample current call).isOk = true → ¬ Records .sample samplePair current.1 call := by
  refine allowance_untouched_iff .sample samplePair sampleGenesis ⟨rfl, rfl⟩ ⟨rfl, rfl⟩ sampleHistory
    sampleTheft sample_free ?_
  intro call member account listed _
  rw [List.mem_singleton.mp member] at listed
  rw [List.mem_singleton.mp listed]

/-- The stranger's check uses up the sender's day, and the sender's next transfer is
refused. -/
theorem allowance_spent_by_stranger :
    (¬ ∀ reached, Run.Reached (step .sample)
        (Run.run (step .sample) sampleGenesis sampleHistory) sampleTheft reached →
      Untouched .sample samplePair (Run.run (step .sample) sampleGenesis sampleHistory) reached) ∧
    (DailyLimit.checkTransfer .sample ⟨30, 0⟩
      (Run.run (step .sample) sampleGenesis (sampleHistory ++ sampleTheft)).1
      ⟨dailyKey .sample samplePair, false, true⟩ 1).map (fun _ => ()) =
        .error (.dailyLimit .dailyLimitExceeded) := by
  refine ⟨?_, by decide +kernel⟩
  intro untouched
  have ⟨daily, _⟩ := untouched _ ⟨sampleTheft, [], (List.append_nil _).symm, rfl⟩
  revert daily
  decide +kernel

end Sample

end Stede.Allowance
