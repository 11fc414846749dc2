import Stede.Hook.Conjunction
import Stede.Lib.Footprint
import Stede.Rules.RuleKey

set_option autoImplicit false

/- The rules of one sender for one mint against everybody else's. -/
namespace Stede.Hook

/-- The instructions of the six rule programs, and the two ways into the hook. -/
inductive Instruction
  | setLimit (accounts : SetConfig) (limit : UInt64)
  | checkDailyLimit (dailyLimit : AccountMeta) (amount : UInt64)
  | addBlocked (accounts : SetConfig) (blockedWallet : Pubkey)
  | removeBlocked (accounts : SetConfig) (blockedWallet : Pubkey)
  | checkBlockList (blockList : AccountMeta) (recipientWallet : Pubkey)
  | setCooloff (accounts : SetConfig) (threshold : UInt64) (durationSeconds : Int64)
  | disableCooloff (accounts : DisableConfig)
  | checkCooloff (cooloff : AccountMeta) (amount : UInt64)
  | setSlowSend (accounts : SetConfig) (delaySeconds : Int64)
  | disableSlowSend (accounts : DisableConfig)
  | registerRecipient (accounts : RegisterRecipient) (recipient : Pubkey)
  | checkSlowSend (config contact destinationToken : AccountMeta)
  | setTimeWindow (accounts : SetConfig) (startHour endHour : UInt8)
  | disableTimeWindow (accounts : DisableConfig)
  | checkTimeWindow (config sender stedeMint : AccountMeta) (amount : UInt64)
  | setFriendGate (accounts : SetConfig) (threshold : UInt64) (friendWallet : Pubkey)
  | disableFriendGate (accounts : DisableConfig)
  | checkFriendGate (friendGate instructionsSysvar : AccountMeta) (amount : UInt64)
  | execute (accounts : List AccountMeta) (amount : UInt64)
  | fallback (accounts : List AccountMeta) (data : List UInt8)

/-- The keys at the given places of an account list. -/
def keysAt (places : List Nat) (accounts : List AccountMeta) : List Pubkey :=
  places.filterMap fun place => accounts[place]?.map AccountMeta.pubkey

namespace Instruction

def process (rt : Runtime) (env : Env) (ledger : Ledger) : Instruction → Except Error Ledger
  | setLimit accounts limit => DailyLimit.setLimit rt env.clock ledger accounts limit
  | checkDailyLimit dailyLimit amount =>
      DailyLimit.checkTransfer rt env.clock ledger dailyLimit amount
  | addBlocked accounts blockedWallet => BlockList.addBlocked rt ledger accounts blockedWallet
  | removeBlocked accounts blockedWallet => BlockList.removeBlocked rt ledger accounts blockedWallet
  | checkBlockList blockList recipientWallet => do
      BlockList.checkTransfer rt ledger blockList recipientWallet
      return ledger
  | setCooloff accounts threshold durationSeconds =>
      Cooloff.setCooloff rt ledger accounts threshold durationSeconds
  | disableCooloff accounts => Cooloff.disableCooloff rt ledger accounts
  | checkCooloff cooloff amount => Cooloff.checkTransfer rt env.clock ledger cooloff amount
  | setSlowSend accounts delaySeconds => SlowSend.setSlowSend rt ledger accounts delaySeconds
  | disableSlowSend accounts => SlowSend.disableSlowSend rt ledger accounts
  | registerRecipient accounts recipient =>
      SlowSend.registerRecipient rt env.clock ledger accounts recipient
  | checkSlowSend config contact destinationToken => do
      SlowSend.checkTransfer rt env.clock ledger config contact destinationToken
      return ledger
  | setTimeWindow accounts startHour endHour =>
      TimeWindowConfig.setTimeWindow rt ledger accounts startHour endHour
  | disableTimeWindow accounts => TimeWindowConfig.disableTimeWindow rt ledger accounts
  | checkTimeWindow config sender stedeMint amount => do
      TimeWindowConfig.checkTransfer rt env.clock ledger config sender stedeMint amount
      return ledger
  | setFriendGate accounts threshold friendWallet =>
      FriendGate.setFriendGate rt ledger accounts threshold friendWallet
  | disableFriendGate accounts => FriendGate.disableFriendGate rt ledger accounts
  | checkFriendGate friendGate instructionsSysvar amount => do
      FriendGate.checkTransfer rt env ledger friendGate instructionsSysvar amount
      return ledger
  | execute accounts amount => Hook.execute rt env ledger accounts amount
  | fallback accounts data => Hook.fallback rt env ledger accounts data

/-- The accounts an instruction takes in the place of rule accounts. -/
def ruleAccounts : Instruction → List Pubkey
  | setLimit accounts _ | addBlocked accounts _ | removeBlocked accounts _
  | setCooloff accounts _ _ | setSlowSend accounts _ | setTimeWindow accounts _ _
  | setFriendGate accounts _ _ => [accounts.config]
  | disableCooloff accounts | disableSlowSend accounts | disableTimeWindow accounts
  | disableFriendGate accounts => [accounts.config]
  | registerRecipient accounts _ => [accounts.contact]
  | checkDailyLimit config _ | checkBlockList config _ | checkCooloff config _
  | checkTimeWindow config _ _ _ | checkFriendGate config _ _ => [config.pubkey]
  | checkSlowSend config contact _ => [config.pubkey, contact.pubkey]
  | execute accounts _ | fallback accounts _ => keysAt [6, 8, 10, 12, 13, 15, 17] accounts

/-- The other accounts whose content it reads: the destination and the mint. -/
def consulted : Instruction → List Pubkey
  | checkSlowSend _ _ destinationToken => [destinationToken.pubkey]
  | execute accounts _ | fallback accounts _ => keysAt [1, 2] accounts
  | _ => []

end Instruction

/-- One instruction of a history, with the pair whose rule accounts it is given. -/
structure Entry where
  env : Env
  pair : SenderMint
  instruction : Instruction

/-- Each rule account of the instruction is one of the pair's, and no other account
it reads is a rule account of another pair. -/
structure Entry.Given (rt : Runtime) (inPlay : Set RuleKey) (entry : Entry) : Prop where
  rules : ∀ account ∈ entry.instruction.ruleAccounts,
    ∃ key ∈ inPlay, key.pair = entry.pair ∧ account = key.address rt
  others : ∀ account ∈ entry.instruction.consulted,
    ∀ key ∈ inPlay, key.pair ≠ entry.pair → account ≠ key.address rt

def step (rt : Runtime) (ledger : Ledger) (entry : Entry) : Except Error Ledger :=
  entry.instruction.process rt entry.env ledger

section Footprints

variable {α : Type} (kind : ConfigKind α) (rt : Runtime)

theorem set_footprint (accounts : SetConfig) (handler : UInt8 → α → Except Error α) :
    Footprint (fun ledger => kind.set rt ledger accounts handler) {accounts.config}
      {accounts.config} := by
  have own : accounts.config ∈ ({accounts.config} : Set Pubkey) := Set.mem_singleton _
  unfold ConfigKind.set
  refine .after subset_rfl (.const _) fun _ _ _ => ?_
  refine .after subset_rfl (.const _) fun _ _ _ => ?_
  refine .after subset_rfl (.read own _) fun _ (value, account) _ => ?_
  refine .after subset_rfl (.const _) fun _ _ _ => ?_
  refine .after subset_rfl (.const _) fun _ _ _ => ?_
  refine .after subset_rfl (.const _) fun _ _ _ => ?_
  exact .overwrite _ own

theorem disable_footprint (accounts : DisableConfig) :
    Footprint (fun ledger => kind.disable rt ledger accounts) {accounts.config}
      {accounts.config} := by
  have own : accounts.config ∈ ({accounts.config} : Set Pubkey) := Set.mem_singleton _
  unfold ConfigKind.disable
  refine .after subset_rfl (.const _) fun _ _ _ => ?_
  refine .after subset_rfl (.read own _) fun _ _ _ => ?_
  refine .after subset_rfl (.const _) fun _ _ _ => ?_
  refine .after subset_rfl (.const _) fun _ _ _ => ?_
  refine .after subset_rfl (.const _) fun _ _ _ => ?_
  exact .overwrite _ own

theorem removeBlocked_footprint (accounts : SetConfig) (blockedWallet : Pubkey) :
    Footprint (fun ledger => BlockList.removeBlocked rt ledger accounts blockedWallet)
      {accounts.config} {accounts.config} := by
  have own : accounts.config ∈ ({accounts.config} : Set Pubkey) := Set.mem_singleton _
  unfold BlockList.removeBlocked
  refine .after subset_rfl (.const _) fun _ _ _ => ?_
  refine .after subset_rfl (.read own _) fun _ _ _ => ?_
  refine .after subset_rfl (.const _) fun _ _ _ => ?_
  refine .after subset_rfl (.const _) fun _ _ _ => ?_
  refine .after subset_rfl (.const _) fun _ _ _ => ?_
  refine .after subset_rfl (.const _) fun _ _ _ => ?_
  refine .after subset_rfl (.read own _) fun _ _ _ => ?_
  exact .overwrite _ own

theorem registerRecipient_footprint (clock : Clock) (accounts : RegisterRecipient)
    (recipient : Pubkey) :
    Footprint (fun ledger => SlowSend.registerRecipient rt clock ledger accounts recipient)
      {accounts.contact} {accounts.contact} := by
  have own : accounts.contact ∈ ({accounts.contact} : Set Pubkey) := Set.mem_singleton _
  unfold SlowSend.registerRecipient
  refine .after subset_rfl (.const _) fun _ _ _ => ?_
  refine .after subset_rfl (.const _) fun _ _ _ => ?_
  refine .after subset_rfl (.read own _) fun _ _ _ => ?_
  refine .after subset_rfl (.const _) fun _ _ _ => ?_
  refine .after subset_rfl (.const _) fun _ _ _ => ?_
  refine .after subset_rfl (.const _) fun _ _ _ => ?_
  exact .overwrite _ own

/-- Of the six checks two record something in the account they are given. -/
theorem checkDailyLimit_footprint (clock : Clock) (dailyLimit : AccountMeta) (amount : UInt64) :
    Footprint (fun ledger => DailyLimit.checkTransfer rt clock ledger dailyLimit amount)
      {dailyLimit.pubkey} {dailyLimit.pubkey} := by
  have own : dailyLimit.pubkey ∈ ({dailyLimit.pubkey} : Set Pubkey) := Set.mem_singleton _
  unfold DailyLimit.checkTransfer
  refine .after subset_rfl (.const _) fun _ _ _ => ?_
  refine .after subset_rfl (.read own fun account =>
    DailyLimit.checkTransferHandler rt clock dailyLimit.pubkey account amount) fun _ _ _ => ?_
  exact .overwrite _ own

theorem checkCooloff_footprint (clock : Clock) (cooloff : AccountMeta) (amount : UInt64) :
    Footprint (fun ledger => Cooloff.checkTransfer rt clock ledger cooloff amount)
      {cooloff.pubkey} {cooloff.pubkey} := by
  have own : cooloff.pubkey ∈ ({cooloff.pubkey} : Set Pubkey) := Set.mem_singleton _
  unfold Cooloff.checkTransfer
  refine .after subset_rfl (.const _) fun _ _ _ => ?_
  refine .after subset_rfl (.read own fun account =>
    Cooloff.checkTransferHandler rt clock cooloff.pubkey account amount) fun _ _ _ => ?_
  exact .overwrite _ own

/-- A call has the nineteen accounts, or parsing them fails whatever they hold. -/
theorem toList_or_short (accounts : List AccountMeta) :
    (∃ execute : Execute, ∃ rest, accounts = execute.toList ++ rest) ∨
      ∀ ledger, Execute.tryAccounts rt ledger accounts = .error (.anchor .accountNotEnoughKeys) := by
  by_cases long : ∃ execute : Execute, ∃ rest, accounts = execute.toList ++ rest
  · exact Or.inl long
  · refine Or.inr fun ledger => ?_
    unfold Execute.tryAccounts
    split
    · exact absurd ⟨.mk _ _ _ _ _ _ _ _ _ _ _ _ _ _ _ _ _ _ _, _, rfl⟩ long
    · rfl

theorem tryAccounts_toList {ledger : Ledger} {execute parsed : Execute} {rest : List AccountMeta}
    (success : Execute.tryAccounts rt ledger (execute.toList ++ rest) = .ok parsed) :
    parsed = execute := by
  simp only [Execute.toList, List.cons_append, Execute.tryAccounts, bind_eq_ok, pure, Except.pure,
    Except.ok.injEq] at success
  obtain ⟨_, _, _, _, _, _, _, _, _, _, _, _, _, _, _, _, _, _, same⟩ := success
  exact same.symm

/-- Parsing the accounts of a hook call reads the mint and nothing else. -/
theorem tryAccounts_local (accounts : List AccountMeta) :
    Local {key | key ∈ keysAt [1, 2] accounts} fun ledger => Execute.tryAccounts rt ledger accounts := by
  intro left right agree
  rcases toList_or_short rt accounts with ⟨execute, rest, rfl⟩ | short
  · have mint : left execute.stedeMint.pubkey = right execute.stedeMint.pubkey :=
      agree (List.mem_cons_self ..)
    simp only [Execute.toList, List.cons_append, Execute.tryAccounts, mint]
  · exact (short left).trans (short right).symm

theorem executeHandler_footprint (env : Env) (accounts : Execute) (amount : UInt64) :
    Footprint (fun ledger => executeHandler rt env ledger accounts amount)
      {key | key ∈ accounts.ruleSlots}
      {key | key ∈ accounts.ruleSlots ++ [accounts.stedeMint.pubkey,
        accounts.destinationToken.pubkey]} := by
  have config_mem (rule : Rule) : (rule.config accounts).pubkey ∈ accounts.ruleSlots := by
    cases rule <;> simp only [Rule.config, Execute.ruleSlots, List.mem_cons, true_or, or_true]
  have contact_mem : accounts.slowSendContactPda.pubkey ∈ accounts.ruleSlots := by
    simp only [Execute.ruleSlots, List.mem_cons, true_or, or_true]
  have destination_mem : accounts.destinationToken.pubkey ∈ [accounts.stedeMint.pubkey,
      accounts.destinationToken.pubkey] := List.mem_cons_of_mem _ List.mem_cons_self
  have turn : (fun ledger => executeHandler rt env ledger accounts amount) =
      Guard.applyAll (Rule.all.map (Rule.guard rt env accounts amount)) := by
    funext ledger
    rw [executeHandler_eq_checkAll, Rule.applyAll_guard]
  rw [turn]
  refine (Footprint.guards ?_).mono ?_ (fun _ => List.mem_append_left _) subset_rfl
  · intro guard member
    obtain ⟨rule, _, rfl⟩ := List.mem_map.mp member
    refine ⟨List.mem_append_left _ (config_mem rule), fun left right agree => ?_⟩
    exact rule.verdict_congr (agree (List.mem_append_left _ (config_mem rule)))
      (agree (List.mem_append_right _ destination_mem))
      (agree (List.mem_append_left _ contact_mem))
  · intro key written
    obtain ⟨guard, member, same⟩ := List.mem_map.mp written
    obtain ⟨rule, _, here⟩ := List.mem_map.mp member
    rw [← same, ← here]
    exact config_mem rule

theorem execute_footprint (env : Env) (accounts : List AccountMeta) (amount : UInt64) :
    Footprint (fun ledger => execute rt env ledger accounts amount)
      {key | key ∈ keysAt [6, 8, 10, 12, 13, 15, 17] accounts}
      {key | key ∈ keysAt [6, 8, 10, 12, 13, 15, 17] accounts ++ keysAt [1, 2] accounts} := by
  have inside : {key | key ∈ keysAt [6, 8, 10, 12, 13, 15, 17] accounts} ⊆
      {key | key ∈ keysAt [6, 8, 10, 12, 13, 15, 17] accounts ++ keysAt [1, 2] accounts} :=
    fun _ => List.mem_append_left _
  have looks := tryAccounts_local rt accounts
  refine .after inside ?_ ?_
  · intro left right agree
    exact looks left right fun key member => agree (List.mem_append_right _ member)
  · intro ledger parsed success
    rcases toList_or_short rt accounts with ⟨execute, rest, rfl⟩ | short
    · rw [tryAccounts_toList rt success]
      exact executeHandler_footprint rt env execute amount
    · rw [short ledger] at success
      exact nomatch success

/-- An instruction on one account touches no other. -/
theorem own_footprint {step : Ledger → Except Error Ledger} {account : Pubkey}
    (footprint : Footprint step {account} {account}) :
    Footprint step {key | key ∈ [account]} {key | key ∈ [account] ++ []} := by
  have same : ({key | key ∈ [account]} : Set Pubkey) = {account} := by
    ext key
    exact List.mem_singleton
  rw [List.append_nil, same]
  exact footprint

/-- An instruction that only answers writes nothing. -/
theorem check_footprint {check : Ledger → Except Error Unit} {rules others : List Pubkey}
    (looks : Local {key | key ∈ rules ++ others} check) :
    Footprint (fun ledger => do check ledger; return ledger) {key | key ∈ rules}
      {key | key ∈ rules ++ others} :=
  (Footprint.of_check looks fun _ => rfl).mono (Set.empty_subset _)
    (fun _ => List.mem_append_left _) subset_rfl

/-- Every instruction writes the rule accounts it is given at most, and reads only
these, the destination and the mint. -/
theorem process_footprint (env : Env) (instruction : Instruction) :
    Footprint (fun ledger => instruction.process rt env ledger)
      {key | key ∈ instruction.ruleAccounts}
      {key | key ∈ instruction.ruleAccounts ++ instruction.consulted} := by
  cases instruction with
  | setLimit accounts | addBlocked accounts | setCooloff accounts | setSlowSend accounts
  | setTimeWindow accounts | setFriendGate accounts =>
      apply own_footprint
      simp only [Instruction.process, DailyLimit.setLimit, BlockList.addBlocked, Cooloff.setCooloff,
        SlowSend.setSlowSend, TimeWindowConfig.setTimeWindow, FriendGate.setFriendGate]
      exact set_footprint _ rt accounts _
  | disableCooloff accounts | disableSlowSend accounts | disableTimeWindow accounts
  | disableFriendGate accounts =>
      apply own_footprint
      simp only [Instruction.process, Cooloff.disableCooloff, SlowSend.disableSlowSend,
        TimeWindowConfig.disableTimeWindow, FriendGate.disableFriendGate]
      exact disable_footprint _ rt accounts
  | removeBlocked accounts blockedWallet =>
      exact own_footprint (removeBlocked_footprint rt accounts blockedWallet)
  | registerRecipient accounts recipient =>
      exact own_footprint (registerRecipient_footprint rt env.clock accounts recipient)
  | checkDailyLimit dailyLimit amount =>
      exact own_footprint (checkDailyLimit_footprint rt env.clock dailyLimit amount)
  | checkCooloff cooloff amount =>
      exact own_footprint (checkCooloff_footprint rt env.clock cooloff amount)
  | checkBlockList blockList recipientWallet =>
      apply check_footprint
      intro left right agree
      have own : left blockList.pubkey = right blockList.pubkey := agree (List.mem_cons_self ..)
      simp only [BlockList.checkTransfer, own]
  | checkSlowSend config contact destinationToken =>
      apply check_footprint
      intro left right agree
      have own : left config.pubkey = right config.pubkey := agree (List.mem_cons_self ..)
      have met : left contact.pubkey = right contact.pubkey :=
        agree (List.mem_cons_of_mem _ (List.mem_cons_self ..))
      have paid : left destinationToken.pubkey = right destinationToken.pubkey :=
        agree (List.mem_cons_of_mem _ (List.mem_cons_of_mem _ (List.mem_cons_self ..)))
      simp only [SlowSend.checkTransfer, own, met, paid]
  | checkTimeWindow config sender stedeMint amount =>
      apply check_footprint
      intro left right agree
      have own : left config.pubkey = right config.pubkey := agree (List.mem_cons_self ..)
      simp only [TimeWindowConfig.checkTransfer, own]
  | checkFriendGate friendGate instructionsSysvar amount =>
      apply check_footprint
      intro left right agree
      have own : left friendGate.pubkey = right friendGate.pubkey := agree (List.mem_cons_self ..)
      simp only [FriendGate.checkTransfer, own]
  | execute accounts amount => exact execute_footprint rt env accounts amount
  | fallback accounts data =>
      have inside : {key | key ∈ (Instruction.fallback accounts data).ruleAccounts} ⊆
          {key | key ∈ (Instruction.fallback accounts data).ruleAccounts ++
            (Instruction.fallback accounts data).consulted} := fun _ => List.mem_append_left _
      refine .after inside (.const _) fun _ _ _ => ?_
      refine .after inside (.const _) fun _ amount _ => ?_
      exact execute_footprint rt env accounts amount

end Footprints

/-- The addresses of everybody else's rule accounts. -/
def foreign (rt : Runtime) (inPlay : Set RuleKey) (pair : SenderMint) : Set Pubkey :=
  {account | ∃ key ∈ inPlay, key.pair ≠ pair ∧ account = key.address rt}

def Entry.of (pair : SenderMint) (entry : Entry) : Bool := entry.pair = pair

/-- A history in which each instruction is given the rule accounts of one pair
keeps the pairs apart. -/
theorem history_isolated {rt : Runtime} {inPlay : Set RuleKey} {history : List Entry}
    (pair : SenderMint) (given : ∀ entry ∈ history, entry.Given rt inPlay)
    (free : rt.CollisionFree (RuleKey.derivation '' inPlay)) :
    Run.Isolated (step rt) (fun _ => True) (Entry.of pair) (shown (foreign rt inPlay pair)ᶜ)
      history := by
  refine Footprint.isolated (fun entry _ => process_footprint rt entry.env entry.instruction) ?_ ?_
  · intro entry member others account written
    obtain ⟨key, inside, owned, same⟩ := (given entry member).rules account written
    have different : entry.pair ≠ pair := of_decide_eq_false others
    exact ⟨key, inside, owned ▸ different, same⟩
  · intro entry member own account touched theirs
    have same_pair : entry.pair = pair := of_decide_eq_true own
    obtain ⟨other, inside, different, elsewhere⟩ := theirs
    rw [← same_pair] at different
    rcases List.mem_append.mp touched with rule | consulted
    · obtain ⟨key, inside', owned, same⟩ := (given entry member).rules account rule
      have keys := RuleKey.address_injOn free inside inside' (elsewhere.symm.trans same)
      rw [keys] at different
      exact different owned
    · exact (given entry member).others account consulted other inside different elsewhere

/-- The rules of a sender for a mint, and every verdict on them, are what they
would be had nobody else used the programs; and within a program the seed strings
of different accounts differ. -/
theorem rules_isolated (rt : Runtime) (ledger : Ledger) (history : List Entry) (pair : SenderMint)
    (inPlay : Set RuleKey) (given : ∀ entry ∈ history, entry.Given rt inPlay)
    (free : rt.CollisionFree (RuleKey.derivation '' inPlay)) :
    (∀ key ∈ inPlay, key.pair = pair →
      Run.run (step rt) ledger history (key.address rt) =
        Run.run (step rt) ledger (history.filter (Entry.of pair)) (key.address rt)) ∧
    (Run.trace (step rt) ledger history).filter (fun entry => Entry.of pair entry.1) =
      Run.trace (step rt) ledger (history.filter (Entry.of pair)) ∧
    ∀ first second : RuleKey, first.slot.program = second.slot.program →
      first.seeds.flatten = second.seeds.flatten → first = second := by
  have ⟨accounts, verdicts⟩ := (history_isolated pair given free).replay trivial trivial
    (rfl : shown (foreign rt inPlay pair)ᶜ ledger = _)
  refine ⟨?_, verdicts, ?_⟩
  · intro key inside owned
    apply (shown_eq_iff _ _ _).mp accounts
    intro ⟨other, inside', different, same⟩
    rw [RuleKey.address_injOn free inside inside' same] at owned
    exact different owned
  · intro first second program strings
    exact RuleKey.derivation_injective (Prod.ext strings program)

/-- The pairs of two senders and one mint, and the accounts they use. -/
def samplePair (sender : UInt8) : SenderMint := ⟨Runtime.sampleKey sender, Runtime.sampleKey 2⟩

def sampleKeys : List RuleKey :=
  [⟨samplePair 3, .dailyLimit⟩, ⟨samplePair 4, .dailyLimit⟩, ⟨samplePair 4, .slowSendConfig⟩,
    ⟨samplePair 4, .slowSendContact (Runtime.sampleKey 3)⟩]

/-- Both set a limit of 100; each spends 60, and one of them tries 60 again. -/
def sampleHistory : List Entry :=
  [limit 3, limit 4, spend 3, spend 4, ⟨during 9, samplePair 4, .registerRecipient
    ⟨⟨Runtime.sampleKey 4, true, true⟩, Runtime.sampleKey 2, (RuleKey.address Runtime.sample
      ⟨samplePair 4, .slowSendContact (Runtime.sampleKey 3)⟩)⟩ (Runtime.sampleKey 3)⟩, spend 3]
where
  during (slot : UInt64) : Env := ⟨⟨slot, 1000⟩, [], 0⟩
  account (sender : UInt8) : Pubkey :=
    RuleKey.address Runtime.sample ⟨samplePair sender, .dailyLimit⟩
  limit (sender : UInt8) : Entry :=
    ⟨during 5, samplePair sender, .setLimit ⟨⟨Runtime.sampleKey sender, true, true⟩,
      Runtime.sampleKey 2, account sender⟩ 100⟩
  spend (sender : UInt8) : Entry :=
    ⟨during 7, samplePair sender, .checkDailyLimit ⟨account sender, false, true⟩ 60⟩

theorem rules_isolated_sample :
    Run.run (step Runtime.sample) (fun _ => .absent) sampleHistory
        (RuleKey.address Runtime.sample ⟨samplePair 3, .dailyLimit⟩) =
      Run.run (step Runtime.sample) (fun _ => .absent) (sampleHistory.filter (Entry.of (samplePair 3)))
        (RuleKey.address Runtime.sample ⟨samplePair 3, .dailyLimit⟩) ∧
    (Run.trace (step Runtime.sample) (fun _ => .absent) sampleHistory).filter
        (fun entry => Entry.of (samplePair 3) entry.1) =
      Run.trace (step Runtime.sample) (fun _ => .absent)
        (sampleHistory.filter (Entry.of (samplePair 3))) := by
  have given : ∀ entry ∈ sampleHistory,
      (∀ account ∈ entry.instruction.ruleAccounts, ∃ key ∈ sampleKeys, key.pair = entry.pair ∧
        account = key.address Runtime.sample) ∧
      ∀ account ∈ entry.instruction.consulted, ∀ key ∈ sampleKeys, key.pair ≠ entry.pair →
        account ≠ key.address Runtime.sample := by
    decide +kernel
  have free : Runtime.sample.CollisionFree (RuleKey.derivation '' {key | key ∈ sampleKeys}) :=
    RuleKey.free_of_nodup (by decide +kernel)
  have ⟨accounts, verdicts, _⟩ := rules_isolated Runtime.sample (fun _ => .absent) sampleHistory
    (samplePair 3) {key | key ∈ sampleKeys}
    (fun entry member => ⟨(given entry member).1, (given entry member).2⟩) free
  exact ⟨accounts _ List.mem_cons_self rfl, verdicts⟩

/-- Both first spends pass; the second one exceeds its sender's own limit. -/
example : (Run.trace (step Runtime.sample) (fun _ => .absent) sampleHistory).map (·.2) =
    [.ok (), .ok (), .ok (), .ok (), .ok (), .error (.dailyLimit .dailyLimitExceeded)] := by
  decide +kernel

end Stede.Hook
