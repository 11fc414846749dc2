import Stede.Hook.OwnerBound
import Stede.Policy.Refines

set_option autoImplicit false

/- The policies and the money: what the transfers of a mint, as Token-2022 settles them
through the hook, have to do with the policy of the wallet that signs them. -/
namespace Stede.Policy

open Hook (Execute Rule MetaLists Chain ListsWritten callFor suppliedFor)

section Calls

variable {rt : Runtime} {pair : SenderMint} {recipients : Finset Pubkey} {inPlay : Set RuleKey}
  {ledger next : Ledger} {policy : Policy} {env : Env} {amount : UInt64} {recipient : Pubkey}

theorem heldBy_of_tokenOwner {destination : Pubkey}
    (owner : (ledger destination).owner = Programs.token2022)
    (owned : (ledger destination).tokenOwner = some recipient) : HeldBy ledger destination recipient :=
  ⟨owner, (readPubkey_eq_ok _ _ _ _).mpr
    ⟨Account.long_of_tokenOwner owned, (Account.tokenOwner_eq_some _ _).mp owned⟩⟩

/-- Accounts at the addresses of a transfer of the sender are those of the pair. -/
theorem ownAccounts_pubkeys {source destination : Pubkey} {given : Execute}
    (same : given.pubkeys =
      (Hook.resolvedAccounts rt source pair.stedeMint destination pair.sender recipient).pubkeys)
    (writable : given.dailyLimitPda.isWritable = true ∧ given.cooloffPda.isWritable = true) :
    OwnAccounts rt pair recipient given := by
  have own := ownAccounts_resolved rt pair source destination recipient
  simp only [Execute.pubkeys, Execute.toList, List.map_cons, List.map_nil, List.cons.injEq] at same
  constructor
  case writable => exact writable
  all_goals simp only [same]
  exacts [own.owner, own.stedeMint, own.dailyLimit, own.blockList, own.cooloff, own.slowSendConfig,
    own.slowSendContact, own.timeWindow, own.friendGate, own.sysvar]

/-- What only concerns two token accounts does not concern the policy. -/
theorem Represents.keeps (represents : Represents rt pair recipients ledger policy)
    {transfer : Transfer} (keeps : transfer.Keeps ledger next)
    (source : (ledger transfer.source).owner = Programs.token2022)
    (destination : (ledger transfer.destination).owner = Programs.token2022) :
    Represents rt pair recipients next policy := by
  apply represents.congr
  intro slot member
  exact keeps.elsewhere _ (represents.apart member source).symm
    (represents.apart member destination).symm

/-- The rules that a policy with these contacts can answer for. -/
def asked (recipients : Finset Pubkey) (recipient : Pubkey) : List Rule :=
  Rule.all.filter fun rule => rule ≠ .newRecipientDelay ∨ recipient ∈ recipients

theorem asked_known (known : recipient ∈ recipients) : asked recipients recipient = Rule.all :=
  List.filter_eq_self.mpr fun _ _ => decide_eq_true (Or.inr known)

variable (free : rt.CollisionFree (RuleKey.derivation '' inPlay))
  (own : ∀ slot ∈ slots recipients, ⟨pair, slot⟩ ∈ inPlay)
include free own

/-- Rules that accept a transfer of the sender, the policy accepts it with. -/
theorem rules_pass {accounts : Execute} (mine : OwnAccounts rt pair recipient accounts)
    (rules : List Rule) (represents : Represents rt pair recipients ledger policy)
    (held : HeldBy ledger accounts.destinationToken.pubkey recipient)
    (success : Rule.checkAll rt env accounts amount rules ledger = .ok next) :
    ∃ changed, check (paymentOf env amount recipient) policy
        (rules.filter fun rule => rule ≠ .newRecipientDelay ∨ recipient ∈ recipients) = .ok changed ∧
      Represents rt pair recipients next changed := by
  induction rules generalizing ledger policy with
  | nil =>
      rw [← Except.ok.inj success]
      exact ⟨policy, rfl, represents⟩
  | cons rule rest ih =>
      obtain ⟨middle, first, later⟩ := (bind_eq_ok _ _ _).mp success
      by_cases known : rule = .newRecipientDelay → recipient ∈ recipients
      · obtain ⟨changed, obeyed, after⟩ :=
          (rule_agrees free own mine rule known represents held).ok_of_ok first
        obtain ⟨last, rest_passes, done⟩ := ih after.1 after.2 later
        have counts : rule ≠ .newRecipientDelay ∨ recipient ∈ recipients :=
          Decidable.or_iff_not_imp_left.mpr fun delay => known (not_not.mp delay)
        refine ⟨last, ?_, done⟩
        rw [List.filter_cons_of_pos (by simpa using counts), check, obeyed]
        exact rest_passes
      · -- the waiting period of a recipient who is not asked about changes nothing
        obtain ⟨delay, unknown⟩ := Classical.not_imp.mp known
        have skipped : ¬ (rule ≠ .newRecipientDelay ∨ recipient ∈ recipients) :=
          not_or.mpr ⟨not_not.mpr delay, unknown⟩
        rw [delay] at first
        obtain ⟨_, _, same⟩ := (bind_eq_ok _ _ _).mp first
        rw [← Except.ok.inj same] at later
        rw [List.filter_cons_of_neg (by simpa using skipped)]
        exact ih represents held later

/-- The recording rules of another pair leave the policy alone. -/
theorem handler_foreign {accounts : Execute} {other : SenderMint} (foreign : other ≠ pair)
    (inside : ∀ slot ∈ [RuleSlot.dailyLimit, .cooloff], ⟨other, slot⟩ ∈ inPlay)
    (daily : accounts.dailyLimitPda.pubkey = RuleKey.address rt ⟨other, .dailyLimit⟩)
    (cool : accounts.cooloffPda.pubkey = RuleKey.address rt ⟨other, .cooloff⟩)
    (represents : Represents rt pair recipients ledger policy)
    (success : Hook.executeHandler rt env ledger accounts amount = .ok next) :
    Represents rt pair recipients next policy := by
  have apart {slot slot' : RuleSlot} (member : ⟨other, slot⟩ ∈ inPlay)
      (mine : slot' ∈ slots recipients) :
      RuleKey.address rt ⟨other, slot⟩ ≠ RuleKey.address rt ⟨pair, slot'⟩ := by
    intro equal
    have keys := RuleKey.address_injOn free member (own slot' mine) equal
    exact foreign (congrArg RuleKey.pair keys)
  simp only [Hook.executeHandler, bind_eq_ok, pure, Except.pure, Except.ok.injEq] at success
  obtain ⟨spent, charged, _, _, _, _, rested, paused, _, _, _, _, _, _, same⟩ := success
  rw [← same]
  have first : Represents rt pair recipients spent policy := by
    apply checkDailyLimit_foreign represents _ charged
    rw [daily]
    exact apart (inside _ List.mem_cons_self) (mem_slots (by simp))
  apply checkCooloff_foreign first _ paused
  rw [cool]
  exact apart (inside _ (List.mem_cons_of_mem _ List.mem_cons_self)) (mem_slots (by simp))

end Calls

/-- A transfer that the sender signs, to another account. -/
def Outgoing (pair : SenderMint) (transfer : Transfer) : Prop :=
  transfer.authority.pubkey = pair.sender ∧ transfer.stedeMint = pair.stedeMint ∧
    transfer.source ≠ transfer.destination

instance (pair : SenderMint) (transfer : Transfer) : Decidable (Outgoing pair transfer) :=
  inferInstanceAs (Decidable (_ ∧ _ ∧ _))

instance (rt : Runtime) (transfer : Transfer) : Decidable (Hook.WritableApart rt transfer) :=
  inferInstanceAs (Decidable (∀ slot ∈ [RuleSlot.dailyLimit, RuleSlot.cooloff], _))

section Transfers

variable {rt : Runtime} (token : Token2022 rt) (pair : SenderMint) (recipients : Finset Pubkey)

/-- Token-2022 goes along with the transfer, and all that a client supplies for the hook
is there. -/
def Prepared (chain : Chain) (transfer : Transfer) (recipient : Pubkey) : Prop :=
  (token.move chain.1 transfer).toOption.isSome ∧
    (chain.2 (Hook.extraAccountMetaListPda rt transfer.stedeMint).1).isSome ∧
    transfer.supplied = suppliedFor rt transfer.stedeMint
      (callFor rt transfer transfer.authority.pubkey recipient) ∧
    Hook.WritableApart rt transfer ∧
    transfer.stedeMint ≠ transfer.source ∧ transfer.stedeMint ≠ transfer.destination

instance (chain : Chain) (transfer : Transfer) (recipient : Pubkey) :
    Decidable (Prepared token chain transfer recipient) :=
  inferInstanceAs (Decidable (_ ∧ _ ∧ _ ∧ _ ∧ _ ∧ _))

def settles (env : Env) (chain : Chain) (transfer : Transfer) : Bool :=
  (Hook.transferChecked token env chain.1 chain.2 transfer).toOption.isSome

/-- A transfer of the sender is seen as a check of the rules if it settles, or if the
rules are all that can be against it. -/
def observeTransfer (env : Env) (chain : Chain) (transfer : Transfer) : Option Action := do
  let recipient ← (chain.1 transfer.destination).tokenOwner
  if Outgoing pair transfer ∧ (settles token env chain transfer ∨
      recipient ∈ recipients ∧ Prepared token chain transfer recipient) then
    some (.check (asked recipients recipient) (paymentOf env transfer.amount recipient))
  else none

/-- What of the events on the chain the policy is about. -/
def observeChain (chain : Chain) : Hook.Event → Option Action
  | .transfer env transfer => observeTransfer token pair recipients env chain transfer
  | .process env instruction => Event.observe rt pair recipients chain.1 (.instruction env instruction)
  | .initializeExtraAccountMetaList _ | .elsewhere _ _ => none

/-- The accounts of the pair hold the policy, and the lists are the hook's. -/
def Governs (rt : Runtime) (chain : Chain) (policy : Policy) : Prop :=
  Represents rt pair recipients chain.1 policy ∧ ListsWritten chain.2

/-- What an event of the chain may touch. -/
structure WithinChain (rt : Runtime) (inPlay : Set RuleKey) (event : Hook.Event) : Prop where
  instruction : ∀ env call, event = .process env call →
    (Event.instruction env call).Within rt pair recipients inPlay
  elsewhere : ∀ key account, event = .elsewhere key account →
    (Event.elsewhere key account).Within rt pair recipients inPlay
  authority : ∀ env transfer, event = .transfer env transfer →
    ∀ slot ∈ [RuleSlot.dailyLimit, .cooloff],
      ⟨⟨transfer.authority.pubkey, transfer.stedeMint⟩, slot⟩ ∈ inPlay
  list : ∀ accounts, event = .initializeExtraAccountMetaList accounts → ∀ slot ∈ slots recipients,
    accounts.extraAccountMetaList ≠ RuleKey.address rt ⟨pair, slot⟩

variable {rt : Runtime} {inPlay : Set RuleKey} {pair recipients}

theorem WithinChain.of_process {env : Env} {call : Hook.Instruction}
    (derived : ∀ key ∈ (Event.instruction env call).derives, key ∈ inPlay) :
    WithinChain pair recipients rt inPlay (.process env call) where
  instruction := by
    rintro _ _ ⟨⟩
    exact ⟨derived, nofun⟩
  elsewhere := nofun
  authority := nofun
  list := nofun

theorem WithinChain.of_transfer {env : Env} {transfer : Transfer}
    (authority : ∀ slot ∈ [RuleSlot.dailyLimit, .cooloff],
      ⟨⟨transfer.authority.pubkey, transfer.stedeMint⟩, slot⟩ ∈ inPlay) :
    WithinChain pair recipients rt inPlay (.transfer env transfer) where
  instruction := nofun
  elsewhere := nofun
  authority := by
    rintro _ _ ⟨⟩
    exact authority
  list := nofun

theorem WithinChain.of_elsewhere {key : Pubkey} {account : Account}
    (outside : ∀ slot ∈ slots recipients, key ≠ RuleKey.address rt ⟨pair, slot⟩) :
    WithinChain pair recipients rt inPlay (.elsewhere key account) where
  instruction := nofun
  elsewhere := by
    rintro _ _ ⟨⟩
    exact ⟨nofun, by rintro _ _ ⟨⟩; exact outside⟩
  authority := nofun
  list := nofun

end Transfers

section Simulation

variable {rt : Runtime} {token : Token2022 rt} {pair : SenderMint} {recipients : Finset Pubkey}
  {inPlay : Set RuleKey} {chain next : Chain} {ledger called : Ledger} {policy : Policy} {env : Env}
  {transfer : Transfer} {recipient : Pubkey}

/-- With all that is needed supplied, Token-2022 calls the hook with the accounts of
the transfer. -/
theorem transferChecked_prepared (written : ListsWritten chain.2)
    (free : rt.CollisionFree
      {key | key ∈ Hook.ruleKeys transfer.authority.pubkey transfer.stedeMint recipient})
    (apart : transfer.source ≠ transfer.destination)
    (prepared : Prepared token chain transfer recipient)
    (owned : (chain.1 transfer.destination).tokenOwner = some recipient) :
    ∃ moved, token.move chain.1 transfer = .ok moved ∧
      Hook.transferChecked token env chain.1 chain.2 transfer =
        (Hook.execute rt env moved
          (callFor rt transfer transfer.authority.pubkey recipient).toList transfer.amount).map
            fun called => token.settle called transfer := by
  obtain ⟨moves, listed, supplied, writable, _⟩ := prepared
  cases moved : token.move chain.1 transfer with
  | error reason =>
      rw [moved] at moves
      cases moves
  | ok after =>
      have owned' : (after transfer.destination).tokenOwner = some recipient :=
        (Account.tokenOwner_congr ((token.move_keeps _ _ _ moved).parties _)).trans owned
      have accounts := Hook.executeAccounts_call written listed supplied writable
        (Hook.ruleSlots_nodup free) owned'
      have hook : Programs.stedeHook ∈ transfer.supplied.map AccountMeta.pubkey := by
        simp [supplied, suppliedFor]
      have invoked : Hook.invokeExecute rt env after chain.2 transfer = Hook.execute rt env after
          (callFor rt transfer transfer.authority.pubkey recipient).toList transfer.amount := by
        rw [Hook.invokeExecute, accounts, ok_bind, require_of_true hook, ok_bind,
          require_of_true (Hook.permits_call supplied), ok_bind, Hook.fallback_execute]
      refine ⟨after, rfl, ?_⟩
      rw [Hook.transferChecked, moved, ok_bind, if_neg apart, invoked]
      cases Hook.execute rt env after _ transfer.amount <;> rfl

theorem transferKeys_known (own : ∀ slot ∈ slots recipients, ⟨pair, slot⟩ ∈ inPlay)
    (known : recipient ∈ recipients) :
    Hook.transferKeys pair.sender pair.sender recipient pair.stedeMint ⊆ inPlay := by
  rintro ⟨⟨sender, stedeMint⟩, slot⟩ ⟨party, mint, contact⟩
  have sender_eq : sender = pair.sender := party.elim id id
  simp only at mint
  rw [sender_eq, mint]
  apply own
  intro other same
  rw [contact other same]
  exact known

section Moving

variable {moved : Ledger} (paid : token.move ledger transfer = .ok moved)
include paid

theorem represents_moved (represents : Represents rt pair recipients ledger policy) :
    Represents rt pair recipients moved policy := by
  obtain ⟨valid, _⟩ := token.move_valid _ _ _ paid
  exact represents.keeps (token.move_keeps _ _ _ paid) valid.source.1 valid.destination.1

theorem held_moved (owned : (ledger transfer.destination).tokenOwner = some recipient) :
    HeldBy moved transfer.destination recipient := by
  have keeps := token.move_keeps _ _ _ paid
  obtain ⟨valid, _⟩ := token.move_valid _ _ _ paid
  apply heldBy_of_tokenOwner
  · exact (keeps.program _).trans valid.destination.1
  · exact (Account.tokenOwner_congr (keeps.parties _)).trans owned

theorem owner_moved : ∃ recipient, (moved transfer.destination).tokenOwner = some recipient := by
  have long := (token.move_valid _ _ _ paid).1.destination.2.1
  have parties := (token.move_keeps _ _ _ paid).parties transfer.destination
  have width : (((ledger transfer.destination).data.drop 32).take 32).length = 32 := by
    rw [List.length_take, List.length_drop]
    omega
  rw [Account.tokenOwner_congr parties, Account.tokenOwner, Pubkey.tryFrom, dif_pos width]
  exact ⟨_, rfl⟩

/-- What Token-2022 does after the hook call. -/
theorem represents_settled {changed : Policy} {accounts : List AccountMeta}
    (success : Hook.execute rt env moved accounts transfer.amount = .ok called)
    (after : Represents rt pair recipients called changed) :
    Represents rt pair recipients (token.settle called transfer) changed := by
  have keeps := token.move_keeps _ _ _ paid
  obtain ⟨valid, _⟩ := token.move_valid _ _ _ paid
  have still {key : Pubkey} (holds : (ledger key).owner = Programs.token2022) :
      (called key).owner = Programs.token2022 := by
    have held : (moved key).owner = Programs.token2022 := (keeps.program key).trans holds
    rw [Hook.execute_spares_tokens held success]
    exact held
  exact after.keeps (token.settle_keeps called transfer) (still valid.source.1)
    (still valid.destination.1)

end Moving

variable (free : rt.CollisionFree (RuleKey.derivation '' inPlay))
  (own : ∀ slot ∈ slots recipients, ⟨pair, slot⟩ ∈ inPlay)
include free own

/-- A prepared transfer is refused for what the policy refuses it, and nothing else. -/
theorem prepared_agrees (governs : Governs pair recipients rt chain policy)
    (outgoing : Outgoing pair transfer) (known : recipient ∈ recipients)
    (prepared : Prepared token chain transfer recipient)
    (owned : (chain.1 transfer.destination).tokenOwner = some recipient) :
    Agrees (Represents rt pair recipients)
      (Hook.transferChecked token env chain.1 chain.2 transfer)
      (check (paymentOf env transfer.amount recipient) policy Rule.all) := by
  obtain ⟨sender, mint, apart⟩ := outgoing
  have keys : rt.CollisionFree
      {key | key ∈ Hook.ruleKeys transfer.authority.pubkey transfer.stedeMint recipient} := by
    refine (free.mono (Set.image_mono (transferKeys_known own known))).mono ?_
    rw [sender, mint]
    exact Hook.ruleKeys_subset _ _
  obtain ⟨moved, paid, settled⟩ := transferChecked_prepared governs.2 keys apart prepared owned
  obtain ⟨valid, _⟩ := token.move_valid _ _ _ paid
  have loads : Hook.loadMint rt (moved pair.stedeMint) = .ok () := by
    have kept : moved transfer.stedeMint = chain.1 transfer.stedeMint :=
      (token.move_keeps _ _ _ paid).elsewhere _ prepared.2.2.2.2.1 prepared.2.2.2.2.2
    rw [← mint, kept]
    exact (Hook.loadMint_eq_ok rt _ ()).mpr ⟨Or.inr valid.mint.1, valid.mint.2⟩
  rw [settled, sender, callFor, mint]
  refine Refinement.Agree.map_left (execute_agrees free own known
    (represents_moved paid governs.1) loads (held_moved paid owned)) ?_
  intro called changed success after
  exact represents_settled paid success after

/-- A transfer of the sender that settles, the policy accepts and records. -/
theorem settled_agrees (governs : Governs pair recipients rt chain policy)
    (outgoing : Outgoing pair transfer)
    (owned : (chain.1 transfer.destination).tokenOwner = some recipient) {after : Ledger}
    (success : Hook.transferChecked token env chain.1 chain.2 transfer = .ok after) :
    ∃ changed, check (paymentOf env transfer.amount recipient) policy (asked recipients recipient) =
        .ok changed ∧
      Represents rt pair recipients after changed := by
  obtain ⟨sender, mint, apart⟩ := outgoing
  obtain ⟨moved, paid, rest⟩ := Hook.transferChecked_eq_ok.mp success
  rcases rest with ⟨self, _⟩ | ⟨_, called, invoked, same⟩
  · exact absurd self apart
  · obtain ⟨accounts, listed, _, _, executed⟩ := Hook.invokeExecute_eq_ok.mp invoked
    have held := held_moved paid owned
    have owned' : (moved transfer.destination).tokenOwner = some recipient :=
      (Account.tokenOwner_congr ((token.move_keeps _ _ _ paid).parties _)).trans owned
    rcases Hook.executeAccounts_pubkeys governs.2 owned' listed with short | pubkeys
    · exact absurd executed (Hook.execute_short short transfer.amount)
    · obtain ⟨given, places, daily, cool, handled⟩ := Hook.handler_of_execute pubkeys executed
      have destination : given.destinationToken.pubkey = transfer.destination :=
        Hook.Rule.destination_pubkeys places
      rw [callFor, sender, mint] at places
      rw [Hook.executeHandler_eq_checkAll] at handled
      obtain ⟨changed, passes, represented⟩ := rules_pass free own
        (ownAccounts_pubkeys places ⟨daily, cool⟩) Rule.all (represents_moved paid governs.1)
        (by rw [destination]; exact held) handled
      refine ⟨changed, passes, ?_⟩
      rw [same]
      exact represents_settled paid executed represented

/-- No other transfer has to do with the policy. -/
theorem other_transfer (governs : Governs pair recipients rt chain policy)
    (inside : ∀ slot ∈ [RuleSlot.dailyLimit, .cooloff],
      ⟨⟨transfer.authority.pubkey, transfer.stedeMint⟩, slot⟩ ∈ inPlay)
    (other : ¬ Outgoing pair transfer) {after : Ledger}
    (success : Hook.transferChecked token env chain.1 chain.2 transfer = .ok after) :
    Represents rt pair recipients after policy := by
  obtain ⟨moved, paid, rest⟩ := Hook.transferChecked_eq_ok.mp success
  have represented := represents_moved paid governs.1
  rcases rest with ⟨_, same⟩ | ⟨apart, called, invoked, same⟩
  · rw [same]
    exact represented
  · have foreign : (⟨transfer.authority.pubkey, transfer.stedeMint⟩ : SenderMint) ≠ pair := by
      intro equal
      exact other ⟨congrArg SenderMint.sender equal, congrArg SenderMint.stedeMint equal, apart⟩
    obtain ⟨accounts, listed, _, _, executed⟩ := Hook.invokeExecute_eq_ok.mp invoked
    obtain ⟨recipient, owned⟩ := owner_moved paid
    rcases Hook.executeAccounts_pubkeys governs.2 owned listed with short | pubkeys
    · exact absurd executed (Hook.execute_short short transfer.amount)
    · obtain ⟨given, places, _, _, handled⟩ := Hook.handler_of_execute pubkeys executed
      have config (rule : Rule) : (rule.config given).pubkey =
          RuleKey.address rt ⟨⟨transfer.authority.pubkey, transfer.stedeMint⟩, rule.slot⟩ := by
        rw [Hook.Rule.config_pubkeys places]
        exact Hook.Rule.config_resolved _ _ _ _ _ _ rule
      rw [same]
      apply represents_settled paid executed
      exact handler_foreign free own foreign inside (config .dailyLimit) (config .cooloff)
        represented handled

omit free own in
theorem observeTransfer_eq_some {action : Action}
    (observed : observeTransfer token pair recipients env chain transfer = some action) :
    ∃ recipient, (chain.1 transfer.destination).tokenOwner = some recipient ∧ Outgoing pair transfer ∧
      (settles token env chain transfer ∨
        recipient ∈ recipients ∧ Prepared token chain transfer recipient) ∧
      action = .check (asked recipients recipient) (paymentOf env transfer.amount recipient) := by
  obtain ⟨recipient, owned, shown⟩ := Option.bind_eq_some_iff.mp observed
  split at shown
  · rename_i holds
    exact ⟨recipient, owned, holds.1, holds.2, (Option.some.inj shown).symm⟩
  · cases shown

omit free own in
theorem not_outgoing_of_unseen {after : Ledger}
    (hidden : observeTransfer token pair recipients env chain transfer = none)
    (success : Hook.transferChecked token env chain.1 chain.2 transfer = .ok after) :
    ¬ Outgoing pair transfer := by
  intro outgoing
  obtain ⟨moved, paid, _⟩ := Hook.transferChecked_eq_ok.mp success
  obtain ⟨recipient, owned⟩ := owner_moved paid
  rw [Account.tokenOwner_congr ((token.move_keeps _ _ _ paid).parties _)] at owned
  have settled : settles token env chain transfer = true := by
    rw [settles, success]
    rfl
  have holds : Outgoing pair transfer ∧ (settles token env chain transfer = true ∨
      recipient ∈ recipients ∧ Prepared token chain transfer recipient) := ⟨outgoing, Or.inl settled⟩
  simp only [observeTransfer, owned, Option.bind_eq_bind, Option.bind_some, if_pos holds,
    reduceCtorEq] at hidden

theorem transfer_agrees (governs : Governs pair recipients rt chain policy) {action : Action}
    (observed : observeTransfer token pair recipients env chain transfer = some action) :
    Agrees (Represents rt pair recipients)
      (Hook.transferChecked token env chain.1 chain.2 transfer) (step pair.sender policy action) := by
  obtain ⟨recipient, owned, outgoing, shown, same⟩ := observeTransfer_eq_some observed
  rw [same]
  rcases shown with settled | ⟨known, prepared⟩
  · cases outcome : Hook.transferChecked token env chain.1 chain.2 transfer with
    | ok after =>
        obtain ⟨changed, passes, represented⟩ := settled_agrees free own governs outgoing owned outcome
        rw [step, passes]
        exact .ok represented
    | error reason =>
        rw [settles, outcome] at settled
        cases settled
  · rw [asked_known known]
    exact prepared_agrees free own governs outgoing known prepared owned

omit free own in
/-- An instruction on the accounts leaves the lists as they are. -/
theorem governs_of_agrees {lists : MetaLists} (written : ListsWritten lists)
    {outcome : Except Error Ledger} {verdict : Except Refusal Policy}
    (agrees : Agrees (Represents rt pair recipients) outcome verdict) :
    Agrees (Governs pair recipients rt) (outcome >>= fun ledger => pure (ledger, lists)) verdict := by
  cases agrees with
  | ok after => exact .ok ⟨after, written⟩
  | error same => exact .error same

variable (token) in
/-- Every event on the chain is an action of the policy, with its verdict, or leaves
the policy alone. -/
theorem chain_simulates {events : List Hook.Event}
    (within : ∀ event ∈ events, WithinChain pair recipients rt inPlay event) :
    Refinement.Simulates (Hook.happen token) (step pair.sender) (observeChain token pair recipients)
      Error.refusal (Governs pair recipients rt) events where
  seen chain policy event action member governs observed := by
    cases event with
    | transfer env transfer =>
        exact governs_of_agrees governs.2 (transfer_agrees free own governs observed)
    | process env instruction =>
        have mirrors := happen_mirrors free own governs.1 ((within _ member).instruction _ _ rfl)
        rw [show Event.observe rt pair recipients chain.1 (.instruction env instruction) =
          some action from observed] at mirrors
        exact governs_of_agrees governs.2 mirrors
    | initializeExtraAccountMetaList accounts => cases observed
    | elsewhere key account => cases observed
  unseen chain policy event next member governs hidden success := by
    cases event with
    | transfer env transfer =>
        obtain ⟨ledger, transferred, same⟩ := (bind_eq_ok _ _ _).mp success
        rw [← Except.ok.inj same]
        refine ⟨?_, governs.2⟩
        exact other_transfer free own governs ((within _ member).authority _ _ rfl)
          (not_outgoing_of_unseen hidden transferred) transferred
    | process env instruction =>
        obtain ⟨ledger, processed, same⟩ := (bind_eq_ok _ _ _).mp success
        rw [← Except.ok.inj same]
        have mirrors := happen_mirrors free own governs.1 ((within _ member).instruction _ _ rfl)
        rw [show Event.observe rt pair recipients chain.1 (.instruction env instruction) = none
          from hidden] at mirrors
        exact ⟨mirrors _ processed, governs.2⟩
    | initializeExtraAccountMetaList accounts =>
        refine ⟨?_, ListsWritten.initialize governs.2 success⟩
        obtain ⟨_, _, _, _, _, _, same⟩ :=
          (Hook.initializeExtraAccountMetaList_eq_ok _ _ _ _ _).mp success
        rw [congrArg Prod.fst same]
        apply governs.1.congr
        intro slot inside
        exact Ledger.write_of_ne ((within _ member).list _ rfl slot inside).symm
    | elsewhere key account =>
        rw [← Except.ok.inj success]
        refine ⟨?_, governs.2⟩
        have outside := ((within _ member).elsewhere _ _ rfl).outside key account rfl
        apply governs.1.congr
        intro slot inside
        exact Ledger.write_of_ne (outside slot inside).symm

end Simulation

/-- Over any run of transfers, instructions and writes elsewhere, from an unused start,
the accounts of a pair hold the policy that the observed actions make of the empty one.
Each transfer of the sender that settles is one of them and was accepted; each one that
a client prepared is accepted, or refused for the reason, that the policy says. -/
theorem transfers_refined (rt : Runtime) (token : Token2022 rt) (pair : SenderMint)
    (recipients : Finset Pubkey) (inPlay : Set RuleKey)
    (free : rt.CollisionFree (RuleKey.derivation '' inPlay))
    (own : ∀ slot ∈ slots recipients, ⟨pair, slot⟩ ∈ inPlay) (start : Chain)
    (written : ListsWritten start.2)
    (unused : ∀ slot ∈ slots recipients, (start.1 (RuleKey.address rt ⟨pair, slot⟩)).Unused)
    (events : List Hook.Event)
    (within : ∀ event ∈ events, WithinChain pair recipients rt inPlay event) :
    Represents rt pair recipients (Run.run (Hook.happen token) start events).1
      (Run.run (step pair.sender) empty (Refinement.observed (Hook.happen token)
        (observeChain token pair recipients) start events)) ∧
    Refinement.verdicts (Hook.happen token) (observeChain token pair recipients) Error.refusal start
        events =
      (Run.trace (step pair.sender) empty (Refinement.observed (Hook.happen token)
        (observeChain token pair recipients) start events)).map fun entry => entry.2.mapError some := by
  have simulated := (chain_simulates token free own within).run
    (And.intro (represents_empty unused) written)
  exact ⟨simulated.1.1, simulated.2⟩

/- A budget of 100, two transfers of 60 that wallet 1 signs, and one between them that
its delegate does. -/
section Sample

open Stede.Runtime (sampleKey)

def sampleChain : Chain :=
  ((Hook.sampleLedger.write (sampleKey 6) (Hook.sampleTokens (sampleKey 1) (sampleKey 3))).write
    (sampleKey 4) (Hook.sampleTokens (sampleKey 5) (sampleKey 3)), fun _ => Hook.extraAccounts.toOption)

def sampleChainEvents : List Hook.Event :=
  [.process Hook.sampleEnv (.setLimit (sampleSet .dailyLimit) 100), Hook.sampleEvent (sampleKey 1) 60,
    Hook.sampleEvent (sampleKey 3) 60, Hook.sampleEvent (sampleKey 1) 60]

def sampleChainKeys : List RuleKey :=
  [.dailyLimit, .cooloff].map (RuleKey.mk ⟨sampleKey 3, sampleKey 2⟩) ++ sampleKeys

theorem sample_chain_free :
    Runtime.CollisionFree .sample (RuleKey.derivation '' {key | key ∈ sampleChainKeys}) :=
  RuleKey.free_of_nodup (by decide +kernel)

theorem sample_chain_unused :
    ∀ key ∈ sampleKeys, (sampleChain.1 (key.address .sample)).Unused := by
  have unused : ∀ key ∈ sampleKeys, (sampleChain.1 (key.address .sample)).owner = Programs.system ∧
      (sampleChain.1 (key.address .sample)).data = [] := by
    decide +kernel
  exact unused

theorem sample_chain_within : ∀ event ∈ sampleChainEvents,
    WithinChain samplePair {sampleKey 5} .sample {key | key ∈ sampleChainKeys} event := by
  simp only [sampleChainEvents, Hook.sampleEvent, List.forall_mem_cons]
  exact ⟨.of_process (by decide), .of_transfer (by decide), .of_transfer (by decide),
    .of_transfer (by decide), nofun⟩

theorem transfers_refined_sample :
    Represents .sample samplePair {sampleKey 5}
        (Run.run (Hook.happen (.plain .sample)) sampleChain sampleChainEvents).1
        (Run.run (step samplePair.sender) empty (Refinement.observed (Hook.happen (.plain .sample))
          (observeChain (.plain .sample) samplePair {sampleKey 5}) sampleChain sampleChainEvents)) :=
  (transfers_refined .sample (.plain .sample) samplePair {sampleKey 5} {key | key ∈ sampleChainKeys}
    sample_chain_free (fun slot member => List.mem_append_right _ (sample_own slot member)) sampleChain
    Hook.sample_written (fun slot member => sample_chain_unused _ (sample_own slot member))
    sampleChainEvents sample_chain_within).1

/-- The delegate's transfer is none of the policy's business; the last one is refused. -/
example : Refinement.verdicts (Hook.happen (.plain .sample))
      (observeChain (.plain .sample) samplePair {sampleKey 5}) Error.refusal sampleChain
      sampleChainEvents =
    [.ok (), .ok (), .error (some .overBudget)] := by
  decide +kernel

end Sample

end Stede.Policy
