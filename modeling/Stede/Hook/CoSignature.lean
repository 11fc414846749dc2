import Stede.Hook.Isolation
import Stede.Lib.Run
import Stede.Rules.Layouts
import Stede.Rules.Recording

set_option autoImplicit false

/- Who has signed when the friend gate lets a transfer through. -/
namespace Stede.FriendGate

/-- The keys that the metas of one instruction mark as signers. -/
def signersOf (accounts : List AccountMeta) : List Pubkey :=
  (accounts.filter AccountMeta.isSigner).map AccountMeta.pubkey

/-- The signers of a transaction: the signer flags in the instructions sysvar are
the transaction's own. -/
def signers (env : Env) : Finset Pubkey := (env.instructions.flatMap signersOf).toFinset

/-- One of the instructions that the check looks at is signed by the friend. -/
def SignedUpToCurrent (env : Env) (friendWallet : Pubkey) : Prop :=
  ∃ index accounts, index ≤ env.currentIndex ∧ env.instructions[index]? = some accounts ∧
    friendWallet ∈ signersOf accounts

section Scan

variable {env : Env} {friendWallet : Pubkey}

theorem mem_signersOf {accounts : List AccountMeta} :
    friendWallet ∈ signersOf accounts ↔
      (accounts.any fun acc => acc.isSigner && acc.pubkey == friendWallet) = true := by
  simp only [signersOf, List.mem_map, List.mem_filter, List.any_eq_true, Bool.and_eq_true, beq_iff_eq]
  constructor
  · intro ⟨acc, ⟨member, signer⟩, same⟩
    exact ⟨acc, member, signer, same⟩
  · intro ⟨acc, member, signer, same⟩
    exact ⟨acc, ⟨member, signer⟩, same⟩

theorem mem_signers : friendWallet ∈ signers env ↔
    ∃ accounts ∈ env.instructions, friendWallet ∈ signersOf accounts := by
  simp only [signers, List.mem_toFinset, List.mem_flatMap]

/-- The scan stops at the current instruction. -/
theorem friendSigned_iff : friendSigned env friendWallet = true ↔
    SignedUpToCurrent env friendWallet := by
  simp only [friendSigned, List.any_eq_true, List.mem_range, loadInstructionAt]
  constructor
  · intro ⟨index, before, found⟩
    cases loaded : env.instructions[index]? with
    | none =>
        rw [loaded] at found
        exact nomatch found
    | some accounts =>
        rw [loaded] at found
        exact ⟨index, accounts, by omega, loaded, mem_signersOf.mpr found⟩
  · intro ⟨index, accounts, before, loaded, member⟩
    refine ⟨index, by omega, ?_⟩
    rw [loaded]
    exact mem_signersOf.mp member

theorem SignedUpToCurrent.signed (signed : SignedUpToCurrent env friendWallet) :
    friendWallet ∈ signers env := by
  have ⟨_, accounts, _, loaded, member⟩ := signed
  exact mem_signers.mpr ⟨accounts, List.mem_of_getElem? loaded, member⟩

end Scan

/-- The instructions that write a friend gate. -/
inductive Instruction
  | setFriendGate (accounts : SetConfig) (threshold : UInt64) (friendWallet : Pubkey)
  | disableFriendGate (accounts : DisableConfig)

def step (rt : Runtime) (ledger : Ledger) : Instruction → Except Error Ledger
  | .setFriendGate accounts threshold friendWallet =>
      setFriendGate rt ledger accounts threshold friendWallet
  | .disableFriendGate accounts => disableFriendGate rt ledger accounts

/-- The gates that the instructions of a run are made for. -/
def inPlay (instructions : List Instruction) : Set RuleKey :=
  {key | ∃ accounts threshold friendWallet,
    .setFriendGate accounts threshold friendWallet ∈ instructions ∧
      key = ⟨⟨accounts.sender.pubkey, accounts.stedeMint⟩, .friendGate⟩}

/-- The gate at an address of one of the pairs, once there, names a friend other
than its sender. -/
def Sound (rt : Runtime) (key : Pubkey) (pairs : Set RuleKey) (ledger : Ledger) : Prop :=
  (ledger key).Unused ∨ ∃ friendGate, kind.Live rt key friendGate (ledger key) ∧
    friendGate.friendWallet ≠ friendGate.sender ∧
    ⟨⟨friendGate.sender, friendGate.stedeMint⟩, .friendGate⟩ ∈ pairs

section Runs

variable {rt : Runtime} {key : Pubkey} {pairs : Set RuleKey} {ledger next : Ledger}

theorem Sound.setFriendGate (free : rt.CollisionFree (RuleKey.derivation '' pairs))
    (sound : Sound rt key pairs ledger) {accounts : SetConfig} {threshold : UInt64}
    {friendWallet : Pubkey}
    (member : ⟨⟨accounts.sender.pubkey, accounts.stedeMint⟩, .friendGate⟩ ∈ pairs)
    (success : FriendGate.setFriendGate rt ledger accounts threshold friendWallet = .ok next) :
    Sound rt key pairs next := by
  have claims := setFriendGateHandler_claims accounts.sender.pubkey accounts.stedeMint threshold
    friendWallet
  have ⟨_, derived, _, _, _, _, _, _, _, written⟩ := (kind.set_eq_ok _ _ _ _ _).mp success
  by_cases here : key = accounts.config
  · rw [here] at sound ⊢
    rcases sound with unused | ⟨friendGate, live, _, placed⟩
    · have ⟨new, handled, made⟩ := ConfigKind.set_live_of_unused accounts claims rfl unused success
      have ⟨_, _, other, same⟩ := (setFriendGateHandler_eq_ok _ _ _ _ _ _ _).mp handled
      have fresh : kind.zero.sender = Pubkey.default := rfl
      simp only [fresh, ↓reduceIte] at same
      refine Or.inr ⟨new, made, ?_, ?_⟩ <;> rw [same]
      · exact other
      · exact member
    · -- Two pairs at one address would let a stranger's friend be the stored sender.
      have ⟨new, handled, made⟩ := live.set_live accounts claims success
      have ⟨_, _, other, same⟩ := (setFriendGateHandler_eq_ok _ _ _ _ _ _ _).mp handled
      simp only [show ¬ friendGate.sender = .default from live.claimed, ↓reduceIte] at same
      have address : RuleKey.address rt ⟨⟨friendGate.sender, friendGate.stedeMint⟩, .friendGate⟩ =
          RuleKey.address rt ⟨⟨accounts.sender.pubkey, accounts.stedeMint⟩, .friendGate⟩ :=
        live.address.symm.trans derived
      have keys := RuleKey.address_injOn free placed member address
      have sender : friendGate.sender = accounts.sender.pubkey := congrArg (·.pair.sender) keys
      refine Or.inr ⟨new, made, ?_, ?_⟩ <;> rw [same]
      · rw [sender]
        exact other
      · exact placed
  · rw [Sound, written, Ledger.write_of_ne here]
    exact sound

theorem Sound.disableFriendGate (sound : Sound rt key pairs ledger) {accounts : DisableConfig}
    (success : FriendGate.disableFriendGate rt ledger accounts = .ok next) :
    Sound rt key pairs next := by
  have ⟨_, _, _, _, _, written⟩ := (kind.disable_eq_ok _ _ _ _).mp success
  by_cases here : key = accounts.config
  · rw [here]
    exact Or.inl (ConfigKind.disable_unused success)
  · rw [Sound, written, Ledger.write_of_ne here]
    exact sound

theorem sound_of_reached {start reached : Ledger} {instructions : List Instruction}
    (unused : (start key).Unused)
    (free : rt.CollisionFree (RuleKey.derivation '' inPlay instructions))
    (prefix_of : Run.Reached (step rt) start instructions reached) :
    Sound rt key (inPlay instructions) reached := by
  have begun : Sound rt key (inPlay instructions) start := Or.inl unused
  apply Run.reached_invariant begun _ prefix_of
  intro current instruction next member sound success
  cases instruction with
  | setFriendGate accounts threshold friendWallet =>
      exact sound.setFriendGate free ⟨accounts, threshold, friendWallet, member, rfl⟩ success
  | disableFriendGate accounts => exact sound.disableFriendGate success

end Runs

/-- The check of the gate at `key` lets an amount through: called directly, or by
the hook through either of its entries. -/
inductive Admits (rt : Runtime) (env : Env) (ledger : Ledger) (key : Pubkey) (amount : UInt64) : Prop
  | direct (friendGate instructionsSysvar : AccountMeta) (here : friendGate.pubkey = key)
      (passed : checkTransfer rt env ledger friendGate instructionsSysvar amount = .ok ())
  | execute (accounts : List AccountMeta) (next : Ledger)
      (here : accounts[17]?.map AccountMeta.pubkey = some key)
      (passed : Hook.execute rt env ledger accounts amount = .ok next)
  | fallback (accounts : List AccountMeta) (data : List UInt8) (next : Ledger)
      (here : accounts[17]?.map AccountMeta.pubkey = some key)
      (amount_read : readU64 data 8 = .ok amount)
      (passed : Hook.fallback rt env ledger accounts data = .ok next)

section Checks

variable {rt : Runtime} {env : Env} {ledger next : Ledger} {key : Pubkey} {amount : UInt64}
  {friendGate : FriendGate}

/-- The other rules write to their own accounts only. -/
theorem kept_by_dailyLimit (live : kind.Live rt key friendGate (ledger key)) {dailyLimit : AccountMeta}
    (passed : DailyLimit.checkTransfer rt env.clock ledger dailyLimit amount = .ok next) :
    next key = ledger key :=
  DailyLimit.checkTransfer_spares passed fun _ => live.spared (by decide +kernel)

theorem kept_by_cooloff (live : kind.Live rt key friendGate (ledger key)) {cooloff : AccountMeta}
    (passed : Cooloff.checkTransfer rt env.clock ledger cooloff amount = .ok next) :
    next key = ledger key :=
  Cooloff.checkTransfer_spares passed fun _ => live.spared (by decide +kernel)

/-- At or above the threshold a check passes exactly on the real sysvar and a
signature up to the current instruction. -/
theorem checkTransfer_large (live : kind.Live rt key friendGate (ledger key))
    (large : friendGate.threshold ≤ amount) {gate instructionsSysvar : AccountMeta}
    (here : gate.pubkey = key) :
    checkTransfer rt env ledger gate instructionsSysvar amount = .ok () ↔
      instructionsSysvar.pubkey = Programs.instructionsSysvar ∧
        SignedUpToCurrent env friendGate.friendWallet := by
  rw [checkTransfer, here, checkTransferHandler_live live, if_neg (UInt64.not_lt.mpr large)]
  simp only [bind_eq_ok, require_eq_ok, exists_const, friendSigned_iff]

theorem signed_of_execute (live : kind.Live rt key friendGate (ledger key))
    (large : friendGate.threshold ≤ amount) {accounts : List AccountMeta}
    (here : accounts[17]?.map AccountMeta.pubkey = some key)
    (passed : Hook.execute rt env ledger accounts amount = .ok next) :
    SignedUpToCurrent env friendGate.friendWallet := by
  obtain ⟨execute, parsed, handled⟩ := (bind_eq_ok _ _ _).mp passed
  rcases Hook.toList_or_short rt accounts with ⟨execute', rest, split⟩ | short
  · rw [split] at parsed here
    rw [Hook.tryAccounts_toList rt parsed] at handled
    have slot : execute'.friendGateConfigPda.pubkey = key := Option.some.inj here
    simp only [Hook.executeHandler, bind_eq_ok] at handled
    obtain ⟨spent, first, _, _, _, _, cooled, second, _, _, _, _, _, last, _⟩ := handled
    have kept : cooled key = ledger key := by
      have after_first := kept_by_dailyLimit live first
      have still : kind.Live rt key friendGate (spent key) := by
        rw [after_first]
        exact live
      rw [kept_by_cooloff still second, after_first]
    rw [← kept] at live
    exact ((checkTransfer_large live large slot).mp last).2
  · rw [short] at parsed
    cases parsed

theorem Admits.signed (admits : Admits rt env ledger key amount)
    (live : kind.Live rt key friendGate (ledger key)) (large : friendGate.threshold ≤ amount) :
    SignedUpToCurrent env friendGate.friendWallet := by
  cases admits with
  | direct gate instructionsSysvar here passed =>
      exact ((checkTransfer_large live large here).mp passed).2
  | execute accounts next here passed => exact signed_of_execute live large here passed
  | fallback accounts data next here amount_read passed =>
      simp only [Hook.fallback, bind_eq_ok, amount_read, Except.ok.injEq, exists_eq_left'] at passed
      obtain ⟨_, _, executed⟩ := passed
      exact signed_of_execute live large here executed

end Checks

/-- Soundness of the friend gate: whatever settings led to the stored gate, an
amount at or above its threshold passes only in a transaction that its friend
signed, who is not its sender. -/
theorem friend_gate_sound (rt : Runtime) (start : Ledger) (key : Pubkey) (unused : (start key).Unused)
    (instructions : List Instruction)
    (free : rt.CollisionFree (RuleKey.derivation '' inPlay instructions)) (reached : Ledger)
    (prefix_of : Run.Reached (step rt) start instructions reached) (friendGate : FriendGate)
    (stored : kind.load (reached key) = .ok friendGate) (env : Env) (amount : UInt64)
    (large : friendGate.threshold ≤ amount) (admits : Admits rt env reached key amount) :
    friendGate.friendWallet ∈ signers env ∧ friendGate.friendWallet ≠ friendGate.sender ∧
      (friendGate.sender ∈ signers env → 2 ≤ (signers env).card) := by
  rcases sound_of_reached unused free prefix_of with absent | ⟨friendGate', live, apart, _⟩
  · exact absurd ⟨friendGate, stored⟩ (ConfigKind.load_of_unused absent)
  · have same : friendGate' = friendGate := Except.ok.inj (live.load.symm.trans stored)
    rw [same] at live apart
    have signed := (admits.signed live large).signed
    refine ⟨signed, apart, fun own => ?_⟩
    have two := Finset.card_pair apart
    have both : ({friendGate.friendWallet, friendGate.sender} : Finset Pubkey) ⊆ signers env :=
      Finset.insert_subset signed (Finset.singleton_subset_iff.mpr own)
    have bound := Finset.card_le_card both
    omega

/- A gate set twice, and a transfer behind an instruction that the friend signs. -/
section Sample

open Stede.Runtime (sampleKey)

def sampleAccounts : SetConfig :=
  ⟨⟨sampleKey 1, true, true⟩, sampleKey 2, (kind.pda .sample (sampleKey 1) (sampleKey 2)).1⟩

def sampleSettings : List Instruction :=
  [.setFriendGate sampleAccounts 100 (sampleKey 9), .setFriendGate sampleAccounts 50 (sampleKey 8)]

def sampleGate : FriendGate :=
  ⟨sampleKey 1, sampleKey 2, 50, sampleKey 8, (kind.pda .sample (sampleKey 1) (sampleKey 2)).2⟩

/-- The metas of the friend's instruction and of the sender's transfer. -/
def sampleCosign : List AccountMeta := [⟨sampleKey 8, true, false⟩]
def sampleTransfer : List AccountMeta := [⟨sampleKey 1, true, true⟩, ⟨sampleKey 2, false, false⟩]

theorem friend_gate_sound_sample :
    sampleKey 8 ∈ signers ⟨⟨0, 0⟩, [sampleCosign, sampleTransfer], 1⟩ ∧ sampleKey 8 ≠ sampleKey 1 ∧
      (sampleKey 1 ∈ signers ⟨⟨0, 0⟩, [sampleCosign, sampleTransfer], 1⟩ →
        2 ≤ (signers ⟨⟨0, 0⟩, [sampleCosign, sampleTransfer], 1⟩).card) := by
  refine friend_gate_sound .sample (fun _ => .absent) sampleAccounts.config ⟨rfl, rfl⟩ sampleSettings
    ?_ _ ⟨sampleSettings, [], (List.append_nil _).symm, rfl⟩ sampleGate (by decide +kernel) _ 50
    (by decide) (.direct ⟨sampleAccounts.config, false, false⟩
      ⟨Programs.instructionsSysvar, false, false⟩ rfl (by decide +kernel))
  have single : inPlay sampleSettings ⊆ {⟨⟨sampleKey 1, sampleKey 2⟩, .friendGate⟩} := by
    intro key ⟨accounts, threshold, friendWallet, member, same⟩
    simp only [sampleSettings, List.mem_cons, Instruction.setFriendGate.injEq, List.not_mem_nil,
      or_false] at member
    rcases member with ⟨first, _⟩ | ⟨second, _⟩
    · rw [same, first]
      rfl
    · rw [same, second]
      rfl
  exact ((Set.subsingleton_singleton.anti single).image _).injOn _

end Sample

/-- The transaction in which the transfer has `before` ahead of it and `after` behind it. -/
def placedIn (clock : Clock) (transfer : List AccountMeta) (before after : List (List AccountMeta)) :
    Env := ⟨clock, before ++ transfer :: after, before.length⟩

section Order

variable {clock : Clock} {transfer : List AccountMeta} {before after others : List (List AccountMeta)}
  {friendWallet : Pubkey}

/-- What stands behind the transfer is never looked at. -/
theorem signed_placedIn : SignedUpToCurrent (placedIn clock transfer before after) friendWallet ↔
    friendWallet ∈ signersOf transfer ∨ ∃ accounts ∈ before, friendWallet ∈ signersOf accounts := by
  constructor
  · intro ⟨index, accounts, bound, loaded, member⟩
    have bound : index ≤ before.length := bound
    have loaded : (before ++ transfer :: after)[index]? = some accounts := loaded
    by_cases here : index = before.length
    · rw [here, List.getElem?_append_right le_rfl, Nat.sub_self] at loaded
      rw [Option.some.inj loaded]
      exact Or.inl member
    · have inside : index < before.length := by omega
      rw [List.getElem?_append_left inside] at loaded
      exact Or.inr ⟨accounts, List.mem_of_getElem? loaded, member⟩
  · rintro (own | ⟨accounts, member, signed⟩)
    · refine ⟨before.length, transfer, le_rfl, ?_, own⟩
      show (before ++ transfer :: after)[before.length]? = some transfer
      rw [List.getElem?_append_right le_rfl, Nat.sub_self]
      rfl
    · have ⟨index, inside, found⟩ := List.getElem_of_mem member
      refine ⟨index, accounts, Nat.le_of_lt inside, ?_, signed⟩
      show (before ++ transfer :: after)[index]? = some accounts
      rw [List.getElem?_append_left inside, List.getElem?_eq_getElem inside, found]

/-- The verdict on every order of the same instructions is one and the same exactly
when the friend signs the transfer itself, or none of the others. -/
theorem signed_order_iff :
    (∀ before after before' after', (before ++ after).Perm others → (before' ++ after').Perm others →
      (SignedUpToCurrent (placedIn clock transfer before after) friendWallet ↔
        SignedUpToCurrent (placedIn clock transfer before' after') friendWallet)) ↔
      friendWallet ∈ signersOf transfer ∨ ∀ accounts ∈ others, friendWallet ∉ signersOf accounts := by
  constructor
  · intro same
    by_contra neither
    rw [not_or] at neither
    have ⟨other, some_signs⟩ := neither
    apply some_signs
    intro accounts member signed
    have last_of_all : SignedUpToCurrent (placedIn clock transfer others []) friendWallet :=
      signed_placedIn.mpr (Or.inr ⟨accounts, member, signed⟩)
    have first_of_all := (same others [] [] others (by rw [List.append_nil]) (List.Perm.refl _)).mp
      last_of_all
    rcases signed_placedIn.mp first_of_all with own | ⟨_, nowhere, _⟩
    · exact other own
    · cases nowhere
  · intro condition before after before' after' order order'
    rcases condition with own | none_signs
    · exact iff_of_true (signed_placedIn.mpr (Or.inl own)) (signed_placedIn.mpr (Or.inl own))
    · have within {ahead behind : List (List AccountMeta)} (perm : (ahead ++ behind).Perm others) :
          ¬ ∃ accounts ∈ ahead, friendWallet ∈ signersOf accounts := by
        intro ⟨accounts, member, signed⟩
        exact none_signs accounts (perm.mem_iff.mp (List.mem_append_left behind member)) signed
      simp only [signed_placedIn, within order, within order']

end Order

/-- A friend's signature counts exactly where the transfer's instruction, or one
before it, carries it: so much for one transaction, and for all the orders that
the instructions of one can be put in. -/
theorem cosignature_iff (rt : Runtime) (ledger : Ledger) (key : Pubkey) (friendGate : FriendGate)
    (live : kind.Live rt key friendGate (ledger key)) (amount : UInt64)
    (large : friendGate.threshold ≤ amount) (gate instructionsSysvar : AccountMeta)
    (here : gate.pubkey = key) (sysvar : instructionsSysvar.pubkey = Programs.instructionsSysvar) :
    (∀ env, (friendGate.friendWallet ∈ signers env →
        checkTransfer rt env ledger gate instructionsSysvar amount = .ok ()) ↔
      friendGate.friendWallet ∉ signers env ∨ SignedUpToCurrent env friendGate.friendWallet) ∧
    ∀ clock transfer others,
      (∀ before after before' after', (before ++ after).Perm others → (before' ++ after').Perm others →
        checkTransfer rt (placedIn clock transfer before after) ledger gate instructionsSysvar amount =
          checkTransfer rt (placedIn clock transfer before' after') ledger gate instructionsSysvar
            amount) ↔
      friendGate.friendWallet ∈ signersOf transfer ∨
        ∀ accounts ∈ others, friendGate.friendWallet ∉ signersOf accounts := by
  have verdict (env : Env) : checkTransfer rt env ledger gate instructionsSysvar amount =
      require (friendSigned env friendGate.friendWallet) (.friendGate .friendSignatureRequired) := by
    rw [checkTransfer, here, checkTransferHandler_live live, if_neg (UInt64.not_lt.mpr large),
      require_of_true sysvar, ok_bind]
  have passes (env : Env) : checkTransfer rt env ledger gate instructionsSysvar amount = .ok () ↔
      SignedUpToCurrent env friendGate.friendWallet := by
    rw [verdict, require_eq_ok, friendSigned_iff]
  constructor
  · intro env
    rw [passes, imp_iff_not_or]
  · intro clock transfer others
    rw [← @signed_order_iff clock]
    have same (env env' : Env) : checkTransfer rt env ledger gate instructionsSysvar amount =
        checkTransfer rt env' ledger gate instructionsSysvar amount ↔
          (SignedUpToCurrent env friendGate.friendWallet ↔
            SignedUpToCurrent env' friendGate.friendWallet) := by
      rw [verdict, verdict, ← friendSigned_iff, ← friendSigned_iff]
      cases friendSigned env friendGate.friendWallet <;>
        cases friendSigned env' friendGate.friendWallet <;>
        simp [require]
    simp only [same]

/- The sample gate, with the friend's instruction ahead of the transfer or behind it. -/
section Sample

open Stede.Runtime (sampleKey)

def sampleLedger : Ledger :=
  Ledger.write (fun _ => .absent) sampleAccounts.config (kind.created .sample sampleGate)

def sampleCheck (env : Env) : Except Error Unit :=
  checkTransfer .sample env sampleLedger ⟨sampleAccounts.config, false, false⟩
    ⟨Programs.instructionsSysvar, false, false⟩ 50

theorem cosignature_iff_sample :
    (sampleKey 8 ∈ signers (placedIn ⟨0, 0⟩ sampleTransfer [sampleCosign] []) →
        sampleCheck (placedIn ⟨0, 0⟩ sampleTransfer [sampleCosign] []) = .ok ()) ↔
      sampleKey 8 ∉ signers (placedIn ⟨0, 0⟩ sampleTransfer [sampleCosign] []) ∨
        SignedUpToCurrent (placedIn ⟨0, 0⟩ sampleTransfer [sampleCosign] []) (sampleKey 8) :=
  (cosignature_iff .sample sampleLedger sampleAccounts.config sampleGate
    ⟨by decide +kernel, by decide +kernel, rfl, by decide⟩ 50 (by decide) _ _ rfl rfl).1 _

/-- The friend signs the instruction behind the transfer, and the check refuses. -/
theorem cosignature_behind_refused :
    sampleKey 8 ∈ signers (placedIn ⟨0, 0⟩ sampleTransfer [] [sampleCosign]) ∧
      sampleCheck (placedIn ⟨0, 0⟩ sampleTransfer [] [sampleCosign]) =
        .error (.friendGate .friendSignatureRequired) ∧
      sampleCheck (placedIn ⟨0, 0⟩ sampleTransfer [sampleCosign] []) = .ok () := by
  decide +kernel

end Sample

end Stede.FriendGate
