import Mathlib
import Stede.HandleRegistry.Registry
import Stede.Lib.Inverse
import Stede.Lib.Run

set_option autoImplicit false

/- The two-way invariant between names and wallets. -/
namespace Stede.HandleRegistry

open Inverse

def recordedOwner : Option Content → Option Pubkey
  | some (.handle handle) => some handle.owner
  | _ => none

def recordedHandle : Option Content → Option String
  | some (.reverse reverse) => some reverse.handle
  | _ => none

/-- The owner that the Handle account of a name records. -/
def ownerOf (rt : Runtime) (state : State) (name : String) : Option Pubkey :=
  recordedOwner (state.accounts (Handle.pda rt name).1)

/-- The name that the Reverse account of a wallet records. -/
def handleOf (rt : Runtime) (state : State) (wallet : Pubkey) : Option String :=
  recordedHandle (state.accounts (Reverse.pda rt wallet).1)

theorem ownerOf_eq_some (rt : Runtime) (state : State) (name : String) (wallet : Pubkey) :
    ownerOf rt state name = some wallet ↔
      ∃ handle, state.accounts (Handle.pda rt name).1 = some (.handle handle) ∧
        handle.owner = wallet := by
  unfold ownerOf recordedOwner
  split <;> simp_all

theorem handleOf_eq_some (rt : Runtime) (state : State) (wallet : Pubkey) (name : String) :
    handleOf rt state wallet = some name ↔
      ∃ reverse, state.accounts (Reverse.pda rt wallet).1 = some (.reverse reverse) ∧
        reverse.handle = name := by
  unfold handleOf recordedHandle
  split <;> simp_all

/-- The seed strings of the registry for the names and wallets in play. -/
def registryKeys (names : Set String) (wallets : Set Pubkey) : Set (List UInt8 × Pubkey) :=
  {key | (∃ name ∈ names, key = ([Handle.SEED_PREFIX, asBytes name].flatten,
      Programs.stedeHandleRegistry)) ∨
    ∃ wallet ∈ wallets, key = ([Reverse.SEED_PREFIX, wallet.bytes].flatten,
      Programs.stedeHandleRegistry)}

section Addresses

variable {rt : Runtime} {names : Set String} {wallets : Set Pubkey}
  (free : rt.CollisionFree (registryKeys names wallets))
include free

theorem handle_pda_inj {first second : String} (inFirst : first ∈ names) (inSecond : second ∈ names)
    (same : (Handle.pda rt first).1 = (Handle.pda rt second).1) : first = second := by
  have seeds := free (Or.inl ⟨first, inFirst, rfl⟩) (Or.inl ⟨second, inSecond, rfl⟩) same
  have bytes := List.append_cancel_left (Prod.mk.inj seeds).1
  simp only [List.flatten_cons, List.flatten_nil, List.append_nil] at bytes
  exact asBytes_injective bytes

theorem reverse_pda_inj {first second : Pubkey} (inFirst : first ∈ wallets)
    (inSecond : second ∈ wallets) (same : (Reverse.pda rt first).1 = (Reverse.pda rt second).1) :
    first = second := by
  have seeds := free (Or.inr ⟨first, inFirst, rfl⟩) (Or.inr ⟨second, inSecond, rfl⟩) same
  have bytes := List.append_cancel_left (Prod.mk.inj seeds).1
  simp only [List.flatten_cons, List.flatten_nil, List.append_nil] at bytes
  exact Pubkey.bytes_injective bytes

/-- The two prefixes differ in their first byte. -/
theorem handle_pda_ne_reverse_pda {name : String} {wallet : Pubkey} (inNames : name ∈ names)
    (inWallets : wallet ∈ wallets) : (Handle.pda rt name).1 ≠ (Reverse.pda rt wallet).1 := by
  intro same
  have seeds := free (Or.inl ⟨name, inNames, rfl⟩) (Or.inr ⟨wallet, inWallets, rfl⟩) same
  have first := congrArg List.head? (Prod.mk.inj seeds).1
  have left : ([Handle.SEED_PREFIX, asBytes name].flatten).head? = some 104 := rfl
  have right : ([Reverse.SEED_PREFIX, wallet.bytes].flatten).head? = some 119 := rfl
  rw [left, right] at first
  exact absurd first (by decide)

end Addresses

/-- An account's own content says where it lies, and a Handle's name is valid. -/
def Placed (rt : Runtime) (names : Set String) (wallets : Set Pubkey) (key : Pubkey) :
    Content → Prop
  | .handle handle => handle.name ∈ names ∧ handle.owner ∈ wallets ∧
      key = (Handle.pda rt handle.name).1 ∧ validateHandle handle.name = .ok ()
  | .reverse _ => ∃ wallet ∈ wallets, key = (Reverse.pda rt wallet).1

/-- The invariant: every account is well placed, and the two directions agree. -/
structure WellFormed (rt : Runtime) (names : Set String) (wallets : Set Pubkey) (state : State) :
    Prop where
  placed : ∀ key content, state.accounts key = some content → Placed rt names wallets key content
  inverse : InverseOn names wallets (ownerOf rt state) (handleOf rt state)

/-- Looking up an account after one has been written. -/
theorem update_eq_some {accounts : Pubkey → Option Content} {key other : Pubkey}
    {content : Option Content} {held : Content} :
    Function.update accounts key content other = some held ↔
      (other = key ∧ content = some held) ∨ (other ≠ key ∧ accounts other = some held) := by
  by_cases same : other = key
  · simp [same]
  · simp [same]

theorem placed_update {rt : Runtime} {names : Set String} {wallets : Set Pubkey}
    {accounts : Pubkey → Option Content} {key : Pubkey} {content : Option Content}
    (placed : ∀ key content, accounts key = some content → Placed rt names wallets key content)
    (here : ∀ written, content = some written → Placed rt names wallets key written) :
    ∀ other found, Function.update accounts key content other = some found →
      Placed rt names wallets other found := by
  intro other found read
  rcases update_eq_some.mp read with ⟨same, written⟩ | ⟨_, before⟩
  · rw [same]
    exact here found written
  · exact placed other found before

/-- The instruction's name and wallets are in play. -/
def InPlay (names : Set String) (wallets : Set Pubkey) : Instruction → Prop
  | .claimHandle _ accounts name => name ∈ names ∧ accounts.claimer.pubkey ∈ wallets
  | .releaseHandle accounts => accounts.owner.pubkey ∈ wallets
  | .transferHandle accounts =>
      accounts.currentOwner.pubkey ∈ wallets ∧ accounts.newOwner.pubkey ∈ wallets
  | .gift _ _ _ => True

/-- What each instruction does to the program's accounts when it succeeds. -/
theorem claimHandle_accounts {rt : Runtime} {clock : Clock} {state next : State}
    {accounts : ClaimHandle} {name : String}
    (success : claimHandle rt clock state accounts name = .ok next) :
    accounts.claimer.pays rt = true ∧
    state.accounts (Handle.pda rt name).1 = none ∧
    state.accounts (Reverse.pda rt accounts.claimer.pubkey).1 = none ∧
    validateHandle name = .ok () ∧
    next.accounts = Function.update (Function.update state.accounts (Handle.pda rt name).1
        (some (.handle ⟨accounts.claimer.pubkey, name, clock.unixTimestamp, (Handle.pda rt name).2⟩)))
      (Reverse.pda rt accounts.claimer.pubkey).1
        (some (.reverse ⟨name, (Reverse.pda rt accounts.claimer.pubkey).2⟩)) := by
  simp only [claimHandle, bind_eq_ok, require_eq_ok, exists_const] at success
  obtain ⟨signed, _, here, first, opened, there, second, opened', writable, _, valid, moved⟩ :=
    success
  rw [here] at opened
  rw [there] at opened'
  have ⟨unused, after⟩ := State.init_accounts opened
  have ⟨unused', after'⟩ := State.init_accounts opened'
  have apart : (Reverse.pda rt accounts.claimer.pubkey).1 ≠ (Handle.pda rt name).1 := by
    intro same
    rw [after, same, Function.update_self] at unused'
    cases unused'
  rw [after, Function.update_of_ne apart] at unused'
  refine ⟨(AccountMeta.pays_iff _ _).mpr ⟨signed, writable⟩, unused, unused', valid, ?_⟩
  rw [State.transfer_accounts moved, here, there]
  simp only [State.store, after', after]
  rw [Function.update_comm apart, Function.update_idem, Function.update_idem]

theorem releaseHandle_accounts {rt : Runtime} {state next : State} {accounts : ReleaseHandle}
    (success : releaseHandle rt state accounts = .ok next) :
    accounts.owner.pays rt = true ∧ ∃ handle reverse,
      state.accounts (Handle.pda rt handle.name).1 = some (.handle handle) ∧
      handle.owner = accounts.owner.pubkey ∧
      state.accounts (Reverse.pda rt accounts.owner.pubkey).1 = some (.reverse reverse) ∧
      next.accounts = Function.update
        (Function.update state.accounts (Handle.pda rt handle.name).1 none)
          (Reverse.pda rt accounts.owner.pubkey).1 none := by
  simp only [releaseHandle, bind_eq_ok, require_eq_ok, exists_const, State.loadHandle_eq_ok,
    State.loadReverse_eq_ok, pure, Except.pure, Except.ok.injEq] at success
  obtain ⟨signed, handle, loaded, reverse, loaded', writable, derived, owned, derived', same⟩ :=
    success
  have here : accounts.handleAccount = (Handle.pda rt handle.name).1 := congrArg Prod.fst derived
  have there : accounts.reverseAccount = (Reverse.pda rt accounts.owner.pubkey).1 :=
    congrArg Prod.fst derived'
  rw [here] at loaded
  rw [there] at loaded'
  refine ⟨(AccountMeta.pays_iff _ _).mpr ⟨signed, writable⟩, handle, reverse, loaded, owned,
    loaded', ?_⟩
  rw [← same, here, there]
  rfl

theorem transferHandle_accounts {rt : Runtime} {state next : State} {accounts : TransferHandle}
    (success : transferHandle rt state accounts = .ok next) :
    (accounts.currentOwner.pays rt = true ∧ accounts.newOwner.signed rt = true) ∧
    ∃ handle reverse,
      state.accounts (Handle.pda rt handle.name).1 = some (.handle handle) ∧
      handle.owner = accounts.currentOwner.pubkey ∧
      state.accounts (Reverse.pda rt accounts.currentOwner.pubkey).1 = some (.reverse reverse) ∧
      state.accounts (Reverse.pda rt accounts.newOwner.pubkey).1 = none ∧
      next.accounts = Function.update (Function.update
          (Function.update state.accounts (Handle.pda rt handle.name).1
            (some (.handle { handle with owner := accounts.newOwner.pubkey })))
          (Reverse.pda rt accounts.newOwner.pubkey).1
            (some (.reverse ⟨handle.name, (Reverse.pda rt accounts.newOwner.pubkey).2⟩)))
          (Reverse.pda rt accounts.currentOwner.pubkey).1 none := by
  simp only [transferHandle, bind_eq_ok, require_eq_ok, exists_const, State.loadHandle_eq_ok,
    State.loadReverse_eq_ok, pure, Except.pure, Except.ok.injEq] at success
  obtain ⟨signed, signed', handle, loaded, reverse, loaded', fresh, middle, opened, writable, derived,
    owned, derived', same⟩ := success
  have here : accounts.handleAccount = (Handle.pda rt handle.name).1 := congrArg Prod.fst derived
  have there : accounts.oldReverse = (Reverse.pda rt accounts.currentOwner.pubkey).1 :=
    congrArg Prod.fst derived'
  rw [here] at loaded
  rw [there] at loaded'
  rw [fresh] at opened
  have ⟨unused, after⟩ := State.init_accounts opened
  have apart : (Reverse.pda rt accounts.newOwner.pubkey).1 ≠ (Handle.pda rt handle.name).1 :=
    ne_of_apply_ne state.accounts (by simp [unused, loaded])
  refine ⟨⟨(AccountMeta.pays_iff _ _).mpr ⟨signed, writable⟩, signed'⟩, handle, reverse, loaded,
    owned, loaded', unused, ?_⟩
  rw [← same, here, there, fresh]
  simp only [State.close, State.store, after]
  rw [Function.update_comm apart, Function.update_idem]

section Lookups

variable {rt : Runtime} {names : Set String} {wallets : Set Pubkey}
  (free : rt.CollisionFree (registryKeys names wallets)) {state next : State}
include free

/-- Writing the Handle account of a name shows in that name's owner only. -/
theorem ownerOf_write {name : String} (inNames : name ∈ names) (content : Option Content)
    (written : next.accounts = Function.update state.accounts (Handle.pda rt name).1 content) :
    Set.EqOn (ownerOf rt next) (Function.update (ownerOf rt state) name
      (recordedOwner content)) names := by
  intro other inNames'
  by_cases same : other = name
  · simp only [ownerOf, written, same, Function.update_self]
  · have apart : (Handle.pda rt other).1 ≠ (Handle.pda rt name).1 := fun clash =>
      same (handle_pda_inj free inNames' inNames clash)
    simp only [ownerOf, written, Function.update_of_ne apart, Function.update_of_ne same]

theorem handleOf_write {wallet : Pubkey} (inWallets : wallet ∈ wallets) (content : Option Content)
    (written : next.accounts = Function.update state.accounts (Reverse.pda rt wallet).1 content) :
    Set.EqOn (handleOf rt next) (Function.update (handleOf rt state) wallet
      (recordedHandle content)) wallets := by
  intro other inWallets'
  by_cases same : other = wallet
  · simp only [handleOf, written, same, Function.update_self]
  · have apart : (Reverse.pda rt other).1 ≠ (Reverse.pda rt wallet).1 := fun clash =>
      same (reverse_pda_inj free inWallets' inWallets clash)
    simp only [handleOf, written, Function.update_of_ne apart, Function.update_of_ne same]

/-- Writing a Reverse account shows in no name's owner, and the other way round. -/
theorem ownerOf_write_reverse {wallet : Pubkey} (inWallets : wallet ∈ wallets)
    (content : Option Content)
    (written : next.accounts = Function.update state.accounts (Reverse.pda rt wallet).1 content) :
    Set.EqOn (ownerOf rt next) (ownerOf rt state) names := by
  intro name inNames
  have apart := handle_pda_ne_reverse_pda free inNames inWallets
  simp only [ownerOf, written, Function.update_of_ne apart]

theorem handleOf_write_handle {name : String} (inNames : name ∈ names) (content : Option Content)
    (written : next.accounts = Function.update state.accounts (Handle.pda rt name).1 content) :
    Set.EqOn (handleOf rt next) (handleOf rt state) wallets := by
  intro wallet inWallets
  have apart := (handle_pda_ne_reverse_pda free inNames inWallets).symm
  simp only [handleOf, written, Function.update_of_ne apart]

/-- Writing the Handle account of a name and the Reverse account of a wallet. -/
theorem write_pair {name : String} {wallet : Pubkey} (inNames : name ∈ names)
    (inWallets : wallet ∈ wallets) (content content' : Option Content)
    (written : next.accounts = Function.update
      (Function.update state.accounts (Handle.pda rt name).1 content) (Reverse.pda rt wallet).1
        content') :
    Set.EqOn (ownerOf rt next) (Function.update (ownerOf rt state) name (recordedOwner content))
        names ∧
      Set.EqOn (handleOf rt next)
        (Function.update (handleOf rt state) wallet (recordedHandle content')) wallets := by
  let middle : State :=
    ⟨state.lamports, Function.update state.accounts (Handle.pda rt name).1 content⟩
  have last : next.accounts = Function.update middle.accounts (Reverse.pda rt wallet).1 content' :=
    written
  constructor
  · intro other inNames'
    rw [ownerOf_write_reverse free inWallets _ last inNames']
    exact ownerOf_write free inNames content rfl inNames'
  · intro other inWallets'
    rw [handleOf_write free inWallets _ last inWallets']
    by_cases same : other = wallet
    · rw [same, Function.update_self, Function.update_self]
    · rw [Function.update_of_ne same, Function.update_of_ne same]
      exact handleOf_write_handle free inNames content rfl inWallets'

/-- A claim links the name and the wallet. -/
theorem WellFormed.claim (wellFormed : WellFormed rt names wallets state) {clock : Clock}
    {accounts : ClaimHandle} {name : String} (inNames : name ∈ names)
    (inWallets : accounts.claimer.pubkey ∈ wallets)
    (success : claimHandle rt clock state accounts name = .ok next) :
    WellFormed rt names wallets next ∧ ownerOf rt state name = none ∧
      Set.EqOn (ownerOf rt next)
        (Function.update (ownerOf rt state) name (some accounts.claimer.pubkey)) names := by
  have ⟨_, unused, unused', valid, written⟩ := claimHandle_accounts success
  have ⟨owners, handles⟩ := write_pair free inNames inWallets _ _ written
  have vacant : ownerOf rt state name = none := by
    simp only [ownerOf, unused, recordedOwner]
  have vacant' : handleOf rt state accounts.claimer.pubkey = none := by
    simp only [handleOf, unused', recordedHandle]
  refine ⟨⟨?_, ?_⟩, vacant, owners⟩
  · rw [written]
    apply placed_update (placed_update wellFormed.placed _)
    · intro content same
      rw [← Option.some.inj same]
      exact ⟨_, inWallets, rfl⟩
    · intro content same
      rw [← Option.some.inj same]
      exact ⟨inNames, inWallets, rfl, valid⟩
  · exact (wellFormed.inverse.link inNames inWallets vacant vacant').congr owners handles

/-- A release separates a name from the wallet that owns it. That the Reverse
account it closes is the name's own is what the invariant says. -/
theorem WellFormed.release (wellFormed : WellFormed rt names wallets state)
    {accounts : ReleaseHandle} (success : releaseHandle rt state accounts = .ok next) :
    WellFormed rt names wallets next ∧ ∃ name ∈ names,
      Set.EqOn (ownerOf rt next) (Function.update (ownerOf rt state) name none) names := by
  have ⟨_, handle, reverse, loaded, owned, _, written⟩ := releaseHandle_accounts success
  have ⟨inNames, inWallets, _, _⟩ := wellFormed.placed _ _ loaded
  rw [owned] at inWallets
  have ⟨owners, handles⟩ := write_pair free inNames inWallets _ _ written
  have linked : ownerOf rt state handle.name = some accounts.owner.pubkey := by
    rw [ownerOf, loaded, recordedOwner, owned]
  refine ⟨⟨?_, ?_⟩, handle.name, inNames, owners⟩
  · rw [written]
    apply placed_update (placed_update wellFormed.placed _) <;> simp
  · exact (wellFormed.inverse.unlink inNames inWallets linked).congr owners handles

/-- A transfer moves a name from the wallet that owns it to one that has none. -/
theorem WellFormed.transfer (wellFormed : WellFormed rt names wallets state)
    {accounts : TransferHandle} (inWallets' : accounts.newOwner.pubkey ∈ wallets)
    (success : transferHandle rt state accounts = .ok next) :
    WellFormed rt names wallets next ∧ ∃ name ∈ names,
      ownerOf rt state name = some accounts.currentOwner.pubkey ∧
      Set.EqOn (ownerOf rt next)
        (Function.update (ownerOf rt state) name (some accounts.newOwner.pubkey)) names := by
  have ⟨_, handle, reverse, loaded, owned, loaded', unused, written⟩ := transferHandle_accounts success
  have ⟨inNames, inWallets, derived, valid⟩ := wellFormed.placed _ _ loaded
  rw [owned] at inWallets
  let middle : State := ⟨state.lamports, Function.update
    (Function.update state.accounts (Handle.pda rt handle.name).1
      (some (.handle { handle with owner := accounts.newOwner.pubkey })))
    (Reverse.pda rt accounts.newOwner.pubkey).1
      (some (.reverse ⟨handle.name, (Reverse.pda rt accounts.newOwner.pubkey).2⟩))⟩
  have last : next.accounts =
    Function.update middle.accounts (Reverse.pda rt accounts.currentOwner.pubkey).1 none := written
  have ⟨owners, handles⟩ := write_pair free inNames inWallets' _ _ (show middle.accounts = _ from rfl)
  have linked : ownerOf rt state handle.name = some accounts.currentOwner.pubkey := by
    rw [ownerOf, loaded, recordedOwner, owned]
  have vacant : handleOf rt state accounts.newOwner.pubkey = none := by
    simp only [handleOf, unused, recordedHandle]
  have different : accounts.newOwner.pubkey ≠ accounts.currentOwner.pubkey := by
    intro same
    rw [same, loaded'] at unused
    cases unused
  have owners' : Set.EqOn (ownerOf rt next)
      (Function.update (ownerOf rt state) handle.name (some accounts.newOwner.pubkey)) names :=
    (ownerOf_write_reverse free inWallets _ last).trans owners
  have handles' : Set.EqOn (handleOf rt next) (Function.update (Function.update (handleOf rt state)
      accounts.currentOwner.pubkey none) accounts.newOwner.pubkey (some handle.name)) wallets := by
    intro wallet inside
    rw [handleOf_write free inWallets _ last inside, Function.update_comm different.symm]
    by_cases same : wallet = accounts.currentOwner.pubkey
    · rw [same, Function.update_self, Function.update_self]
      rfl
    · rw [Function.update_of_ne same, Function.update_of_ne same]
      exact handles inside
  refine ⟨⟨?_, ?_⟩, handle.name, inNames, linked, owners'⟩
  · rw [written]
    apply placed_update (placed_update (placed_update wellFormed.placed _) _)
    · simp
    · intro content same
      rw [← Option.some.inj same]
      exact ⟨inNames, inWallets', rfl, valid⟩
    · intro content same
      rw [← Option.some.inj same]
      exact ⟨_, inWallets', rfl⟩
  · exact (wellFormed.inverse.relink inNames inWallets inWallets' linked vacant).congr owners' handles'

/-- Every instruction preserves the invariant. -/
theorem WellFormed.step (wellFormed : WellFormed rt names wallets state) {instruction : Instruction}
    (inPlay : InPlay names wallets instruction)
    (success : HandleRegistry.step rt state instruction = .ok next) :
    WellFormed rt names wallets next := by
  cases instruction with
  | claimHandle clock accounts name => exact (wellFormed.claim free inPlay.1 inPlay.2 success).1
  | releaseHandle accounts => exact (wellFormed.release free success).1
  | transferHandle accounts => exact (wellFormed.transfer free inPlay.2 success).1
  | gift source target amount =>
      simp only [HandleRegistry.step, bind_eq_ok, require_eq_ok, exists_const] at success
      have same := State.transfer_accounts success.2
      refine ⟨?_, ?_⟩
      · rw [same]
        exact wellFormed.placed
      · apply wellFormed.inverse.congr
        · intro name _
          rw [ownerOf, ownerOf, same]
        · intro wallet _
          rw [handleOf, handleOf, same]

/-- Only a transfer signed by both wallets takes a name from one to the other. -/
theorem WellFormed.taken (wellFormed : WellFormed rt names wallets state) {instruction : Instruction}
    (inPlay : InPlay names wallets instruction)
    (success : HandleRegistry.step rt state instruction = .ok next) {name : String}
    (inNames : name ∈ names) {first second : Pubkey} (before : ownerOf rt state name = some first)
    (after : ownerOf rt next name = some second) (different : first ≠ second) :
    ∃ accounts, instruction = .transferHandle accounts ∧
      accounts.currentOwner.pubkey = first ∧ accounts.currentOwner.signed rt = true ∧
      accounts.newOwner.pubkey = second ∧ accounts.newOwner.signed rt = true := by
  have kept (same : ownerOf rt next name = ownerOf rt state name) : False := by
    rw [same, before] at after
    exact different (Option.some.inj after)
  cases instruction with
  | claimHandle clock accounts claimed =>
      have ⟨_, vacant, owners⟩ := wellFormed.claim free inPlay.1 inPlay.2 success
      by_cases same : name = claimed
      · rw [← same, before] at vacant
        cases vacant
      · exact (kept ((owners inNames).trans (Function.update_of_ne same _ _))).elim
  | releaseHandle accounts =>
      have ⟨_, released, _, owners⟩ := wellFormed.release free success
      by_cases same : name = released
      · rw [owners inNames, same, Function.update_self] at after
        cases after
      · exact (kept ((owners inNames).trans (Function.update_of_ne same _ _))).elim
  | transferHandle accounts =>
      have ⟨_, moved, _, linked, owners⟩ := wellFormed.transfer free inPlay.2 success
      have ⟨pays, signed'⟩ := (transferHandle_accounts success).1
      have signed := AccountMeta.signed_of_pays pays
      by_cases same : name = moved
      · rw [owners inNames, same, Function.update_self] at after
        rw [same, linked] at before
        exact ⟨accounts, rfl, Option.some.inj before, signed, Option.some.inj after, signed'⟩
      · exact (kept ((owners inNames).trans (Function.update_of_ne same _ _))).elim
  | gift source target amount =>
      simp only [HandleRegistry.step, bind_eq_ok, require_eq_ok, exists_const] at success
      exact (kept (by rw [ownerOf, ownerOf, State.transfer_accounts success.2])).elim

end Lookups

/-- A registry nobody has used, whatever lamports lie around. -/
def State.empty (lamports : Pubkey → Nat) : State := ⟨lamports, fun _ => none⟩

theorem WellFormed.empty (rt : Runtime) (names : Set String) (wallets : Set Pubkey)
    (lamports : Pubkey → Nat) : WellFormed rt names wallets (State.empty lamports) where
  placed := by
    intro key content found
    cases found
  inverse := InverseOn.empty names wallets

/-- The registry is a bijection between the names taken and the wallets that own
one, in every state of every run; a name only passes from one wallet to another by
a transfer that both sign. -/
theorem registry_bijection (rt : Runtime) (names : Set String) (wallets : Set Pubkey)
    (free : rt.CollisionFree (registryKeys names wallets)) (lamports : Pubkey → Nat)
    (instructions : List Instruction)
    (inPlay : ∀ instruction ∈ instructions, InPlay names wallets instruction) :
    (∀ state, Run.Reached (step rt) (State.empty lamports) instructions state →
      (∀ name ∈ names, ∀ wallet ∈ wallets,
        (∃ handle, state.accounts (Handle.pda rt name).1 = some (.handle handle) ∧
          handle.owner = wallet) ↔
        ∃ reverse, state.accounts (Reverse.pda rt wallet).1 = some (.reverse reverse) ∧
          reverse.handle = name) ∧
      (∀ name ∈ names, ∀ handle, state.accounts (Handle.pda rt name).1 = some (.handle handle) →
        handle.name = name ∧ validateHandle name = .ok ()) ∧
      (∀ wallet ∈ wallets, ∀ first ∈ names, ∀ second ∈ names,
        ownerOf rt state first = some wallet → ownerOf rt state second = some wallet →
          first = second)) ∧
    (∀ state instruction next name first second,
      Run.Taken (step rt) (State.empty lamports) instructions state instruction →
      step rt state instruction = .ok next → name ∈ names → ownerOf rt state name = some first →
      ownerOf rt next name = some second → first ≠ second →
      ∃ accounts, instruction = .transferHandle accounts ∧
        accounts.currentOwner.pubkey = first ∧ accounts.currentOwner.signed rt = true ∧
        accounts.newOwner.pubkey = second ∧ accounts.newOwner.signed rt = true) := by
  have invariant (state : State)
      (reached : Run.Reached (step rt) (State.empty lamports) instructions state) :
      WellFormed rt names wallets state := by
    apply Run.reached_invariant (WellFormed.empty rt names wallets lamports) _ reached
    intro current instruction next member wellFormed success
    exact wellFormed.step free (inPlay instruction member) success
  refine ⟨fun state reached => ⟨?_, ?_, ?_⟩, ?_⟩
  · intro name inNames wallet inWallets
    rw [← ownerOf_eq_some, ← handleOf_eq_some]
    exact (invariant state reached).inverse name inNames wallet inWallets
  · intro name inNames handle found
    have ⟨inNames', _, derived, valid⟩ := (invariant state reached).placed _ _ found
    have same := handle_pda_inj free inNames inNames' derived
    rw [← same] at valid
    exact ⟨same.symm, valid⟩
  · intro wallet inWallets first inFirst second inSecond owned owned'
    have inverse := (invariant state reached).inverse
    have one := (inverse first inFirst wallet inWallets).mp owned
    have other := (inverse second inSecond wallet inWallets).mp owned'
    exact Option.some.inj (one.symm.trans other)
  · intro state instruction next name first second taken success inNames before after different
    exact (invariant state taken.reached).taken free (inPlay instruction taken.mem) success inNames
      before after different

/-- Wallet 3 claims "kay" and hands it to wallet 5. -/
def sampleRun : List Instruction :=
  [.claimHandle ⟨0, 1700000000⟩ ⟨⟨Runtime.sampleKey 3, true, true⟩,
      (Handle.pda Runtime.sample "kay").1, (Reverse.pda Runtime.sample (Runtime.sampleKey 3)).1⟩ "kay",
    .transferHandle ⟨⟨Runtime.sampleKey 3, true, true⟩, ⟨Runtime.sampleKey 5, true, false⟩,
      (Handle.pda Runtime.sample "kay").1, (Reverse.pda Runtime.sample (Runtime.sampleKey 3)).1,
      (Reverse.pda Runtime.sample (Runtime.sampleKey 5)).1⟩]

theorem registry_bijection_sample :
    (∃ handle, (Run.run (step Runtime.sample) (State.empty fun _ => 1000000000) sampleRun).accounts
        (Handle.pda Runtime.sample "kay").1 = some (.handle handle) ∧
      handle.owner = Runtime.sampleKey 5) ↔
    ∃ reverse, (Run.run (step Runtime.sample) (State.empty fun _ => 1000000000) sampleRun).accounts
        (Reverse.pda Runtime.sample (Runtime.sampleKey 5)).1 = some (.reverse reverse) ∧
      reverse.handle = "kay" := by
  let keys : List (List UInt8 × Pubkey) :=
    [([Handle.SEED_PREFIX, asBytes "kay"].flatten, Programs.stedeHandleRegistry),
      ([Reverse.SEED_PREFIX, (Runtime.sampleKey 3).bytes].flatten, Programs.stedeHandleRegistry),
      ([Reverse.SEED_PREFIX, (Runtime.sampleKey 5).bytes].flatten, Programs.stedeHandleRegistry)]
  have free : Runtime.sample.CollisionFree {key | key ∈ keys} :=
    Runtime.CollisionFree.of_nodup (by decide +kernel)
  have included : registryKeys {"kay"} {Runtime.sampleKey 3, Runtime.sampleKey 5} ⊆
      {key | key ∈ keys} := by
    intro key inPlay
    rcases inPlay with ⟨name, isKay, same⟩ | ⟨wallet, isThree | isFive, same⟩
    · simp [keys, same, show name = "kay" from isKay]
    · simp [keys, same, isThree]
    · simp [keys, same, show wallet = Runtime.sampleKey 5 from isFive]
  have ⟨states, _⟩ := registry_bijection Runtime.sample {"kay"}
    {Runtime.sampleKey 3, Runtime.sampleKey 5} (free.mono included) (fun _ => 1000000000) sampleRun
    (by simp [sampleRun, InPlay])
  exact (states _ ⟨sampleRun, [], (List.append_nil _).symm, rfl⟩).1 "kay" rfl _ (Or.inr rfl)

example : (ownerOf Runtime.sample (Run.run (step Runtime.sample)
    (State.empty fun _ => 1000000000) sampleRun) "kay") = some (Runtime.sampleKey 5) := by
  decide +kernel

end Stede.HandleRegistry
