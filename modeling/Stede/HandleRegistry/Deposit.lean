import Stede.HandleRegistry.Bijection
import Stede.Lib.Holdings

set_option autoImplicit false

/- The lamports of the registry: rent, and the deposit that a name is claimed with. -/
namespace Stede.HandleRegistry

open Holdings (move)

namespace State

/-- The lamports of all addresses. -/
noncomputable def total (state : State) : Nat := ∑ key ∈ Pubkey.all, state.lamports key

section Moves

variable {rt : Runtime} {state next : State}

theorem transfer_lamports {source target : Pubkey} {amount : Nat}
    (success : state.transfer source target amount = .ok next) :
    amount ≤ state.lamports source ∧ next.lamports = move state.lamports source target amount := by
  have ⟨funds, same⟩ := (transfer_eq_ok _ _ _ _ _).mp success
  refine ⟨funds, ?_⟩
  rw [same]
  rfl

theorem init_lamports {payer : AccountMeta} {key : Pubkey} {space : Nat} {zeroed : Content}
    (success : state.init rt payer key space zeroed = .ok next) :
    rt.minimumBalance space - state.lamports key ≤ state.lamports payer.pubkey ∧
      next.lamports = move state.lamports payer.pubkey key
        (rt.minimumBalance space - state.lamports key) := by
  simp only [init, bind_eq_ok, AccountMeta.charged_eq_ok, require_eq_ok, exists_const, pure,
    Except.pure, Except.ok.injEq] at success
  obtain ⟨_, _, funded, moved, same⟩ := success
  obtain ⟨funds, lamports⟩ := transfer_lamports moved
  refine ⟨funds, ?_⟩
  rw [← same]
  exact lamports

/-- After `init` the address holds the rent-exempt minimum at least. -/
theorem init_rent {payer : AccountMeta} {key : Pubkey} {space : Nat} {zeroed : Content}
    (success : state.init rt payer key space zeroed = .ok next) (apart : key ≠ payer.pubkey) :
    rt.minimumBalance space ≤ next.lamports key := by
  rw [(init_lamports success).2, Holdings.move_target apart]
  omega

/-- Only the payer loses by an `init`. -/
theorem init_le {payer : AccountMeta} {key other : Pubkey} {space : Nat} {zeroed : Content}
    (success : state.init rt payer key space zeroed = .ok next) (apart : other ≠ payer.pubkey) :
    state.lamports other ≤ next.lamports other := by
  rw [(init_lamports success).2]
  exact Holdings.le_move apart

theorem close_lamports (key target : Pubkey) :
    (state.close key target).lamports = move state.lamports key target (state.lamports key) := by
  simp only [close, move, Nat.sub_self]

@[simp] theorem store_lamports (key : Pubkey) (content : Content) :
    (state.store key content).lamports = state.lamports := rfl

@[simp] theorem store_total (key : Pubkey) (content : Content) :
    (state.store key content).total = state.total := rfl

theorem transfer_total {source target : Pubkey} {amount : Nat}
    (success : state.transfer source target amount = .ok next) : next.total = state.total := by
  have ⟨funds, lamports⟩ := transfer_lamports success
  rw [total, lamports]
  exact Holdings.sum_move (Pubkey.mem_all _) (Pubkey.mem_all _) funds

theorem init_total {payer : AccountMeta} {key : Pubkey} {space : Nat} {zeroed : Content}
    (success : state.init rt payer key space zeroed = .ok next) : next.total = state.total := by
  have ⟨funds, lamports⟩ := init_lamports success
  rw [total, lamports]
  exact Holdings.sum_move (Pubkey.mem_all _) (Pubkey.mem_all _) funds

theorem close_total (key target : Pubkey) : (state.close key target).total = state.total := by
  rw [total, close_lamports]
  exact Holdings.sum_move (Pubkey.mem_all _) (Pubkey.mem_all _) (Nat.le_refl _)

end Moves

end State

section Conservation

variable {rt : Runtime} {state next : State}

/-- No instruction creates or destroys lamports. -/
theorem step_total {instruction : Instruction} (success : step rt state instruction = .ok next) :
    next.total = state.total := by
  cases instruction with
  | claimHandle clock accounts name =>
      simp only [step, claimHandle, bind_eq_ok, require_eq_ok, exists_const] at success
      obtain ⟨_, _, _, first, opened, _, second, opened', _, _, _, paid⟩ := success
      have deposited := State.transfer_total paid
      simp only [State.store_total] at deposited
      calc next.total = second.total := deposited
        _ = first.total := State.init_total opened'
        _ = state.total := State.init_total opened
  | releaseHandle accounts =>
      simp only [step, releaseHandle, bind_eq_ok, require_eq_ok, exists_const, pure, Except.pure,
        Except.ok.injEq] at success
      obtain ⟨_, _, _, _, _, _, _, _, _, same⟩ := success
      rw [← same, State.close_total, State.close_total]
  | transferHandle accounts =>
      simp only [step, transferHandle, bind_eq_ok, require_eq_ok, exists_const, pure, Except.pure,
        Except.ok.injEq] at success
      obtain ⟨_, _, _, _, _, _, _, middle, opened, _, _, _, _, same⟩ := success
      rw [← same, State.close_total, State.store_total, State.store_total]
      exact State.init_total opened
  | gift source target amount =>
      simp only [step, bind_eq_ok, require_eq_ok, exists_const] at success
      exact State.transfer_total success.2

end Conservation

/-- What an account must hold: its rent-exempt minimum, and for a name the deposit. -/
def Content.reserve (rt : Runtime) : Content → Nat
  | .handle _ => rt.minimumBalance Handle.space + ANTI_SQUAT_DEPOSIT
  | .reverse _ => rt.minimumBalance Reverse.space

/-- The invariant: nobody can sign for an account's address, and the reserve is there. -/
structure Funded (rt : Runtime) (state : State) : Prop where
  keyless : ∀ key content, state.accounts key = some content → rt.canSign key = false
  reserve : ∀ key content, state.accounts key = some content →
    content.reserve rt ≤ state.lamports key

theorem Funded.intro {rt : Runtime} {state : State} (both : ∀ key content,
    state.accounts key = some content →
      rt.canSign key = false ∧ content.reserve rt ≤ state.lamports key) : Funded rt state :=
  ⟨fun key content found => (both key content found).1,
    fun key content found => (both key content found).2⟩

theorem Funded.empty (rt : Runtime) (lamports : Pubkey → Nat) : Funded rt (State.empty lamports) := by
  apply Funded.intro
  intro key content found
  cases found

section Instructions

variable {rt : Runtime} {state next : State}

theorem handle_keyless (rt : Runtime) (name : String) : rt.canSign (Handle.pda rt name).1 = false :=
  rt.pda_cannot_sign _ (by simp [Programs.workspace]) _

theorem reverse_keyless (rt : Runtime) (wallet : Pubkey) :
    rt.canSign (Reverse.pda rt wallet).1 = false :=
  rt.pda_cannot_sign _ (by simp [Programs.workspace]) _

/-- A wallet that signs is not an address that nobody signs for. -/
theorem signer_ne {account : AccountMeta} {key : Pubkey} (signed : account.signed rt = true)
    (keyless : rt.canSign key = false) : key ≠ account.pubkey := by
  intro same
  rw [same] at keyless
  simp only [AccountMeta.signed, Bool.and_eq_true] at signed
  rw [keyless] at signed
  exact absurd signed.2 (by decide)

theorem Funded.apart (funded : Funded rt state) {account : AccountMeta} {key : Pubkey}
    {content : Content} (signed : account.signed rt = true)
    (found : state.accounts key = some content) : key ≠ account.pubkey :=
  signer_ne signed (funded.keyless key content found)

/-- A claim leaves the reserve in both of its accounts and takes from the claimer only. -/
theorem claimHandle_lamports {clock : Clock} {accounts : ClaimHandle} {name : String}
    (success : claimHandle rt clock state accounts name = .ok next) :
    rt.minimumBalance Handle.space + ANTI_SQUAT_DEPOSIT ≤ next.lamports (Handle.pda rt name).1 ∧
    rt.minimumBalance Reverse.space ≤ next.lamports (Reverse.pda rt accounts.claimer.pubkey).1 ∧
    ∀ key, key ≠ accounts.claimer.pubkey → state.lamports key ≤ next.lamports key := by
  simp only [claimHandle, bind_eq_ok, require_eq_ok, exists_const] at success
  obtain ⟨signed, _, here, first, opened, there, second, opened', _, _, _, paid⟩ := success
  have apart := signer_ne signed (handle_keyless rt name)
  have apart' := signer_ne signed (reverse_keyless rt accounts.claimer.pubkey)
  rw [here] at opened paid
  rw [there] at opened'
  have rent := State.init_rent opened apart
  have rent' := State.init_rent opened' apart'
  obtain ⟨_, deposited⟩ := State.transfer_lamports paid
  simp only [State.store_lamports] at deposited
  -- the payments for both accounts and the deposit come from the claimer
  have paying (key : Pubkey) (other : key ≠ accounts.claimer.pubkey) :
      second.lamports key ≤ next.lamports key := by
    rw [deposited]
    exact Holdings.le_move other
  refine ⟨?_, ?_, ?_⟩
  · have kept := State.init_le opened' apart
    rw [deposited, Holdings.move_target apart]
    omega
  · have kept := paying _ apart'
    omega
  · intro key other
    calc state.lamports key
        ≤ first.lamports key := State.init_le opened other
      _ ≤ second.lamports key := State.init_le opened' other
      _ ≤ next.lamports key := paying key other

/-- A transfer leaves the lamports of the name alone; apart from what the old owner
pays, only the old Reverse account loses any. -/
theorem transferHandle_lamports {accounts : TransferHandle}
    (success : transferHandle rt state accounts = .ok next) :
    next.lamports accounts.handleAccount = state.lamports accounts.handleAccount ∧
    rt.minimumBalance Reverse.space ≤
      next.lamports (Reverse.pda rt accounts.newOwner.pubkey).1 ∧
    ∀ key, key ≠ accounts.currentOwner.pubkey →
      key ≠ (Reverse.pda rt accounts.currentOwner.pubkey).1 → state.lamports key ≤ next.lamports key := by
  simp only [transferHandle, bind_eq_ok, require_eq_ok, exists_const, State.loadHandle_eq_ok,
    State.loadReverse_eq_ok, pure, Except.pure, Except.ok.injEq] at success
  obtain ⟨signed, _, handle, loaded, reverse, loaded', fresh, middle, opened, _, derived, _, derived',
    same⟩ := success
  have here : accounts.handleAccount = (Handle.pda rt handle.name).1 := congrArg Prod.fst derived
  have there : accounts.oldReverse = (Reverse.pda rt accounts.currentOwner.pubkey).1 :=
    congrArg Prod.fst derived'
  obtain ⟨unused, _⟩ := State.init_accounts opened
  have keyless : rt.canSign accounts.handleAccount = false := here ▸ handle_keyless rt handle.name
  have keyless' : rt.canSign accounts.newReverse = false :=
    fresh ▸ reverse_keyless rt accounts.newOwner.pubkey
  -- what the three accounts hold tells them apart
  have handle_ne_old : accounts.handleAccount ≠ accounts.oldReverse :=
    ne_of_apply_ne state.accounts (by simp [loaded, loaded'])
  have handle_ne_new : accounts.handleAccount ≠ accounts.newReverse :=
    ne_of_apply_ne state.accounts (by simp [loaded, unused])
  have new_ne_old : accounts.newReverse ≠ accounts.oldReverse :=
    ne_of_apply_ne state.accounts (by simp [unused, loaded'])
  have closed : next.lamports = move middle.lamports accounts.oldReverse accounts.currentOwner.pubkey
      (middle.lamports accounts.oldReverse) := by
    rw [← same, State.close_lamports]
    rfl
  have rent := State.init_rent opened (signer_ne signed keyless')
  rw [← there, ← fresh, closed]
  refine ⟨?_, ?_, ?_⟩
  · rw [Holdings.move_of_ne handle_ne_old (signer_ne signed keyless), (State.init_lamports opened).2,
      Holdings.move_of_ne (signer_ne signed keyless) handle_ne_new]
  · rw [Holdings.move_of_ne new_ne_old (signer_ne signed keyless')]
    exact rent
  · intro key other not_old
    calc state.lamports key
        ≤ middle.lamports key := State.init_le opened other
      _ ≤ _ := Holdings.le_move not_old

/-- A release empties both accounts in favour of the owner. -/
theorem releaseHandle_lamports {accounts : ReleaseHandle}
    (success : releaseHandle rt state accounts = .ok next) :
    next.lamports accounts.owner.pubkey = state.lamports accounts.owner.pubkey +
        state.lamports accounts.handleAccount + state.lamports accounts.reverseAccount ∧
    (next.lamports accounts.handleAccount = 0 ∧ next.lamports accounts.reverseAccount = 0) ∧
    (next.accounts accounts.handleAccount = none ∧ next.accounts accounts.reverseAccount = none) ∧
    ∀ key, key ≠ accounts.handleAccount → key ≠ accounts.reverseAccount →
      state.lamports key ≤ next.lamports key := by
  simp only [releaseHandle, bind_eq_ok, require_eq_ok, exists_const, State.loadHandle_eq_ok,
    State.loadReverse_eq_ok, pure, Except.pure, Except.ok.injEq] at success
  obtain ⟨signed, handle, loaded, reverse, loaded', _, derived, _, derived', same⟩ := success
  have here : accounts.handleAccount = (Handle.pda rt handle.name).1 := congrArg Prod.fst derived
  have there : accounts.reverseAccount = (Reverse.pda rt accounts.owner.pubkey).1 :=
    congrArg Prod.fst derived'
  have handle_ne_owner := signer_ne signed (here ▸ handle_keyless rt handle.name)
  have reverse_ne_owner := signer_ne signed (there ▸ reverse_keyless rt accounts.owner.pubkey)
  have handle_ne_reverse : accounts.handleAccount ≠ accounts.reverseAccount :=
    ne_of_apply_ne state.accounts (by simp [loaded, loaded'])
  let first := move state.lamports accounts.handleAccount accounts.owner.pubkey
    (state.lamports accounts.handleAccount)
  have kept : first accounts.reverseAccount = state.lamports accounts.reverseAccount :=
    Holdings.move_of_ne handle_ne_reverse.symm reverse_ne_owner
  have closed : next.lamports = move first accounts.reverseAccount accounts.owner.pubkey
      (first accounts.reverseAccount) := by
    rw [← same, State.close_lamports, State.close_lamports]
  have gone : next.accounts = Function.update (Function.update state.accounts accounts.handleAccount
      none) accounts.reverseAccount none := by
    rw [← same]
    rfl
  rw [closed, gone]
  refine ⟨?_, ⟨?_, ?_⟩, ⟨?_, Function.update_self ..⟩, ?_⟩
  · rw [Holdings.move_target reverse_ne_owner.symm, kept]
    exact congrArg (· + _) (Holdings.move_target handle_ne_owner.symm)
  · rw [Holdings.move_of_ne handle_ne_reverse handle_ne_owner]
    exact (Holdings.move_source handle_ne_owner).trans (Nat.sub_self _)
  · rw [Holdings.move_source reverse_ne_owner, Nat.sub_self]
  · rw [Function.update_of_ne handle_ne_reverse, Function.update_self]
  · intro key not_handle not_reverse
    calc state.lamports key
        ≤ first key := Holdings.le_move not_handle
      _ ≤ _ := Holdings.le_move not_reverse

/-- The owner that a release pays is the one recorded. -/
theorem releaseHandle_owner {accounts : ReleaseHandle}
    (success : releaseHandle rt state accounts = .ok next) :
    ∃ handle, state.accounts accounts.handleAccount = some (.handle handle) ∧
      handle.owner = accounts.owner.pubkey := by
  simp only [releaseHandle, bind_eq_ok, require_eq_ok, exists_const, State.loadHandle_eq_ok] at success
  obtain ⟨_, handle, loaded, _, _, _, _, owned, _⟩ := success
  exact ⟨handle, loaded, owned⟩

/-- An account that an instruction leaves alone keeps its reserve if it loses nothing. -/
theorem Funded.keep (funded : Funded rt state) {key : Pubkey} {content : Content}
    (found : state.accounts key = some content) (more : state.lamports key ≤ next.lamports key) :
    rt.canSign key = false ∧ content.reserve rt ≤ next.lamports key :=
  ⟨funded.keyless key content found, (funded.reserve key content found).trans more⟩

/-- Every instruction keeps the reserves. -/
theorem Funded.step (funded : Funded rt state) {instruction : Instruction}
    (success : HandleRegistry.step rt state instruction = .ok next) : Funded rt next := by
  apply Funded.intro
  intro key content found
  cases instruction with
  | claimHandle clock accounts name =>
      obtain ⟨pays, _, _, _, written⟩ := claimHandle_accounts success
      have signed := AccountMeta.signed_of_pays pays
      obtain ⟨forward, backward, others⟩ := claimHandle_lamports success
      rw [written, update_eq_some, update_eq_some] at found
      rcases found with ⟨here, new⟩ | ⟨_, ⟨here, new⟩ | ⟨_, old⟩⟩
      · rw [here, ← Option.some.inj new]
        exact ⟨reverse_keyless rt _, backward⟩
      · rw [here, ← Option.some.inj new]
        exact ⟨handle_keyless rt name, forward⟩
      · exact funded.keep old (others key (funded.apart signed old))
  | releaseHandle accounts =>
      obtain ⟨_, _, _, _, _, _, written⟩ := releaseHandle_accounts success
      obtain ⟨_, _, ⟨gone, gone'⟩, others⟩ := releaseHandle_lamports success
      have not_handle : key ≠ accounts.handleAccount := by
        intro here
        rw [here, gone] at found
        cases found
      have not_reverse : key ≠ accounts.reverseAccount := by
        intro here
        rw [here, gone'] at found
        cases found
      rw [written, update_eq_some, update_eq_some] at found
      rcases found with ⟨_, none⟩ | ⟨_, ⟨_, none⟩ | ⟨_, old⟩⟩
      · cases none
      · cases none
      · exact funded.keep old (others key not_handle not_reverse)
  | transferHandle accounts =>
      obtain ⟨⟨pays, _⟩, _, _, loaded, _, _, _, written⟩ := transferHandle_accounts success
      have signed := AccountMeta.signed_of_pays pays
      obtain ⟨_, rent, others⟩ := transferHandle_lamports success
      rw [written, update_eq_some, update_eq_some, update_eq_some] at found
      rcases found with ⟨_, none⟩ | ⟨not_old, ⟨here, new⟩ | ⟨_, ⟨here, new⟩ | ⟨_, old⟩⟩⟩
      · cases none
      · rw [here, ← Option.some.inj new]
        exact ⟨reverse_keyless rt _, rent⟩
      · rw [← here] at loaded
        have kept := funded.keep loaded (others key (funded.apart signed loaded) not_old)
        rw [← Option.some.inj new]
        exact kept
      · exact funded.keep old (others key (funded.apart signed old) not_old)
  | gift source target amount =>
      simp only [HandleRegistry.step, bind_eq_ok, require_eq_ok, exists_const] at success
      obtain ⟨signed, moved⟩ := success
      obtain ⟨_, lamports⟩ := State.transfer_lamports moved
      rw [State.transfer_accounts moved] at found
      apply funded.keep found
      rw [lamports]
      exact Holdings.le_move (funded.apart signed found)

end Instructions

/-- Over every run no lamports are created or lost and every account holds its
reserve; a transfer of a name leaves its lamports alone, and a release pays its owner
all that both accounts hold. -/
theorem deposit_kept (rt : Runtime) (lamports : Pubkey → Nat) (instructions : List Instruction) :
    (∀ state, Run.Reached (step rt) (State.empty lamports) instructions state →
      state.total = (State.empty lamports).total ∧
      (∀ key handle, state.accounts key = some (.handle handle) →
        rt.minimumBalance Handle.space + ANTI_SQUAT_DEPOSIT ≤ state.lamports key) ∧
      (∀ key reverse, state.accounts key = some (.reverse reverse) →
        rt.minimumBalance Reverse.space ≤ state.lamports key)) ∧
    (∀ state accounts next,
      Run.Taken (step rt) (State.empty lamports) instructions state (.transferHandle accounts) →
      step rt state (.transferHandle accounts) = .ok next →
        next.lamports accounts.handleAccount = state.lamports accounts.handleAccount) ∧
    (∀ state accounts next,
      Run.Taken (step rt) (State.empty lamports) instructions state (.releaseHandle accounts) →
      step rt state (.releaseHandle accounts) = .ok next →
        (∃ handle, state.accounts accounts.handleAccount = some (.handle handle) ∧
          handle.owner = accounts.owner.pubkey) ∧
        next.lamports accounts.owner.pubkey = state.lamports accounts.owner.pubkey +
          state.lamports accounts.handleAccount + state.lamports accounts.reverseAccount ∧
        (next.lamports accounts.handleAccount = 0 ∧ next.lamports accounts.reverseAccount = 0) ∧
        (next.accounts accounts.handleAccount = none ∧
          next.accounts accounts.reverseAccount = none)) := by
  have invariant (state : State)
      (reached : Run.Reached (step rt) (State.empty lamports) instructions state) :
      Funded rt state ∧ state.total = (State.empty lamports).total := by
    constructor
    · apply Run.reached_invariant (Funded.empty rt lamports) _ reached
      intro current instruction next _ funded success
      exact funded.step success
    · apply @Run.reached_invariant _ _ _ _ (fun state => state.total = (State.empty lamports).total)
        _ _ _ rfl _ reached
      intro current instruction next _ same success
      exact (step_total success).trans same
  refine ⟨fun state reached => ⟨?_, ?_, ?_⟩, ?_, ?_⟩
  · exact (invariant state reached).2
  · intro key handle found
    exact (invariant state reached).1.reserve key _ found
  · intro key reverse found
    exact (invariant state reached).1.reserve key _ found
  · intro state accounts next _ success
    exact (transferHandle_lamports success).1
  · intro state accounts next _ success
    have ⟨paid, emptied, gone, _⟩ := releaseHandle_lamports success
    exact ⟨releaseHandle_owner success, paid, emptied, gone⟩

/-- An address that held a whole SOL before the claim needs no rent and keeps it. -/
example : (Run.run (step .sample) (State.empty fun _ => 1000000000) sampleRun).lamports
    (Handle.pda .sample "kay").1 = 1000000000 + ANTI_SQUAT_DEPOSIT := by
  decide +kernel

end Stede.HandleRegistry
