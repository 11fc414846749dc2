import Stede.HandleRegistry.Deposit
import Stede.HandleRegistry.Grammar
import Stede.Lib.Refinement

set_option autoImplicit false

/- What the registry is for: a directory in which every name has one owner and every
wallet at most one name. The accounts hold such a directory. -/
namespace Stede.HandleRegistry

open Inverse

structure Entry where
  owner : Pubkey
  claimedAt : Int64
deriving DecidableEq

/-- The names that are taken, and the name of each wallet. -/
structure Directory where
  entries : String → Option Entry
  names : Pubkey → Option String
  inverse : InverseOn Set.univ Set.univ (fun name => (entries name).map Entry.owner) names
  valid : ∀ name, (entries name).isSome → IsHandle name

instance (name : String) : Decidable (IsHandle name) :=
  decidable_of_iff ((validateHandle name).isOk = true) <| by
    rw [← validateHandle_iff ()]
    cases validateHandle name with
    | ok done => exact ⟨fun _ => rfl, fun _ => rfl⟩
    | error reason => exact ⟨nofun, nofun⟩

namespace Directory

inductive Refusal
  /-- The name is taken, or the wallet has one. -/
  | taken
  | unset
  | notOwner
  | invalid
deriving DecidableEq

def ensure (condition : Prop) [Decidable condition] (refusal : Refusal) :
    Except Refusal (PLift condition) :=
  if holds : condition then .ok ⟨holds⟩ else .error refusal

theorem owner_update (entries : String → Option Entry) (name : String) (entry : Option Entry) :
    (fun other => (Function.update entries name entry other).map Entry.owner) =
      Function.update (fun other => (entries other).map Entry.owner) name (entry.map Entry.owner) :=
  funext fun other => Function.apply_update (fun _ => Option.map Entry.owner) entries name entry other

theorem isSome_update {entries : String → Option Entry} {name other : String} {entry : Option Entry}
    (taken : (Function.update entries name entry other).isSome) :
    (other = name ∧ entry.isSome) ∨ (entries other).isSome := by
  by_cases here : other = name
  · rw [here, Function.update_self] at taken
    exact Or.inl ⟨here, taken⟩
  · rw [Function.update_of_ne here] at taken
    exact Or.inr taken

def empty : Directory where
  entries _ := none
  names _ := none
  inverse := InverseOn.empty _ _
  valid := nofun

variable (directory : Directory)

/-- A wallet without a name takes one that is free. -/
def link (wallet : Pubkey) (name : String) (claimedAt : Int64)
    (free : directory.entries name = none) (fresh : directory.names wallet = none)
    (handle : IsHandle name) : Directory where
  entries := Function.update directory.entries name (some ⟨wallet, claimedAt⟩)
  names := Function.update directory.names wallet (some name)
  inverse := by
    rw [owner_update]
    exact directory.inverse.link trivial trivial (by simp only [free, Option.map_none]) fresh
  valid other taken := by
    rcases isSome_update taken with ⟨same, _⟩ | before
    · rw [same]
      exact handle
    · exact directory.valid other before

def unlink (wallet : Pubkey) (name : String)
    (owned : (directory.entries name).map Entry.owner = some wallet) : Directory where
  entries := Function.update directory.entries name none
  names := Function.update directory.names wallet none
  inverse := by
    rw [owner_update]
    exact directory.inverse.unlink trivial trivial owned
  valid other taken := by
    rcases isSome_update taken with ⟨_, gone⟩ | before
    · cases gone
    · exact directory.valid other before

/-- Another wallet takes the name over, with the time of the claim. -/
def relink (old new : Pubkey) (name : String)
    (owned : (directory.entries name).map Entry.owner = some old)
    (fresh : directory.names new = none) : Directory where
  entries := Function.update directory.entries name
    ((directory.entries name).map fun entry => { entry with owner := new })
  names := Function.update (Function.update directory.names old none) new (some name)
  inverse := by
    have renamed : ((directory.entries name).map fun entry => { entry with owner := new }).map
        Entry.owner = some new := by
      obtain ⟨entry, found, _⟩ := Option.map_eq_some_iff.mp owned
      rw [found]
      rfl
    rw [owner_update, renamed]
    exact directory.inverse.relink trivial trivial trivial owned fresh
  valid other taken := by
    rcases isSome_update taken with ⟨same, before⟩ | before
    · rw [Option.isSome_map] at before
      rw [same]
      exact directory.valid name before
    · exact directory.valid other before

inductive Action
  | claim (now : Int64) (wallet : Pubkey) (name : String)
  | release (wallet : Pubkey) (name : String)
  | transfer (old new : Pubkey) (name : String)

/-- The machine of the directory. -/
def step : Action → Except Refusal Directory
  | .claim now wallet name => do
      let free ← ensure (directory.entries name = none) .taken
      let fresh ← ensure (directory.names wallet = none) .taken
      let handle ← ensure (IsHandle name) .invalid
      return directory.link wallet name now free.down fresh.down handle.down
  | .release wallet name => do
      let _ ← ensure (directory.names wallet).isSome .unset
      let owned ← ensure ((directory.entries name).map Entry.owner = some wallet) .notOwner
      return directory.unlink wallet name owned.down
  | .transfer old new name => do
      let _ ← ensure (directory.names old).isSome .unset
      let fresh ← ensure (directory.names new = none) .taken
      let owned ← ensure ((directory.entries name).map Entry.owner = some old) .notOwner
      return directory.relink old new name owned.down fresh.down

end Directory

/-- The Handle account of an entry, and the Reverse account of a wallet's name. -/
def handleAccount (rt : Runtime) (name : String) (entry : Entry) : Content :=
  .handle ⟨entry.owner, name, entry.claimedAt, (Handle.pda rt name).2⟩

def reverseAccount (rt : Runtime) (wallet : Pubkey) (name : String) : Content :=
  .reverse ⟨name, (Reverse.pda rt wallet).2⟩

/-- The accounts are the entries and the names, and there are no others. -/
structure Holds (rt : Runtime) (names : Set String) (wallets : Set Pubkey)
    (accounts : Pubkey → Option Content) (entries : String → Option Entry)
    (handles : Pubkey → Option String) : Prop where
  forward : ∀ name ∈ names, accounts (Handle.pda rt name).1 =
    (entries name).map (handleAccount rt name)
  backward : ∀ wallet ∈ wallets, accounts (Reverse.pda rt wallet).1 =
    (handles wallet).map (reverseAccount rt wallet)
  outside : ∀ key content, accounts key = some content →
    (∃ name ∈ names, key = (Handle.pda rt name).1) ∨ ∃ wallet ∈ wallets, key = (Reverse.pda rt wallet).1

def Represents (rt : Runtime) (names : Set String) (wallets : Set Pubkey) (state : State)
    (directory : Directory) : Prop :=
  Holds rt names wallets state.accounts directory.entries directory.names

section Writes

variable {rt : Runtime} {names : Set String} {wallets : Set Pubkey}
  {accounts : Pubkey → Option Content} {entries : String → Option Entry}
  {handles : Pubkey → Option String}
  (free : rt.CollisionFree (registryKeys names wallets))
  (holds : Holds rt names wallets accounts entries handles)
include free holds

theorem Holds.write_handle {name : String} (inNames : name ∈ names) (entry : Option Entry) :
    Holds rt names wallets
      (Function.update accounts (Handle.pda rt name).1 (entry.map (handleAccount rt name)))
      (Function.update entries name entry) handles where
  forward other inNames' := by
    by_cases same : other = name
    · rw [same, Function.update_self, Function.update_self]
    · have apart : (Handle.pda rt other).1 ≠ (Handle.pda rt name).1 := fun clash =>
        same (handle_pda_inj free inNames' inNames clash)
      rw [Function.update_of_ne apart, Function.update_of_ne same]
      exact holds.forward other inNames'
  backward wallet inWallets := by
    rw [Function.update_of_ne (handle_pda_ne_reverse_pda free inNames inWallets).symm]
    exact holds.backward wallet inWallets
  outside key content found := by
    rcases update_eq_some.mp found with ⟨here, _⟩ | ⟨_, before⟩
    · exact Or.inl ⟨name, inNames, here⟩
    · exact holds.outside key content before

theorem Holds.write_reverse {wallet : Pubkey} (inWallets : wallet ∈ wallets) (name : Option String) :
    Holds rt names wallets
      (Function.update accounts (Reverse.pda rt wallet).1 (name.map (reverseAccount rt wallet)))
      entries (Function.update handles wallet name) where
  forward other inNames := by
    rw [Function.update_of_ne (handle_pda_ne_reverse_pda free inNames inWallets)]
    exact holds.forward other inNames
  backward other inWallets' := by
    by_cases same : other = wallet
    · rw [same, Function.update_self, Function.update_self]
    · have apart : (Reverse.pda rt other).1 ≠ (Reverse.pda rt wallet).1 := fun clash =>
        same (reverse_pda_inj free inWallets' inWallets clash)
      rw [Function.update_of_ne apart, Function.update_of_ne same]
      exact holds.backward other inWallets'
  outside key content found := by
    rcases update_eq_some.mp found with ⟨here, _⟩ | ⟨_, before⟩
    · exact Or.inr ⟨wallet, inWallets, here⟩
    · exact holds.outside key content before

end Writes

/-- A Handle account that is found lies where its name says and is the name's entry. -/
theorem Holds.found {rt : Runtime} {names : Set String} {wallets : Set Pubkey}
    {accounts : Pubkey → Option Content} {entries : String → Option Entry}
    {handles : Pubkey → Option String} (holds : Holds rt names wallets accounts entries handles)
    {key : Pubkey} {handle : Handle} (loaded : accounts key = some (.handle handle)) :
    handle.name ∈ names ∧ (key, handle.bump) = Handle.pda rt handle.name ∧
      entries handle.name = some ⟨handle.owner, handle.claimedAt⟩ := by
  rcases holds.outside key _ loaded with ⟨name, inNames, here⟩ | ⟨wallet, inWallets, here⟩
  · rw [here, holds.forward name inNames] at loaded
    obtain ⟨entry, found, same⟩ := Option.map_eq_some_iff.mp loaded
    have same := Content.handle.inj same
    rw [← same, here]
    exact ⟨inNames, rfl, found⟩
  · rw [here, holds.backward wallet inWallets] at loaded
    obtain ⟨_, _, same⟩ := Option.map_eq_some_iff.mp loaded
    cases same

section Instructions

variable {rt : Runtime} {state next : State}

theorem State.transfer_of_funds {source target : Pubkey} {amount : Nat}
    (funds : amount ≤ state.lamports source) :
    state.transfer source target amount =
      .ok ⟨Holdings.move state.lamports source target amount, state.accounts⟩ := by
  rw [State.transfer, require_of_true funds]
  rfl

theorem State.init_used {payer : AccountMeta} {key : Pubkey} {space : Nat} {zeroed : Content}
    (used : (state.accounts key).isSome) :
    state.init rt payer key space zeroed = .error (.program .accountAlreadyInUse) := by
  have taken : ¬ (state.accounts key).isNone = true := by
    rw [Option.isNone_iff_eq_none]
    exact Option.isSome_iff_ne_none.mp used
  simp only [State.init, require, taken]
  rfl

/-- An unused address is opened by whoever can pay what is missing of its rent. -/
theorem State.init_opens {payer : AccountMeta} {key : Pubkey} {space : Nat} {zeroed : Content}
    (writable : payer.isWritable = true) (unused : state.accounts key = none)
    (funds : rt.minimumBalance space - state.lamports key ≤ state.lamports payer.pubkey) :
    state.init rt payer key space zeroed =
      .ok ⟨Holdings.move state.lamports payer.pubkey key (rt.minimumBalance space - state.lamports key),
        Function.update state.accounts key (some zeroed)⟩ := by
  have vacant : (state.accounts key).isNone = true := by rw [unused]; rfl
  have charged := (payer.charged_eq_ok (rt.minimumBalance space - state.lamports key) ()).mpr
    (Or.inr writable)
  rw [State.init, require_of_true vacant, ok_bind, charged, ok_bind, State.transfer_of_funds funds]
  rfl

/-- What a claim costs: the missing rent of both accounts, and the deposit. -/
def claimCost (rt : Runtime) (state : State) (wallet : Pubkey) (name : String) : Nat :=
  (rt.minimumBalance Handle.space - state.lamports (Handle.pda rt name).1) +
    (rt.minimumBalance Reverse.space - state.lamports (Reverse.pda rt wallet).1) + ANTI_SQUAT_DEPOSIT

/-- A claim of a name that is a seed, signed by a writable claimer who can pay for it,
with the right accounts. -/
structure ClaimHandle.Proper (rt : Runtime) (state : State) (accounts : ClaimHandle) (name : String) :
    Prop where
  pays : accounts.claimer.pays rt = true
  short : (asBytes name).length ≤ 32
  forward : accounts.handleAccount = (Handle.pda rt name).1
  backward : accounts.reverseAccount = (Reverse.pda rt accounts.claimer.pubkey).1
  affords : claimCost rt state accounts.claimer.pubkey name ≤ state.lamports accounts.claimer.pubkey

/-- A claim that succeeds is proper. -/
theorem claimHandle_proper {clock : Clock} {accounts : ClaimHandle} {name : String}
    (success : claimHandle rt clock state accounts name = .ok next) :
    accounts.Proper rt state name := by
  simp only [claimHandle, bind_eq_ok, require_eq_ok, exists_const] at success
  obtain ⟨signed, short, here, first, opened, there, second, opened', writable, _, _, paid⟩ :=
    success
  refine ⟨(AccountMeta.pays_iff _ _).mpr ⟨signed, writable⟩, short, here, there, ?_⟩
  rw [here] at opened
  rw [there] at opened'
  have not_forward := signer_ne signed (handle_keyless rt name)
  have not_backward := signer_ne signed (reverse_keyless rt accounts.claimer.pubkey)
  have apart : (Reverse.pda rt accounts.claimer.pubkey).1 ≠ (Handle.pda rt name).1 := by
    intro same
    have used := (State.init_accounts opened').1
    rw [(State.init_accounts opened).2, same, Function.update_self] at used
    cases used
  obtain ⟨funds, lamports⟩ := State.init_lamports opened
  obtain ⟨funds', lamports'⟩ := State.init_lamports opened'
  have deposit := (State.transfer_lamports paid).1
  rw [lamports, Holdings.move_source not_forward.symm, Holdings.move_of_ne not_backward apart]
    at funds'
  simp only [State.store_lamports] at deposit
  rw [lamports', Holdings.move_source not_backward.symm, lamports,
    Holdings.move_source not_forward.symm, Holdings.move_of_ne not_backward apart] at deposit
  unfold claimCost
  omega

/-- A proper claim: both addresses must be unused, and the name valid. -/
theorem claimHandle_eq {clock : Clock} {accounts : ClaimHandle} {name : String}
    (proper : accounts.Proper rt state name)
    (apart : (Reverse.pda rt accounts.claimer.pubkey).1 ≠ (Handle.pda rt name).1) :
    ∃ lamports, claimHandle rt clock state accounts name = do
      require ((state.accounts (Handle.pda rt name).1).isNone) (.program .accountAlreadyInUse)
      require ((state.accounts (Reverse.pda rt accounts.claimer.pubkey).1).isNone)
        (.program .accountAlreadyInUse)
      validateHandle name
      return ⟨lamports, Function.update
        (Function.update state.accounts (Handle.pda rt name).1
          (some (handleAccount rt name ⟨accounts.claimer.pubkey, clock.unixTimestamp⟩)))
        (Reverse.pda rt accounts.claimer.pubkey).1
        (some (reverseAccount rt accounts.claimer.pubkey name))⟩ := by
  obtain ⟨pays, short, here, there, affords⟩ := proper
  have ⟨signed, writable⟩ := (AccountMeta.pays_iff _ _).mp pays
  unfold claimCost at affords
  have not_forward := signer_ne signed (handle_keyless rt name)
  have not_backward := signer_ne signed (reverse_keyless rt accounts.claimer.pubkey)
  simp only [claimHandle, require_of_true signed, require_of_true short, ok_bind, here]
  rw [require_of_true trivial, ok_bind]
  cases taken : state.accounts (Handle.pda rt name).1 with
  | some content =>
      refine ⟨state.lamports, ?_⟩
      rw [State.init_used (by rw [taken]; rfl)]
      rfl
  | none =>
      let opened : State := ⟨Holdings.move state.lamports accounts.claimer.pubkey (Handle.pda rt name).1
          (rt.minimumBalance Handle.space - state.lamports (Handle.pda rt name).1),
        Function.update state.accounts (Handle.pda rt name).1 (some (.handle ⟨.default, "", 0, 0⟩))⟩
      have unseen : opened.accounts (Reverse.pda rt accounts.claimer.pubkey).1 =
          state.accounts (Reverse.pda rt accounts.claimer.pubkey).1 := Function.update_of_ne apart ..
      have funds : opened.lamports accounts.claimer.pubkey = state.lamports accounts.claimer.pubkey -
          (rt.minimumBalance Handle.space - state.lamports (Handle.pda rt name).1) :=
        Holdings.move_source not_forward.symm
      have kept : opened.lamports (Reverse.pda rt accounts.claimer.pubkey).1 =
          state.lamports (Reverse.pda rt accounts.claimer.pubkey).1 :=
        Holdings.move_of_ne not_backward apart
      rw [State.init_opens writable taken (by omega), ok_bind, require_of_true there, ok_bind, there]
      cases owned : state.accounts (Reverse.pda rt accounts.claimer.pubkey).1 with
      | some content =>
          refine ⟨state.lamports, ?_⟩
          rw [State.init_used (by rw [unseen, owned]; rfl)]
          rfl
      | none =>
          rw [State.init_opens writable (unseen.trans owned) (by omega), ok_bind,
            require_of_true writable, ok_bind]
          cases valid : validateHandle name with
          | error reason => exact ⟨state.lamports, rfl⟩
          | ok done =>
              have deposit : ANTI_SQUAT_DEPOSIT ≤ Holdings.move opened.lamports accounts.claimer.pubkey
                  (Reverse.pda rt accounts.claimer.pubkey).1
                  (rt.minimumBalance Reverse.space -
                    opened.lamports (Reverse.pda rt accounts.claimer.pubkey).1)
                  accounts.claimer.pubkey := by
                rw [Holdings.move_source not_backward.symm, funds, kept]
                omega
              rw [ok_bind, State.transfer_of_funds deposit]
              simp only [State.store]
              rw [Function.update_comm apart, Function.update_idem, Function.update_idem]
              exact ⟨_, rfl⟩

end Instructions

/-- The refusal that an error of the program stands for. -/
def refusalOf : Error → Option Directory.Refusal
  | .program .accountAlreadyInUse => some .taken
  | .anchor .accountNotInitialized => some .unset
  | .handle .notOwner => some .notOwner
  | .handle _ => some .invalid
  | _ => none

abbrev Agrees {α β : Type} (rel : α → β → Prop) :
    Except Error α → Except Directory.Refusal β → Prop :=
  Refinement.Agree rel refusalOf

theorem agrees_ensure {condition asked : Prop} [Decidable condition] [Decidable asked]
    (same : condition ↔ asked) {error : Error} {refusal : Directory.Refusal}
    (reads : refusalOf error = some refusal) :
    Agrees (fun _ _ => True) (require condition error) (Directory.ensure asked refusal) := by
  by_cases holds : condition
  · have asked : asked := same.mp holds
    simp only [require, holds, ↓reduceIte, Directory.ensure, asked, ↓reduceDIte]
    exact .ok trivial
  · have fails : ¬ asked := fun asked => holds (same.mpr asked)
    simp only [require, holds, ↓reduceIte, Directory.ensure, fails, ↓reduceDIte]
    exact .error reads

/-- What is refused for its form is invalid. -/
theorem validateHandle_agrees (name : String) :
    Agrees (fun _ _ => True) (validateHandle name) (Directory.ensure (IsHandle name) .invalid) := by
  cases outcome : validateHandle name with
  | ok done =>
      have handle := (validateHandle_iff done).mp outcome
      simp only [Directory.ensure, handle, ↓reduceDIte]
      exact .ok trivial
  | error reason =>
      have fails : ¬ IsHandle name := by
        rw [← validateHandle_iff (), outcome]
        exact nofun
      simp only [Directory.ensure, fails, ↓reduceDIte]
      apply Refinement.Agree.error
      simp only [validateHandle, bind_eq_error, require_eq_error, require_eq_ok, exists_const,
        okOr_eq_error, okOr_eq_ok] at outcome
      rcases outcome with ⟨_, same⟩ | ⟨long, ⟨_, same⟩ | ⟨_, ⟨missing, _⟩ | ⟨first, _, ⟨_, same⟩ |
        ⟨_, invalid | ⟨_, _, _, same⟩⟩⟩⟩⟩
      · rw [← same]; rfl
      · rw [← same]; rfl
      · have long : 3 ≤ (asBytes name).length := long
        rw [List.getElem?_eq_none_iff] at missing
        omega
      · rw [← same]; rfl
      · rw [validateBytes_error invalid]; rfl
      · rw [← same]; rfl

section Steps

variable {rt : Runtime} {names : Set String} {wallets : Set Pubkey} {state : State}
  {directory : Directory} (free : rt.CollisionFree (registryKeys names wallets))
  (represents : Represents rt names wallets state directory)
include free represents

/-- A proper claim. -/
theorem claimHandle_agrees {clock : Clock} {accounts : ClaimHandle} {name : String}
    (inNames : name ∈ names) (inWallets : accounts.claimer.pubkey ∈ wallets)
    (proper : accounts.Proper rt state name) :
    Agrees (Represents rt names wallets) (claimHandle rt clock state accounts name)
      (directory.step (.claim clock.unixTimestamp accounts.claimer.pubkey name)) := by
  obtain ⟨lamports, equation⟩ := @claimHandle_eq rt state clock accounts name proper
    (handle_pda_ne_reverse_pda free inNames inWallets).symm
  rw [equation, represents.forward name inNames, represents.backward _ inWallets]
  have vacant : ((directory.entries name).map (handleAccount rt name)).isNone = true ↔
      directory.entries name = none := by
    rw [Option.isNone_map, Option.isNone_iff_eq_none]
  have fresh : ((directory.names accounts.claimer.pubkey).map
      (reverseAccount rt accounts.claimer.pubkey)).isNone = true ↔
      directory.names accounts.claimer.pubkey = none := by
    rw [Option.isNone_map, Option.isNone_iff_eq_none]
  refine (agrees_ensure vacant rfl).bind fun _ _ _ _ => ?_
  refine (agrees_ensure fresh rfl).bind fun _ _ _ _ => ?_
  refine (validateHandle_agrees name).bind fun _ _ _ _ => .ok ?_
  exact (represents.write_handle free inNames (some ⟨_, _⟩)).write_reverse free inWallets (some name)

omit free in
/-- The Reverse account of a wallet, if it has a name. -/
theorem loadReverse_agrees {wallet : Pubkey} (inWallets : wallet ∈ wallets) :
    Agrees (fun reverse _ => reverse.bump = (Reverse.pda rt wallet).2)
      (state.loadReverse (Reverse.pda rt wallet).1)
      (Directory.ensure (directory.names wallet).isSome .unset) := by
  rw [State.loadReverse, represents.backward wallet inWallets]
  cases directory.names wallet with
  | none => exact .error rfl
  | some name => exact .ok rfl

/-- A release by whoever signs it and is refunded, of the name whose account is given. -/
theorem releaseHandle_agrees {accounts : ReleaseHandle} {handle : Handle}
    (inWallets : accounts.owner.pubkey ∈ wallets) (pays : accounts.owner.pays rt = true)
    (loaded : state.accounts accounts.handleAccount = some (.handle handle))
    (there : accounts.reverseAccount = (Reverse.pda rt accounts.owner.pubkey).1) :
    Agrees (Represents rt names wallets) (releaseHandle rt state accounts)
      (directory.step (.release accounts.owner.pubkey handle.name)) := by
  obtain ⟨inNames, derived, found⟩ := represents.found loaded
  have here : accounts.handleAccount = (Handle.pda rt handle.name).1 := congrArg Prod.fst derived
  have owns : handle.owner = accounts.owner.pubkey ↔
      (directory.entries handle.name).map Entry.owner = some accounts.owner.pubkey := by
    rw [found]
    exact Option.some_inj.symm
  have ⟨signed, writable⟩ := (AccountMeta.pays_iff _ _).mp pays
  simp only [releaseHandle, require_of_true signed, require_of_true writable, ok_bind,
    (State.loadHandle_eq_ok state _ handle).mpr loaded, there]
  refine (loadReverse_agrees represents inWallets).bind fun reverse _ _ bump => ?_
  have derived' : ((Reverse.pda rt accounts.owner.pubkey).1, reverse.bump) =
      Reverse.pda rt accounts.owner.pubkey := by rw [bump]
  rw [require_of_true derived, ok_bind]
  refine (agrees_ensure owns rfl).bind fun _ _ _ _ => ?_
  rw [require_of_true derived', ok_bind, here]
  refine .ok ?_
  exact (represents.write_handle free inNames none).write_reverse free inWallets none

omit free in
/-- The Reverse account of a wallet is opened if the wallet has no name. -/
theorem init_agrees {payer : AccountMeta} (writable : payer.isWritable = true) {wallet : Pubkey}
    (inWallets : wallet ∈ wallets)
    (funds : rt.minimumBalance Reverse.space - state.lamports (Reverse.pda rt wallet).1 ≤
      state.lamports payer.pubkey) (zeroed : Content) :
    Agrees (fun opened _ => opened.accounts =
        Function.update state.accounts (Reverse.pda rt wallet).1 (some zeroed))
      (state.init rt payer (Reverse.pda rt wallet).1 Reverse.space zeroed)
      (Directory.ensure (directory.names wallet = none) .taken) := by
  have account := represents.backward wallet inWallets
  cases named : directory.names wallet with
  | none =>
      rw [named] at account
      rw [State.init_opens writable account funds]
      exact .ok rfl
  | some name =>
      rw [named] at account
      rw [State.init_used (by rw [account]; rfl)]
      exact .error rfl

/-- A transfer that both sign and that can be paid. -/
theorem transferHandle_agrees {accounts : TransferHandle} {handle : Handle}
    (inWallets : accounts.currentOwner.pubkey ∈ wallets ∧ accounts.newOwner.pubkey ∈ wallets)
    (signed : accounts.currentOwner.pays rt = true ∧ accounts.newOwner.signed rt = true)
    (loaded : state.accounts accounts.handleAccount = some (.handle handle))
    (there : accounts.oldReverse = (Reverse.pda rt accounts.currentOwner.pubkey).1 ∧
      accounts.newReverse = (Reverse.pda rt accounts.newOwner.pubkey).1)
    (funds : rt.minimumBalance Reverse.space - state.lamports accounts.newReverse ≤
      state.lamports accounts.currentOwner.pubkey) :
    Agrees (Represents rt names wallets) (transferHandle rt state accounts)
      (directory.step (.transfer accounts.currentOwner.pubkey accounts.newOwner.pubkey handle.name)) := by
  obtain ⟨inNames, derived, found⟩ := represents.found loaded
  have here : accounts.handleAccount = (Handle.pda rt handle.name).1 := congrArg Prod.fst derived
  have owns : handle.owner = accounts.currentOwner.pubkey ↔
      (directory.entries handle.name).map Entry.owner = some accounts.currentOwner.pubkey := by
    rw [found]
    exact Option.some_inj.symm
  have ⟨pays, signed'⟩ := signed
  have ⟨signed, writable⟩ := (AccountMeta.pays_iff _ _).mp pays
  rw [there.2] at funds
  simp only [transferHandle, require_of_true signed, require_of_true signed', ok_bind,
    (State.loadHandle_eq_ok state _ handle).mpr loaded, there.1]
  refine (loadReverse_agrees represents inWallets.1).bind fun reverse _ _ bump => ?_
  have derived' : ((Reverse.pda rt accounts.currentOwner.pubkey).1, reverse.bump) =
      Reverse.pda rt accounts.currentOwner.pubkey := by rw [bump]
  rw [require_of_true there.2, ok_bind, there.2]
  refine (init_agrees represents writable inWallets.2 funds _).bind fun opened fresh _ written => ?_
  rw [require_of_true writable, ok_bind, require_of_true derived, ok_bind]
  refine (agrees_ensure owns rfl).bind fun _ owned _ _ => ?_
  rw [require_of_true derived', ok_bind, here]
  refine .ok ?_
  have apart := (handle_pda_ne_reverse_pda free inNames inWallets.2).symm
  have different : accounts.newOwner.pubkey ≠ accounts.currentOwner.pubkey := by
    intro same
    have named := (directory.inverse handle.name trivial accounts.currentOwner.pubkey trivial).mp
      owned.down
    rw [← same, fresh.down] at named
    cases named
  have after := ((represents.write_handle free inNames
      (some ⟨accounts.newOwner.pubkey, handle.claimedAt⟩)).write_reverse free inWallets.2
        (some handle.name)).write_reverse free inWallets.1 none
  rw [Function.update_comm different] at after
  have moved : ((directory.entries handle.name).map fun entry =>
      { entry with owner := accounts.newOwner.pubkey }) =
        some ⟨accounts.newOwner.pubkey, handle.claimedAt⟩ := by
    rw [found]
    rfl
  have bumped : handle.bump = (Handle.pda rt handle.name).2 := congrArg Prod.snd derived
  show Holds rt names wallets _ (Function.update directory.entries handle.name
    ((directory.entries handle.name).map fun entry =>
      { entry with owner := accounts.newOwner.pubkey })) _
  rw [moved]
  simp only [State.close, State.store, written, bumped]
  rw [Function.update_comm apart, Function.update_idem]
  exact after

end Steps

/-- A release signed by a writable owner, with the owner's Reverse account. -/
def ReleaseHandle.Proper (rt : Runtime) (accounts : ReleaseHandle) : Prop :=
  accounts.owner.pays rt = true ∧
    accounts.reverseAccount = (Reverse.pda rt accounts.owner.pubkey).1

/-- A transfer signed by both, with the Reverse accounts of both, that the old owner is
writable for and can pay. -/
def TransferHandle.Proper (rt : Runtime) (state : State) (accounts : TransferHandle) : Prop :=
  (accounts.currentOwner.pays rt = true ∧ accounts.newOwner.signed rt = true) ∧
    (accounts.oldReverse = (Reverse.pda rt accounts.currentOwner.pubkey).1 ∧
      accounts.newReverse = (Reverse.pda rt accounts.newOwner.pubkey).1) ∧
    rt.minimumBalance Reverse.space - state.lamports accounts.newReverse ≤
      state.lamports accounts.currentOwner.pubkey

instance (rt : Runtime) (state : State) (accounts : ClaimHandle) (name : String) :
    Decidable (accounts.Proper rt state name) :=
  decidable_of_iff (accounts.claimer.pays rt = true ∧ (asBytes name).length ≤ 32 ∧
      accounts.handleAccount = (Handle.pda rt name).1 ∧
      accounts.reverseAccount = (Reverse.pda rt accounts.claimer.pubkey).1 ∧
      claimCost rt state accounts.claimer.pubkey name ≤ state.lamports accounts.claimer.pubkey)
    ⟨fun all => ⟨all.1, all.2.1, all.2.2.1, all.2.2.2.1, all.2.2.2.2⟩,
      fun proper => ⟨proper.pays, proper.short, proper.forward, proper.backward, proper.affords⟩⟩

instance (rt : Runtime) (accounts : ReleaseHandle) : Decidable (accounts.Proper rt) :=
  inferInstanceAs (Decidable (_ ∧ _))

instance (rt : Runtime) (state : State) (accounts : TransferHandle) :
    Decidable (accounts.Proper rt state) := inferInstanceAs (Decidable (_ ∧ _ ∧ _))

/-- What an instruction asks of the directory, where it is proper and finds the account
of a name. -/
def observe (rt : Runtime) (state : State) : Instruction → Option Directory.Action
  | .claimHandle clock accounts name =>
      if accounts.Proper rt state name then
        some (.claim clock.unixTimestamp accounts.claimer.pubkey name)
      else none
  | .releaseHandle accounts =>
      match state.loadHandle accounts.handleAccount with
      | .ok handle =>
          if accounts.Proper rt then some (.release accounts.owner.pubkey handle.name) else none
      | .error _ => none
  | .transferHandle accounts =>
      match state.loadHandle accounts.handleAccount with
      | .ok handle =>
          if accounts.Proper rt state then
            some (.transfer accounts.currentOwner.pubkey accounts.newOwner.pubkey handle.name)
          else none
      | .error _ => none
  | .gift _ _ _ => none

section Observed

variable {rt : Runtime} {names : Set String} {wallets : Set Pubkey} {state next : State}
  {instruction : Instruction} {action : Directory.Action} {directory : Directory}

/-- Only a gift succeeds without asking anything of the directory. -/
theorem gift_of_unobserved (hidden : observe rt state instruction = none)
    (success : step rt state instruction = .ok next) :
    ∃ source target amount, instruction = .gift source target amount := by
  cases instruction with
  | gift source target amount => exact ⟨source, target, amount, rfl⟩
  | claimHandle clock accounts name =>
      have proper : accounts.Proper rt state name := claimHandle_proper success
      simp only [observe, proper, ↓reduceIte, reduceCtorEq] at hidden
  | releaseHandle accounts =>
      simp only [step, releaseHandle, bind_eq_ok, require_eq_ok, exists_const] at success
      obtain ⟨signed, handle, loaded, reverse, _, writable, _, _, derived, _⟩ := success
      have proper : accounts.Proper rt :=
        ⟨(AccountMeta.pays_iff _ _).mpr ⟨signed, writable⟩, congrArg Prod.fst derived⟩
      simp only [observe, loaded, proper, ↓reduceIte, reduceCtorEq] at hidden
  | transferHandle accounts =>
      simp only [step, transferHandle, bind_eq_ok, require_eq_ok, exists_const] at success
      obtain ⟨signed, signed', handle, loaded, reverse, _, fresh, opened, created, writable, _, _,
        derived, _⟩ := success
      have proper : accounts.Proper rt state :=
        ⟨⟨(AccountMeta.pays_iff _ _).mpr ⟨signed, writable⟩, signed'⟩,
          ⟨congrArg Prod.fst derived, fresh⟩, (State.init_lamports created).1⟩
      simp only [observe, loaded, proper, ↓reduceIte, reduceCtorEq] at hidden

/-- An observed instruction does what it asks, or is refused for the reason. -/
theorem step_agrees (free : rt.CollisionFree (registryKeys names wallets))
    (represents : Represents rt names wallets state directory)
    (inPlay : InPlay names wallets instruction) (observed : observe rt state instruction = some action) :
    Agrees (Represents rt names wallets) (step rt state instruction) (directory.step action) := by
  cases instruction with
  | gift source target amount => cases observed
  | claimHandle clock accounts name =>
      obtain ⟨proper, same⟩ := Option.ite_none_right_eq_some.mp observed
      rw [← Option.some.inj same]
      exact claimHandle_agrees free represents inPlay.1 inPlay.2 proper
  | releaseHandle accounts =>
      cases loaded : state.loadHandle accounts.handleAccount with
      | error reason => simp only [observe, loaded, reduceCtorEq] at observed
      | ok handle =>
          simp only [observe, loaded, Option.ite_none_right_eq_some] at observed
          obtain ⟨⟨pays, there⟩, same⟩ := observed
          rw [← Option.some.inj same]
          exact releaseHandle_agrees free represents inPlay pays
            ((State.loadHandle_eq_ok _ _ _).mp loaded) there
  | transferHandle accounts =>
      cases loaded : state.loadHandle accounts.handleAccount with
      | error reason => simp only [observe, loaded, reduceCtorEq] at observed
      | ok handle =>
          simp only [observe, loaded, Option.ite_none_right_eq_some] at observed
          obtain ⟨⟨signed, there, funds⟩, same⟩ := observed
          rw [← Option.some.inj same]
          exact transferHandle_agrees free represents inPlay signed
            ((State.loadHandle_eq_ok _ _ _).mp loaded) there funds

theorem registry_simulates (free : rt.CollisionFree (registryKeys names wallets))
    {instructions : List Instruction}
    (inPlay : ∀ instruction ∈ instructions, InPlay names wallets instruction) :
    Refinement.Simulates (step rt) Directory.step (observe rt) refusalOf (Represents rt names wallets)
      instructions where
  seen _ _ _ _ member represents observed :=
    step_agrees free represents (inPlay _ member) observed
  unseen state directory instruction next _ represents hidden success := by
    obtain ⟨source, target, amount, same⟩ := gift_of_unobserved hidden success
    rw [same] at success
    simp only [step, bind_eq_ok, require_eq_ok, exists_const] at success
    unfold Represents
    rw [State.transfer_accounts success.2]
    exact represents

/-- The lamports behind a directory: the rent and the deposit of every name that is taken,
and the rent of the account of every wallet that has one. -/
structure Backed (rt : Runtime) (names : Set String) (wallets : Set Pubkey) (state : State)
    (directory : Directory) : Prop where
  forward : ∀ name ∈ names, (directory.entries name).isSome →
    rt.minimumBalance Handle.space + ANTI_SQUAT_DEPOSIT ≤ state.lamports (Handle.pda rt name).1
  backward : ∀ wallet ∈ wallets, (directory.names wallet).isSome →
    rt.minimumBalance Reverse.space ≤ state.lamports (Reverse.pda rt wallet).1

theorem Represents.backed (represents : Represents rt names wallets state directory)
    (funded : Funded rt state) : Backed rt names wallets state directory where
  forward name inNames taken := by
    obtain ⟨entry, found⟩ := Option.isSome_iff_exists.mp taken
    have account := represents.forward name inNames
    rw [found] at account
    exact funded.reserve _ _ account
  backward wallet inWallets taken := by
    obtain ⟨name, found⟩ := Option.isSome_iff_exists.mp taken
    have account := represents.backward wallet inWallets
    rw [found] at account
    exact funded.reserve _ _ account

theorem run_funded (rt : Runtime) (lamports : Pubkey → Nat) (instructions : List Instruction) :
    Funded rt (Run.run (step rt) (State.empty lamports) instructions) := by
  apply Run.run_invariant (Funded.empty rt lamports)
  intro current instruction next _ funded success
  exact funded.step success

theorem represents_empty (rt : Runtime) (names : Set String) (wallets : Set Pubkey)
    (lamports : Pubkey → Nat) : Represents rt names wallets (State.empty lamports) Directory.empty where
  forward _ _ := rfl
  backward _ _ := rfl
  outside _ _ found := by cases found

end Observed

/-- In every run of the registry the accounts are those of the directory that the
observed instructions make of the empty one, with the lamports behind it; each of these
succeeds, or is refused for the reason, that the directory says, and of the others only
gifts succeed. -/
theorem directory_refined (rt : Runtime) (names : Set String) (wallets : Set Pubkey)
    (free : rt.CollisionFree (registryKeys names wallets)) (lamports : Pubkey → Nat)
    (instructions : List Instruction)
    (inPlay : ∀ instruction ∈ instructions, InPlay names wallets instruction) :
    Represents rt names wallets (Run.run (step rt) (State.empty lamports) instructions)
      (Run.run Directory.step .empty
        (Refinement.observed (step rt) (observe rt) (State.empty lamports) instructions)) ∧
    Backed rt names wallets (Run.run (step rt) (State.empty lamports) instructions)
      (Run.run Directory.step .empty
        (Refinement.observed (step rt) (observe rt) (State.empty lamports) instructions)) ∧
    Refinement.verdicts (step rt) (observe rt) refusalOf (State.empty lamports) instructions =
      (Run.trace Directory.step .empty
        (Refinement.observed (step rt) (observe rt) (State.empty lamports) instructions)).map
          (fun entry => entry.2.mapError some) ∧
    ∀ state instruction next, observe rt state instruction = none →
      step rt state instruction = .ok next →
        ∃ source target amount, instruction = .gift source target amount := by
  have run := (registry_simulates free inPlay).run (represents_empty rt names wallets lamports)
  have backed := Represents.backed run.1 (run_funded rt lamports instructions)
  exact ⟨run.1, backed, run.2, fun _ _ _ hidden success => gift_of_unobserved hidden success⟩

section Sample

open Stede.Runtime (sampleKey)

def sampleNames : Set String := {"kay", "Kay"}

def sampleWallets : Set Pubkey := {sampleKey 3, sampleKey 5}

theorem sample_free : Runtime.sample.CollisionFree (registryKeys sampleNames sampleWallets) := by
  let keys : List (List UInt8 × Pubkey) :=
    (["kay", "Kay"].map fun name =>
      ([Handle.SEED_PREFIX, asBytes name].flatten, Programs.stedeHandleRegistry)) ++
    ([sampleKey 3, sampleKey 5].map fun wallet =>
      ([Reverse.SEED_PREFIX, wallet.bytes].flatten, Programs.stedeHandleRegistry))
  have distinct : Runtime.sample.CollisionFree {key | key ∈ keys} :=
    Runtime.CollisionFree.of_nodup (by decide +kernel)
  apply distinct.mono
  intro key inPlay
  rcases inPlay with ⟨name, known, same⟩ | ⟨wallet, known, same⟩
  · rcases known with here | here <;> simp [keys, same, show name = _ from here]
  · rcases known with here | here <;> simp [keys, same, show wallet = _ from here]

def sampleClaim (wallet : Pubkey) (name : String) : Instruction :=
  .claimHandle ⟨0, 1700000000⟩ ⟨⟨wallet, true, true⟩, (Handle.pda .sample name).1,
    (Reverse.pda .sample wallet).1⟩ name

def sampleRelease (wallet : Pubkey) (name : String) : Instruction :=
  .releaseHandle ⟨⟨wallet, true, true⟩, (Handle.pda .sample name).1, (Reverse.pda .sample wallet).1⟩

/-- Wallet 3 claims "kay", wallet 5 cannot but is given it, and releases it. -/
def sampleHistory : List Instruction :=
  [sampleClaim (sampleKey 3) "kay", sampleClaim (sampleKey 5) "kay",
    .transferHandle ⟨⟨sampleKey 3, true, true⟩, ⟨sampleKey 5, true, false⟩,
      (Handle.pda .sample "kay").1, (Reverse.pda .sample (sampleKey 3)).1,
      (Reverse.pda .sample (sampleKey 5)).1⟩,
    sampleRelease (sampleKey 3) "kay", sampleClaim (sampleKey 3) "Kay",
    sampleRelease (sampleKey 5) "kay"]

theorem sample_inPlay : ∀ instruction ∈ sampleHistory, InPlay sampleNames sampleWallets instruction := by
  simp [sampleHistory, sampleClaim, sampleRelease, InPlay, sampleNames, sampleWallets]

theorem directory_refined_sample :
    Represents .sample sampleNames sampleWallets
      (Run.run (step .sample) (State.empty fun _ => 1000000000) sampleHistory)
      (Run.run Directory.step .empty (Refinement.observed (step .sample) (observe .sample)
        (State.empty fun _ => 1000000000) sampleHistory)) ∧
    Backed .sample sampleNames sampleWallets
      (Run.run (step .sample) (State.empty fun _ => 1000000000) sampleHistory)
      (Run.run Directory.step .empty (Refinement.observed (step .sample) (observe .sample)
        (State.empty fun _ => 1000000000) sampleHistory)) := by
  obtain ⟨represents, backed, _⟩ := directory_refined .sample sampleNames sampleWallets sample_free
    (fun _ => 1000000000) sampleHistory sample_inPlay
  exact ⟨represents, backed⟩

example : Refinement.verdicts (step .sample) (observe .sample) refusalOf
      (State.empty fun _ => 1000000000) sampleHistory =
    [.ok (), .error (some .taken), .ok (), .error (some .unset), .error (some .invalid), .ok ()] := by
  decide +kernel

end Sample

end Stede.HandleRegistry
