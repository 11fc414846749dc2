import Stede.HandleRegistry.Directory
import Stede.Sdk.Transfer

set_option autoImplicit false

/- `StedeClient` on names: what it resolves, and its methods that claim and release. -/
namespace Stede.Sdk

open HandleRegistry (Directory Entry Represents InPlay State asBytes registryKeys claimCost observe)

def deriveReversePda (rt : Runtime) (wallet : Pubkey) : Pubkey :=
  (rt.pda [byteString "wallet", wallet.bytes] STEDE_HANDLE_REGISTRY_PROGRAM_ID).1

structure HandleRecord where
  name : String
  owner : Pubkey
  claimedAt : Int

/-- `BN.toNumber` throws where a number is not exact. -/
def toNumber (value : Int64) : Option Int :=
  if -2 ^ 53 < value.toInt ∧ value.toInt < 2 ^ 53 then some value.toInt else none

/-- What `resolveHandle` returns; whatever throws is `null`. -/
def handleRecord (rt : Runtime) (handles : State) (name : String) : Option HandleRecord := do
  let data ← resolveHandle rt handles name
  let claimedAt ← toNumber data.claimedAt
  return ⟨data.name, data.owner, claimedAt⟩

def resolveWallet (rt : Runtime) (handles : State) (wallet : Pubkey) : Option String :=
  ((handles.loadReverse (deriveReversePda rt wallet)).toOption).map HandleRegistry.Reverse.handle

/-- `claimHandle` by the wallet of the provider. -/
def claimHandle (rt : Runtime) (wallet : Pubkey) (clock : Clock) (name : String) :
    HandleRegistry.Instruction :=
  .claimHandle clock ⟨⟨wallet, true, true⟩, deriveHandlePda rt name, deriveReversePda rt wallet⟩ name

def releaseHandle (rt : Runtime) (wallet : Pubkey) (name : String) : HandleRegistry.Instruction :=
  .releaseHandle ⟨⟨wallet, true, true⟩, deriveHandlePda rt name, deriveReversePda rt wallet⟩

/-- The client resolves names and wallets as the directory has them. A name that is no
seed is not asked for: its address cannot be derived. -/
structure Resolves (rt : Runtime) (names : Set String) (wallets : Set Pubkey) (handles : State)
    (directory : Directory) : Prop where
  handle : ∀ name ∈ names, (asBytes name).length ≤ 32 → handleRecord rt handles name =
    (directory.entries name).bind fun entry =>
      (toNumber entry.claimedAt).map fun claimedAt => ⟨name, entry.owner, claimedAt⟩
  wallet : ∀ wallet ∈ wallets, resolveWallet rt handles wallet = directory.names wallet

section Resolving

variable {rt : Runtime} {names : Set String} {wallets : Set Pubkey} {handles : State}
  {directory : Directory} (represents : Represents rt names wallets handles directory)
include represents

theorem represents_resolves : Resolves rt names wallets handles directory where
  handle name inNames _ := by
    have loads : handles.accounts (deriveHandlePda rt name) =
        (directory.entries name).map (HandleRegistry.handleAccount rt name) :=
      represents.forward name inNames
    rw [handleRecord, resolveHandle, State.loadHandle, loads]
    cases directory.entries name with
    | none => rfl
    | some entry =>
        show (toNumber entry.claimedAt).bind _ = (toNumber entry.claimedAt).map _
        cases toNumber entry.claimedAt <;> rfl
  wallet wallet inWallets := by
    have loads : handles.accounts (deriveReversePda rt wallet) =
        (directory.names wallet).map (HandleRegistry.reverseAccount rt wallet) :=
      represents.backward wallet inWallets
    rw [resolveWallet, State.loadReverse, loads]
    cases directory.names wallet <;> rfl

variable (free : rt.CollisionFree (registryKeys names wallets)) {wallet : Pubkey}
  (inWallets : wallet ∈ wallets) (signs : rt.canSign wallet = true)
include free inWallets signs

theorem claimHandle_agrees {name : String} (inNames : name ∈ names)
    (short : (asBytes name).length ≤ 32) (clock : Clock)
    (affords : claimCost rt handles wallet name ≤ handles.lamports wallet) :
    HandleRegistry.Agrees (Represents rt names wallets)
      (HandleRegistry.step rt handles (claimHandle rt wallet clock name))
      (directory.step (.claim clock.unixTimestamp wallet name)) := by
  have proper : HandleRegistry.ClaimHandle.Proper rt handles
      ⟨⟨wallet, true, true⟩, deriveHandlePda rt name, deriveReversePda rt wallet⟩ name :=
    ⟨AccountMeta.pays_of_canSign signs, short, rfl, rfl, affords⟩
  exact HandleRegistry.claimHandle_agrees free represents inNames inWallets proper

theorem releaseHandle_agrees {name : String} {entry : Entry} (inNames : name ∈ names)
    (found : directory.entries name = some entry) :
    HandleRegistry.Agrees (Represents rt names wallets)
      (HandleRegistry.step rt handles (releaseHandle rt wallet name))
      (directory.step (.release wallet name)) := by
  have loads : handles.accounts (deriveHandlePda rt name) =
      (directory.entries name).map (HandleRegistry.handleAccount rt name) :=
    represents.forward name inNames
  rw [found] at loads
  exact @HandleRegistry.releaseHandle_agrees rt names wallets handles directory free represents
    ⟨⟨wallet, true, true⟩, deriveHandlePda rt name, deriveReversePda rt wallet⟩ _ inWallets
    (AccountMeta.pays_of_canSign signs) loads rfl

end Resolving

section Runs

variable (rt : Runtime) (lamports : Pubkey → Nat) (instructions : List HandleRegistry.Instruction)

/-- The registry after a run, and the directory that the run makes. -/
def registryAfter : State := Run.run (HandleRegistry.step rt) (State.empty lamports) instructions

def directoryAfter : Directory :=
  Run.run Directory.step .empty
    (Refinement.observed (HandleRegistry.step rt) (observe rt) (State.empty lamports) instructions)

end Runs

/-- After any run of the registry the client resolves names and wallets as the directory
of that run has them, the two ways agree, and its methods do to the directory what they
are for: a wallet that can pay claims a name, and gives back one that is taken. -/
theorem handles_resolved (rt : Runtime) (names : Set String) (wallets : Set Pubkey)
    (free : rt.CollisionFree (registryKeys names wallets)) (lamports : Pubkey → Nat)
    (instructions : List HandleRegistry.Instruction)
    (inPlay : ∀ instruction ∈ instructions, InPlay names wallets instruction) :
    Resolves rt names wallets (registryAfter rt lamports instructions)
      (directoryAfter rt lamports instructions) ∧
    (∀ name ∈ names, (asBytes name).length ≤ 32 → ∀ record,
      handleRecord rt (registryAfter rt lamports instructions) name = some record →
      record.owner ∈ wallets →
        resolveWallet rt (registryAfter rt lamports instructions) record.owner = some name) ∧
    ∀ wallet ∈ wallets, rt.canSign wallet = true → ∀ name ∈ names, (asBytes name).length ≤ 32 →
      (∀ clock, claimCost rt (registryAfter rt lamports instructions) wallet name ≤
          (registryAfter rt lamports instructions).lamports wallet →
        HandleRegistry.Agrees (Resolves rt names wallets)
          (HandleRegistry.step rt (registryAfter rt lamports instructions)
            (claimHandle rt wallet clock name))
          ((directoryAfter rt lamports instructions).step (.claim clock.unixTimestamp wallet name))) ∧
      (((directoryAfter rt lamports instructions).entries name).isSome →
        HandleRegistry.Agrees (Resolves rt names wallets)
          (HandleRegistry.step rt (registryAfter rt lamports instructions)
            (releaseHandle rt wallet name))
          ((directoryAfter rt lamports instructions).step (.release wallet name))) := by
  have represents : Represents rt names wallets (registryAfter rt lamports instructions)
      (directoryAfter rt lamports instructions) :=
    ((HandleRegistry.registry_simulates free inPlay).run
      (HandleRegistry.represents_empty rt names wallets lamports)).1
  have resolves := represents_resolves represents
  refine ⟨resolves, ?_, ?_⟩
  · intro name inNames short record found inWallets
    rw [resolves.handle name inNames short] at found
    obtain ⟨entry, taken, found⟩ := Option.bind_eq_some_iff.mp found
    obtain ⟨claimedAt, _, same⟩ := Option.map_eq_some_iff.mp found
    rw [← same] at inWallets ⊢
    rw [resolves.wallet _ inWallets]
    apply (Directory.inverse _ name trivial _ trivial).mp
    show ((directoryAfter rt lamports instructions).entries name).map Entry.owner = some entry.owner
    rw [taken]
    rfl
  · intro wallet inWallets signs name inNames short
    refine ⟨fun clock affords => ?_, fun taken => ?_⟩
    · exact (claimHandle_agrees represents free inWallets signs inNames short clock affords).mono
        fun _ _ _ _ after => represents_resolves after
    · obtain ⟨entry, found⟩ := Option.isSome_iff_exists.mp taken
      exact (releaseHandle_agrees represents free inWallets signs inNames found).mono
        fun _ _ _ _ after => represents_resolves after

section Sample

open HandleRegistry (sampleNames sampleWallets sampleHistory sample_free sample_inPlay)

/-- The first three instructions leave the name with wallet 5; wallet 3 claims it in
vain, and its owner gives it back. -/
theorem handles_resolved_sample :
    Resolves .sample sampleNames sampleWallets
        (registryAfter .sample (fun _ => 1000000000) (sampleHistory.take 3))
        (directoryAfter .sample (fun _ => 1000000000) (sampleHistory.take 3)) ∧
      HandleRegistry.Agrees (Resolves .sample sampleNames sampleWallets)
        (HandleRegistry.step .sample
          (registryAfter .sample (fun _ => 1000000000) (sampleHistory.take 3))
          (claimHandle .sample (Runtime.sampleKey 3) ⟨0, 1700000000⟩ "kay"))
        ((directoryAfter .sample (fun _ => 1000000000) (sampleHistory.take 3)).step
          (.claim 1700000000 (Runtime.sampleKey 3) "kay")) ∧
      HandleRegistry.Agrees (Resolves .sample sampleNames sampleWallets)
        (HandleRegistry.step .sample
          (registryAfter .sample (fun _ => 1000000000) (sampleHistory.take 3))
          (releaseHandle .sample (Runtime.sampleKey 5) "kay"))
        ((directoryAfter .sample (fun _ => 1000000000) (sampleHistory.take 3)).step
          (.release (Runtime.sampleKey 5) "kay")) := by
  obtain ⟨resolves, _, methods⟩ := handles_resolved .sample sampleNames sampleWallets sample_free
    (fun _ => 1000000000) (sampleHistory.take 3)
    fun instruction member => sample_inPlay instruction (List.mem_of_mem_take member)
  have kay : "kay" ∈ sampleNames := by simp [sampleNames]
  have claims := methods (Runtime.sampleKey 3) (by simp [sampleWallets]) (by decide) "kay" kay (by decide)
  have releases := methods (Runtime.sampleKey 5) (by simp [sampleWallets]) (by decide) "kay" kay
    (by decide)
  exact ⟨resolves, claims.1 ⟨0, 1700000000⟩ (by decide +kernel), releases.2 (by decide +kernel)⟩

/-- After the transfer the name resolves to wallet 5, with the time of the claim. -/
example : ((handleRecord .sample
      (registryAfter .sample (fun _ => 1000000000) (sampleHistory.take 3)) "kay").map fun record =>
        (record.owner, record.claimedAt)) = some (Runtime.sampleKey 5, 1700000000) := by
  decide +kernel

end Sample

end Stede.Sdk
