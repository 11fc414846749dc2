import Mathlib
import Stede.HandleRegistry.Validation
import Stede.Solana.Account

set_option autoImplicit false

/- The program `stede_handle_registry`: accounts and instructions. -/
namespace Stede.HandleRegistry

/-- The forward account of a name. -/
structure Handle where
  owner : Pubkey
  name : String
  claimedAt : Int64
  bump : UInt8

/-- The reverse account of a wallet. -/
structure Reverse where
  handle : String
  bump : UInt8

/-- What an account of the program holds. -/
inductive Content
  | handle (handle : Handle)
  | reverse (reverse : Reverse)

/-- `8 + Handle::INIT_SPACE` and `8 + Reverse::INIT_SPACE`. -/
def Handle.space : Nat := 8 + (32 + (4 + 20) + 8 + 1)
def Reverse.space : Nat := 8 + ((4 + 20) + 1)

def Handle.SEED_PREFIX : List UInt8 := byteString "handle"
def Reverse.SEED_PREFIX : List UInt8 := byteString "wallet"

def Handle.pda (rt : Runtime) (name : String) : Pubkey × UInt8 :=
  rt.pda [Handle.SEED_PREFIX, asBytes name] Programs.stedeHandleRegistry

def Reverse.pda (rt : Runtime) (wallet : Pubkey) : Pubkey × UInt8 :=
  rt.pda [Reverse.SEED_PREFIX, wallet.bytes] Programs.stedeHandleRegistry

/-- Anti-squat deposit, in lamports. 0.01 SOL. -/
def ANTI_SQUAT_DEPOSIT : Nat := 10000000

/-- The lamports of every address and the program's accounts. -/
structure State where
  lamports : Pubkey → Nat
  accounts : Pubkey → Option Content

namespace State

/-- A transfer by the System program. -/
def transfer (state : State) (source target : Pubkey) (amount : Nat) : Except Error State := do
  require (amount ≤ state.lamports source) (.program .insufficientFunds)
  let debited := Function.update state.lamports source (state.lamports source - amount)
  return { state with lamports := Function.update debited target (debited target + amount) }

/-- `init`: the address must be unused; what it holds already counts towards the
rent-exempt minimum, the payer adds the rest. -/
def init (rt : Runtime) (state : State) (payer : AccountMeta) (key : Pubkey) (space : Nat)
    (zeroed : Content) : Except Error State := do
  require ((state.accounts key).isNone) (.program .accountAlreadyInUse)
  payer.charged (rt.minimumBalance space - state.lamports key)
  let state ← state.transfer payer.pubkey key (rt.minimumBalance space - state.lamports key)
  return { state with accounts := Function.update state.accounts key (some zeroed) }

/-- Writing an account back when the instruction ends. -/
def store (state : State) (key : Pubkey) (content : Content) : State :=
  { state with accounts := Function.update state.accounts key (some content) }

/-- `close = target`: the whole balance moves and the account is gone. -/
def close (state : State) (key target : Pubkey) : State where
  lamports :=
    let emptied := Function.update state.lamports key 0
    Function.update emptied target (emptied target + state.lamports key)
  accounts := Function.update state.accounts key none

/-- `Account<Handle>`. -/
def loadHandle (state : State) (key : Pubkey) : Except Error Handle :=
  match state.accounts key with
  | some (.handle handle) => .ok handle
  | some (.reverse _) => .error (.anchor .accountDiscriminatorMismatch)
  | none => .error (.anchor .accountNotInitialized)

/-- `Account<Reverse>`. -/
def loadReverse (state : State) (key : Pubkey) : Except Error Reverse :=
  match state.accounts key with
  | some (.reverse reverse) => .ok reverse
  | some (.handle _) => .error (.anchor .accountDiscriminatorMismatch)
  | none => .error (.anchor .accountNotInitialized)

end State

structure ClaimHandle where
  claimer : AccountMeta
  handleAccount : Pubkey
  reverseAccount : Pubkey

structure ReleaseHandle where
  owner : AccountMeta
  handleAccount : Pubkey
  reverseAccount : Pubkey

structure TransferHandle where
  currentOwner : AccountMeta
  newOwner : AccountMeta
  handleAccount : Pubkey
  oldReverse : Pubkey
  newReverse : Pubkey

/-- `claim_handle`. A name over 32 bytes is no seed. -/
def claimHandle (rt : Runtime) (clock : Clock) (state : State) (accounts : ClaimHandle)
    (name : String) : Except Error State := do
  require (accounts.claimer.signed rt) (.anchor .accountNotSigner)
  let claimer := accounts.claimer.pubkey
  require ((asBytes name).length ≤ 32) (.program .maxSeedLengthExceeded)
  require (accounts.handleAccount = (Handle.pda rt name).1) (.anchor .constraintSeeds)
  let state ← state.init rt accounts.claimer accounts.handleAccount Handle.space
    (.handle ⟨.default, "", 0, 0⟩)
  require (accounts.reverseAccount = (Reverse.pda rt claimer).1) (.anchor .constraintSeeds)
  let state ← state.init rt accounts.claimer accounts.reverseAccount Reverse.space (.reverse ⟨"", 0⟩)
  require (accounts.claimer.isWritable) (.anchor .constraintMut)
  validateHandle name
  let state := state.store accounts.handleAccount
    (.handle ⟨claimer, name, clock.unixTimestamp, (Handle.pda rt name).2⟩)
  let state := state.store accounts.reverseAccount (.reverse ⟨name, (Reverse.pda rt claimer).2⟩)
  state.transfer claimer accounts.handleAccount ANTI_SQUAT_DEPOSIT

/-- `release_handle`: nothing here reads the handle stored in the reverse account. -/
def releaseHandle (rt : Runtime) (state : State) (accounts : ReleaseHandle) : Except Error State := do
  require (accounts.owner.signed rt) (.anchor .accountNotSigner)
  let owner := accounts.owner.pubkey
  let handleAccount ← state.loadHandle accounts.handleAccount
  let reverseAccount ← state.loadReverse accounts.reverseAccount
  require (accounts.owner.isWritable) (.anchor .constraintMut)
  require ((accounts.handleAccount, handleAccount.bump) = Handle.pda rt handleAccount.name)
    (.anchor .constraintSeeds)
  require (handleAccount.owner = owner) (.handle .notOwner)
  require ((accounts.reverseAccount, reverseAccount.bump) = Reverse.pda rt owner)
    (.anchor .constraintSeeds)
  return (state.close accounts.handleAccount owner).close accounts.reverseAccount owner

/-- `transfer_handle`: nor here. Both wallets sign. -/
def transferHandle (rt : Runtime) (state : State) (accounts : TransferHandle) :
    Except Error State := do
  require (accounts.currentOwner.signed rt) (.anchor .accountNotSigner)
  require (accounts.newOwner.signed rt) (.anchor .accountNotSigner)
  let currentOwner := accounts.currentOwner.pubkey
  let newOwner := accounts.newOwner.pubkey
  let handleAccount ← state.loadHandle accounts.handleAccount
  let oldReverse ← state.loadReverse accounts.oldReverse
  require (accounts.newReverse = (Reverse.pda rt newOwner).1) (.anchor .constraintSeeds)
  let state ← state.init rt accounts.currentOwner accounts.newReverse Reverse.space (.reverse ⟨"", 0⟩)
  require (accounts.currentOwner.isWritable) (.anchor .constraintMut)
  require ((accounts.handleAccount, handleAccount.bump) = Handle.pda rt handleAccount.name)
    (.anchor .constraintSeeds)
  require (handleAccount.owner = currentOwner) (.handle .notOwner)
  require ((accounts.oldReverse, oldReverse.bump) = Reverse.pda rt currentOwner)
    (.anchor .constraintSeeds)
  let state := state.store accounts.handleAccount (.handle { handleAccount with owner := newOwner })
  let state := state.store accounts.newReverse
    (.reverse ⟨handleAccount.name, (Reverse.pda rt newOwner).2⟩)
  return state.close accounts.oldReverse currentOwner

/-- What can happen to the registry: its three instructions, and lamports sent by
anyone to any address. -/
inductive Instruction
  | claimHandle (clock : Clock) (accounts : ClaimHandle) (name : String)
  | releaseHandle (accounts : ReleaseHandle)
  | transferHandle (accounts : TransferHandle)
  | gift (source : AccountMeta) (target : Pubkey) (amount : Nat)

def step (rt : Runtime) (state : State) : Instruction → Except Error State
  | .claimHandle clock accounts name => HandleRegistry.claimHandle rt clock state accounts name
  | .releaseHandle accounts => HandleRegistry.releaseHandle rt state accounts
  | .transferHandle accounts => HandleRegistry.transferHandle rt state accounts
  | .gift source target amount => do
      require (source.signed rt) (.anchor .accountNotSigner)
      state.transfer source.pubkey target amount

namespace State

theorem transfer_eq_ok (state next : State) (source target : Pubkey) (amount : Nat) :
    state.transfer source target amount = .ok next ↔
      amount ≤ state.lamports source ∧
      next = ⟨Function.update (Function.update state.lamports source (state.lamports source - amount))
        target (Function.update state.lamports source (state.lamports source - amount) target +
          amount), state.accounts⟩ := by
  simp only [transfer, bind_eq_ok, require_eq_ok, exists_const, pure, Except.pure, Except.ok.injEq]
  exact and_congr_right fun _ => eq_comm

/-- Lamport transfers leave the program's accounts alone. -/
theorem transfer_accounts {state next : State} {source target : Pubkey} {amount : Nat}
    (success : state.transfer source target amount = .ok next) : next.accounts = state.accounts := by
  rw [((transfer_eq_ok _ _ _ _ _).mp success).2]

theorem init_accounts {rt : Runtime} {state next : State} {payer : AccountMeta} {key : Pubkey}
    {space : Nat} {zeroed : Content} (success : state.init rt payer key space zeroed = .ok next) :
    state.accounts key = none ∧
      next.accounts = Function.update state.accounts key (some zeroed) := by
  simp only [init, bind_eq_ok, AccountMeta.charged_eq_ok, require_eq_ok, exists_const, pure,
    Except.pure, Except.ok.injEq, Option.isNone_iff_eq_none] at success
  obtain ⟨unused, _, paid, funded, same⟩ := success
  refine ⟨unused, ?_⟩
  rw [← same, ← transfer_accounts funded]

theorem loadHandle_eq_ok (state : State) (key : Pubkey) (handle : Handle) :
    state.loadHandle key = .ok handle ↔ state.accounts key = some (.handle handle) := by
  unfold loadHandle
  split <;> simp_all

theorem loadReverse_eq_ok (state : State) (key : Pubkey) (reverse : Reverse) :
    state.loadReverse key = .ok reverse ↔ state.accounts key = some (.reverse reverse) := by
  unfold loadReverse
  split <;> simp_all

end State

end Stede.HandleRegistry
