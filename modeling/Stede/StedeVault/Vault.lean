import Mathlib
import Stede.Solana.Token

set_option autoImplicit false

/- The program `stede_vault`: accounts and instructions, over the token programs. -/
namespace Stede.StedeVault

/-- Vault config and locked-amount accounting. -/
structure Vault where
  admin : Pubkey
  underlyingMint : Pubkey
  stedeMint : Pubkey
  tokenVault : Pubkey
  lockedAmount : UInt64
  paused : Bool
  bump : UInt8

def Vault.SEED_PREFIX : List UInt8 := byteString "vault"

def Vault.pda (rt : Runtime) (underlyingMint : Pubkey) : Pubkey × UInt8 :=
  rt.pda [Vault.SEED_PREFIX, underlyingMint.bytes] Programs.stedeVault

structure State where
  ledger : TokenLedger
  vaults : Pubkey → Option Vault

namespace State

/-- `Account<Vault>`. -/
def loadVault (state : State) (key : Pubkey) : Except Error Vault :=
  okOr (state.vaults key) (.anchor .accountNotInitialized)

def putVault (state : State) (key : Pubkey) (vault : Vault) : State :=
  { state with vaults := Function.update state.vaults key (some vault) }

end State

structure InitializeVault where
  admin : AccountMeta
  underlyingMint : Pubkey
  vault : Pubkey
  stedeMint : AccountMeta
  tokenVault : AccountMeta
  tokenProgram : Pubkey
  underlyingTokenProgram : Pubkey

/-- The accounts that `wrap` and `unwrap` both name. -/
structure WrapAccounts where
  user : AccountMeta
  vault : Pubkey
  underlyingMint : Pubkey
  stedeMint : Pubkey
  tokenVault : Pubkey
  userUnderlyingAta : Pubkey
  userStedeAta : Pubkey
  tokenProgram : Pubkey
  underlyingTokenProgram : Pubkey

structure SetPaused where
  admin : AccountMeta
  vault : Pubkey

/-- `initialize_vault`. The Stede mint has the hook extension, no fee, and the
vault as its authority. The admin is charged for the vault's account, which has no
lamports yet, and the token account signs for its own creation. -/
def initializeVault (rt : Runtime) (state : State) (accounts : InitializeVault) :
    Except Error State := do
  require (accounts.admin.signed rt) (.anchor .accountNotSigner)
  let underlyingMint ← state.ledger.loadMint accounts.underlyingMint
  require (accounts.tokenProgram = Programs.token2022) (.anchor .invalidProgramId)
  require (accounts.underlyingTokenProgram = Programs.token ∨
    accounts.underlyingTokenProgram = Programs.token2022) (.anchor .invalidProgramId)
  require (accounts.vault = (Vault.pda rt accounts.underlyingMint).1) (.anchor .constraintSeeds)
  require ((state.vaults accounts.vault).isNone ∧ (state.ledger.mints accounts.vault).isNone ∧
    (state.ledger.accounts accounts.vault).isNone) (.program .accountAlreadyInUse)
  require (accounts.admin.isWritable) (.program .privilegeEscalation)
  require (accounts.tokenVault.signed rt ∧ accounts.tokenVault.isWritable)
    (.program .privilegeEscalation)
  let ledger ← state.ledger.initializeAccount accounts.underlyingTokenProgram
    accounts.tokenVault.pubkey accounts.underlyingMint accounts.vault
  require (accounts.stedeMint.isWritable) (.anchor .constraintMut)
  require (accounts.stedeMint.signed rt) (.anchor .constraintSigner)
  let ledger ← ledger.initializeMint accounts.stedeMint.pubkey
    ⟨accounts.tokenProgram, underlyingMint.decimals, 0, some accounts.vault, none, true⟩
  return State.putVault ⟨ledger, state.vaults⟩ accounts.vault
    ⟨accounts.admin.pubkey, accounts.underlyingMint, accounts.stedeMint.pubkey,
      accounts.tokenVault.pubkey, 0, false, (Vault.pda rt accounts.underlyingMint).2⟩

/-- What both instructions check, except for the user's two token accounts. -/
def WrapAccounts.tryVault (rt : Runtime) (state : State) (accounts : WrapAccounts) :
    Except Error (Vault × Mint × Mint) := do
  require (accounts.user.signed rt) (.anchor .accountNotSigner)
  let vault ← state.loadVault accounts.vault
  let underlyingMint ← state.ledger.loadMint accounts.underlyingMint
  let stedeMint ← state.ledger.loadMint accounts.stedeMint
  let _ ← state.ledger.loadAccount accounts.tokenVault
  require (accounts.tokenProgram = Programs.token2022) (.anchor .invalidProgramId)
  require (accounts.underlyingTokenProgram = Programs.token ∨
    accounts.underlyingTokenProgram = Programs.token2022) (.anchor .invalidProgramId)
  require (accounts.user.isWritable) (.anchor .constraintMut)
  require ((accounts.vault, vault.bump) = Vault.pda rt accounts.underlyingMint)
    (.anchor .constraintSeeds)
  require (vault.underlyingMint = accounts.underlyingMint) (.vault .mintMismatch)
  require (vault.stedeMint = accounts.stedeMint) (.vault .mintMismatch)
  require (vault.tokenVault = accounts.tokenVault) (.vault .mintMismatch)
  return (vault, underlyingMint, stedeMint)

/-- `token::mint` and `token::authority` of the user's underlying account. -/
def WrapAccounts.tryUnderlyingAta (state : State) (accounts : WrapAccounts) : Except Error Unit := do
  let account ← state.ledger.loadAccount accounts.userUnderlyingAta
  require (account.owner = accounts.user.pubkey) (.anchor .constraintTokenOwner)
  require (account.mint = accounts.underlyingMint) (.anchor .constraintTokenMint)

/-- And of the user's Stede account, with `token::token_program`. -/
def WrapAccounts.tryStedeAta (state : State) (accounts : WrapAccounts) (stedeMint : Mint) :
    Except Error Unit := do
  let account ← state.ledger.loadAccount accounts.userStedeAta
  require (account.owner = accounts.user.pubkey) (.anchor .constraintTokenOwner)
  require (account.mint = accounts.stedeMint) (.anchor .constraintTokenMint)
  require (stedeMint.program = accounts.tokenProgram) (.anchor .constraintTokenTokenProgram)

/-- `wrap`: the underlying moves in, Stede is minted, the books are updated. -/
def wrap (rt : Runtime) (state : State) (accounts : WrapAccounts) (amount : UInt64)
    (permitted : Bool) : Except Error State := do
  let (vault, underlyingMint, stedeMint) ← accounts.tryVault rt state
  accounts.tryUnderlyingAta state
  accounts.tryStedeAta state stedeMint
  require (vault.paused = false) (.vault .paused)
  require (0 < amount) (.vault .zeroAmount)
  let ledger ← state.ledger.transferChecked accounts.underlyingTokenProgram
    accounts.userUnderlyingAta accounts.underlyingMint accounts.tokenVault accounts.user.pubkey
    amount underlyingMint.decimals permitted
  let ledger ← ledger.mintTo accounts.tokenProgram accounts.stedeMint accounts.userStedeAta
    accounts.vault amount
  let lockedAmount ← okOr (Checked.addU64 vault.lockedAmount amount) (.vault .overflow)
  return State.putVault ⟨ledger, state.vaults⟩ accounts.vault { vault with lockedAmount := lockedAmount }

/-- `unwrap`: Stede is burned, the underlying moves out, the books are updated. -/
def unwrap (rt : Runtime) (state : State) (accounts : WrapAccounts) (amount : UInt64)
    (permitted : Bool) : Except Error State := do
  let (vault, underlyingMint, stedeMint) ← accounts.tryVault rt state
  accounts.tryStedeAta state stedeMint
  accounts.tryUnderlyingAta state
  require (vault.paused = false) (.vault .paused)
  require (0 < amount) (.vault .zeroAmount)
  require (amount ≤ vault.lockedAmount) (.vault .insufficientLocked)
  let ledger ← state.ledger.burn accounts.tokenProgram accounts.userStedeAta accounts.stedeMint
    accounts.user.pubkey amount
  let ledger ← ledger.transferChecked accounts.underlyingTokenProgram accounts.tokenVault
    accounts.underlyingMint accounts.userUnderlyingAta accounts.vault amount
    underlyingMint.decimals permitted
  let lockedAmount ← okOr (Checked.subU64 vault.lockedAmount amount) (.vault .overflow)
  return State.putVault ⟨ledger, state.vaults⟩ accounts.vault { vault with lockedAmount := lockedAmount }

/-- `set_paused`. -/
def setPaused (rt : Runtime) (state : State) (accounts : SetPaused) (paused : Bool) :
    Except Error State := do
  require (accounts.admin.signed rt) (.anchor .accountNotSigner)
  let vault ← state.loadVault accounts.vault
  require ((accounts.vault, vault.bump) = Vault.pda rt vault.underlyingMint) (.anchor .constraintSeeds)
  require (vault.admin = accounts.admin.pubkey) (.vault .unauthorized)
  return state.putVault accounts.vault { vault with paused := paused }

/-- What can happen to the vaults: their instructions, and what anyone can ask of
the token programs directly. -/
inductive Instruction
  | initializeVault (accounts : InitializeVault)
  | wrap (accounts : WrapAccounts) (amount : UInt64) (permitted : Bool)
  | unwrap (accounts : WrapAccounts) (amount : UInt64) (permitted : Bool)
  | setPaused (accounts : SetPaused) (paused : Bool)
  | transferChecked (program source mint target : Pubkey) (authority : AccountMeta)
      (amount : UInt64) (decimals : UInt8) (permitted : Bool)
  | mintTo (program mint target : Pubkey) (authority : AccountMeta) (amount : UInt64)
  | burn (program source mint : Pubkey) (authority : AccountMeta) (amount : UInt64)
  | initializeMint (key : AccountMeta) (mint : Mint)
  | initializeAccount (program : Pubkey) (key : AccountMeta) (mint owner : Pubkey)
  | setTransferFee (mint : Pubkey) (fee : TransferFee)

/-- A token instruction sent directly, whose signer has to sign. -/
def State.direct (rt : Runtime) (state : State) (signer : AccountMeta)
    (outcome : Except Error TokenLedger) : Except Error State := do
  require (signer.signed rt) (.anchor .accountNotSigner)
  let ledger ← outcome
  return ⟨ledger, state.vaults⟩

def step (rt : Runtime) (state : State) : Instruction → Except Error State
  | .initializeVault accounts => StedeVault.initializeVault rt state accounts
  | .wrap accounts amount permitted => StedeVault.wrap rt state accounts amount permitted
  | .unwrap accounts amount permitted => StedeVault.unwrap rt state accounts amount permitted
  | .setPaused accounts paused => StedeVault.setPaused rt state accounts paused
  | .transferChecked program source mint target authority amount decimals permitted =>
      state.direct rt authority (state.ledger.transferChecked program source mint target
        authority.pubkey amount decimals permitted)
  | .mintTo program mint target authority amount =>
      state.direct rt authority (state.ledger.mintTo program mint target authority.pubkey amount)
  | .burn program source mint authority amount =>
      state.direct rt authority (state.ledger.burn program source mint authority.pubkey amount)
  | .initializeMint key mint => state.direct rt key (state.ledger.initializeMint key.pubkey mint)
  | .initializeAccount program key mint owner =>
      state.direct rt key (state.ledger.initializeAccount program key.pubkey mint owner)
  | .setTransferFee mint fee => do
      let ledger ← state.ledger.setTransferFee mint fee
      return ⟨ledger, state.vaults⟩

theorem loadVault_eq_ok (state : State) (key : Pubkey) (vault : Vault) :
    state.loadVault key = .ok vault ↔ state.vaults key = some vault := okOr_eq_ok _ _ _

theorem direct_eq_ok (rt : Runtime) (state next : State) (signer : AccountMeta)
    (outcome : Except Error TokenLedger) :
    state.direct rt signer outcome = .ok next ↔
      signer.signed rt = true ∧ ∃ ledger, outcome = .ok ledger ∧ ⟨ledger, state.vaults⟩ = next := by
  simp only [State.direct, bind_eq_ok, require_eq_ok, exists_const, pure, Except.pure, Except.ok.injEq]

theorem tryVault_eq_ok (rt : Runtime) (state : State) (accounts : WrapAccounts) (vault : Vault)
    (underlyingMint stedeMint : Mint) :
    accounts.tryVault rt state = .ok (vault, underlyingMint, stedeMint) ↔
      accounts.user.pays rt = true ∧
      state.vaults accounts.vault = some vault ∧
      state.ledger.mints accounts.underlyingMint = some underlyingMint ∧
      state.ledger.mints accounts.stedeMint = some stedeMint ∧
      (∃ account, state.ledger.accounts accounts.tokenVault = some account) ∧
      accounts.tokenProgram = Programs.token2022 ∧
      (accounts.underlyingTokenProgram = Programs.token ∨
        accounts.underlyingTokenProgram = Programs.token2022) ∧
      (accounts.vault, vault.bump) = Vault.pda rt accounts.underlyingMint ∧
      vault.underlyingMint = accounts.underlyingMint ∧
      vault.stedeMint = accounts.stedeMint ∧
      vault.tokenVault = accounts.tokenVault := by
  simp only [WrapAccounts.tryVault, bind_eq_ok, require_eq_ok, exists_const, pure, Except.pure,
    Except.ok.injEq, loadVault_eq_ok, TokenLedger.loadMint_eq_ok, TokenLedger.loadAccount_eq_ok,
    Prod.mk.injEq, AccountMeta.pays_iff]
  constructor
  · rintro ⟨signed, vault', found, underlying', known, stede', known', account, held, program,
      program', writable, seeds, first, second, third, same, same', same''⟩
    subst same same' same''
    exact ⟨⟨signed, writable⟩, found, known, known', ⟨account, held⟩, program, program', seeds, first,
      second, third⟩
  · rintro ⟨⟨signed, writable⟩, found, known, known', ⟨account, held⟩, program, program', seeds, first,
      second, third⟩
    exact ⟨signed, vault, found, underlyingMint, known, stedeMint, known', account, held, program,
      program', writable, seeds, first, second, third, rfl, rfl, rfl⟩

theorem tryUnderlyingAta_eq_ok (state : State) (accounts : WrapAccounts) (result : Unit) :
    accounts.tryUnderlyingAta state = .ok result ↔
      ∃ account, state.ledger.accounts accounts.userUnderlyingAta = some account ∧
        account.owner = accounts.user.pubkey ∧ account.mint = accounts.underlyingMint := by
  simp only [WrapAccounts.tryUnderlyingAta, bind_eq_ok, require_eq_ok, exists_const,
    TokenLedger.loadAccount_eq_ok]

theorem tryStedeAta_eq_ok (state : State) (accounts : WrapAccounts) (stedeMint : Mint)
    (result : Unit) :
    accounts.tryStedeAta state stedeMint = .ok result ↔
      ∃ account, state.ledger.accounts accounts.userStedeAta = some account ∧
        account.owner = accounts.user.pubkey ∧ account.mint = accounts.stedeMint ∧
        stedeMint.program = accounts.tokenProgram := by
  simp only [WrapAccounts.tryStedeAta, bind_eq_ok, require_eq_ok, exists_const,
    TokenLedger.loadAccount_eq_ok]

theorem initializeVault_eq_ok (rt : Runtime) (state next : State) (accounts : InitializeVault) :
    initializeVault rt state accounts = .ok next ↔
      accounts.admin.pays rt = true ∧
      ∃ underlyingMint, state.ledger.mints accounts.underlyingMint = some underlyingMint ∧
      accounts.vault = (Vault.pda rt accounts.underlyingMint).1 ∧
      (state.vaults accounts.vault = none ∧ state.ledger.mints accounts.vault = none ∧
        state.ledger.accounts accounts.vault = none) ∧
      (accounts.tokenVault.signed rt = true ∧ accounts.tokenVault.isWritable = true) ∧
      ∃ opened, state.ledger.initializeAccount accounts.underlyingTokenProgram
        accounts.tokenVault.pubkey accounts.underlyingMint accounts.vault = .ok opened ∧
      accounts.tokenProgram = Programs.token2022 ∧
      (accounts.underlyingTokenProgram = Programs.token ∨
        accounts.underlyingTokenProgram = Programs.token2022) ∧
      (accounts.stedeMint.signed rt = true ∧ accounts.stedeMint.isWritable = true) ∧
      ∃ ledger, opened.initializeMint accounts.stedeMint.pubkey
        ⟨accounts.tokenProgram, underlyingMint.decimals, 0, some accounts.vault, none, true⟩ =
          .ok ledger ∧
      State.putVault ⟨ledger, state.vaults⟩ accounts.vault
        ⟨accounts.admin.pubkey, accounts.underlyingMint, accounts.stedeMint.pubkey,
          accounts.tokenVault.pubkey, 0, false, (Vault.pda rt accounts.underlyingMint).2⟩ = next := by
  simp only [initializeVault, bind_eq_ok, require_eq_ok, exists_const, pure, Except.pure,
    Except.ok.injEq, TokenLedger.loadMint_eq_ok, Option.isNone_iff_eq_none, AccountMeta.pays_iff]
  constructor
  · rintro ⟨signed, underlyingMint, known, program, program', derived, unused, writable, opening,
      opened, account, writable', signed', ledger, minted, same⟩
    exact ⟨⟨signed, writable⟩, underlyingMint, known, derived, unused, opening, opened, account,
      program, program', ⟨signed', writable'⟩, ledger, minted, same⟩
  · rintro ⟨⟨signed, writable⟩, underlyingMint, known, derived, unused, opening, opened, account,
      program, program', ⟨signed', writable'⟩, ledger, minted, same⟩
    exact ⟨signed, underlyingMint, known, program, program', derived, unused, writable, opening,
      opened, account, writable', signed', ledger, minted, same⟩

/-- What `wrap` needs and does, the accounts' checks left as they are. -/
theorem wrap_eq_ok (rt : Runtime) (state next : State) (accounts : WrapAccounts) (amount : UInt64)
    (permitted : Bool) :
    wrap rt state accounts amount permitted = .ok next ↔
      ∃ vault underlyingMint stedeMint,
        accounts.tryVault rt state = .ok (vault, underlyingMint, stedeMint) ∧
        accounts.tryUnderlyingAta state = .ok () ∧ accounts.tryStedeAta state stedeMint = .ok () ∧
        vault.paused = false ∧ 0 < amount ∧
      ∃ moved, state.ledger.transferChecked accounts.underlyingTokenProgram
        accounts.userUnderlyingAta accounts.underlyingMint accounts.tokenVault accounts.user.pubkey
        amount underlyingMint.decimals permitted = .ok moved ∧
      ∃ ledger, moved.mintTo accounts.tokenProgram accounts.stedeMint accounts.userStedeAta
        accounts.vault amount = .ok ledger ∧
      ∃ lockedAmount : UInt64, lockedAmount.toNat = vault.lockedAmount.toNat + amount.toNat ∧
        State.putVault ⟨ledger, state.vaults⟩ accounts.vault
          { vault with lockedAmount := lockedAmount } = next := by
  simp only [wrap, bind_eq_ok, require_eq_ok, exists_const, pure, Except.pure, Except.ok.injEq,
    okOr_eq_ok, Checked.addU64_eq_some, Prod.exists, tryUnderlyingAta_eq_ok, tryStedeAta_eq_ok]

/-- What `unwrap` needs and does. -/
theorem unwrap_eq_ok (rt : Runtime) (state next : State) (accounts : WrapAccounts) (amount : UInt64)
    (permitted : Bool) :
    unwrap rt state accounts amount permitted = .ok next ↔
      ∃ vault underlyingMint stedeMint,
        accounts.tryVault rt state = .ok (vault, underlyingMint, stedeMint) ∧
        accounts.tryStedeAta state stedeMint = .ok () ∧ accounts.tryUnderlyingAta state = .ok () ∧
        vault.paused = false ∧ 0 < amount ∧ amount ≤ vault.lockedAmount ∧
      ∃ burned, state.ledger.burn accounts.tokenProgram accounts.userStedeAta accounts.stedeMint
        accounts.user.pubkey amount = .ok burned ∧
      ∃ ledger, burned.transferChecked accounts.underlyingTokenProgram accounts.tokenVault
        accounts.underlyingMint accounts.userUnderlyingAta accounts.vault amount
        underlyingMint.decimals permitted = .ok ledger ∧
      ∃ lockedAmount : UInt64, lockedAmount.toNat + amount.toNat = vault.lockedAmount.toNat ∧
        State.putVault ⟨ledger, state.vaults⟩ accounts.vault
          { vault with lockedAmount := lockedAmount } = next := by
  simp only [unwrap, bind_eq_ok, require_eq_ok, exists_const, pure, Except.pure, Except.ok.injEq,
    okOr_eq_ok, Checked.subU64_eq_some, Prod.exists, tryUnderlyingAta_eq_ok, tryStedeAta_eq_ok]

theorem setPaused_eq_ok (rt : Runtime) (state next : State) (accounts : SetPaused) (paused : Bool) :
    setPaused rt state accounts paused = .ok next ↔
      accounts.admin.signed rt = true ∧
      ∃ vault, state.vaults accounts.vault = some vault ∧
        (accounts.vault, vault.bump) = Vault.pda rt vault.underlyingMint ∧
        vault.admin = accounts.admin.pubkey ∧
        state.putVault accounts.vault { vault with paused := paused } = next := by
  simp only [setPaused, bind_eq_ok, require_eq_ok, exists_const, pure, Except.pure, Except.ok.injEq,
    loadVault_eq_ok]

end Stede.StedeVault
