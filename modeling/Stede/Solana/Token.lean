import Mathlib
import Stede.Lib.Checked
import Stede.Lib.Holdings
import Stede.Solana.Account

set_option autoImplicit false

/- The documented effects of the two token programs on mints and balances. -/
namespace Stede

/-- The transfer fee in force for a mint that charges one. -/
structure TransferFee where
  basisPoints : UInt16
  maximumFee : UInt64
  valid : basisPoints ≤ 10000

/-- `calculate_fee`: rounded up, then capped. -/
def TransferFee.calculate (fee : TransferFee) (amount : UInt64) : UInt64 :=
  .ofNat (min ((amount.toNat * fee.basisPoints.toNat + 9999) / 10000) fee.maximumFee.toNat)

/-- A mint. `guarded` marks one whose transfers a hook, a freeze or another
extension can refuse. -/
structure Mint where
  program : Pubkey
  decimals : UInt8
  supply : UInt64
  mintAuthority : Option Pubkey
  transferFee : Option TransferFee
  guarded : Bool

/-- What is withheld when `amount` moves. -/
def Mint.fee (mint : Mint) (amount : UInt64) : UInt64 :=
  match mint.transferFee with
  | some fee => fee.calculate amount
  | none => 0

/-- A token account. It belongs to the program of its mint. -/
structure TokenAccount where
  mint : Pubkey
  owner : Pubkey
  amount : UInt64

structure TokenLedger where
  mints : Pubkey → Option Mint
  accounts : Pubkey → Option TokenAccount

namespace TokenLedger

def put (ledger : TokenLedger) (key : Pubkey) (account : TokenAccount) : TokenLedger :=
  { ledger with accounts := Function.update ledger.accounts key (some account) }

def putMint (ledger : TokenLedger) (key : Pubkey) (mint : Mint) : TokenLedger :=
  { ledger with mints := Function.update ledger.mints key (some mint) }

/-- `InterfaceAccount<Mint>`. -/
def loadMint (ledger : TokenLedger) (key : Pubkey) : Except Error Mint :=
  okOr (ledger.mints key) (.anchor .accountNotInitialized)

/-- `InterfaceAccount<TokenAccount>`. -/
def loadAccount (ledger : TokenLedger) (key : Pubkey) : Except Error TokenAccount :=
  okOr (ledger.accounts key) (.anchor .accountNotInitialized)

/-- Creating and initializing a mint at an unused address. Only Token-2022 mints
have the fee extension. -/
def initializeMint (ledger : TokenLedger) (key : Pubkey) (mint : Mint) : Except Error TokenLedger := do
  require ((ledger.mints key).isNone ∧ (ledger.accounts key).isNone) (.program .accountAlreadyInUse)
  require (mint.program = Programs.token2022 ∨
    mint.program = Programs.token ∧ mint.transferFee.isNone) (.program .incorrectProgramId)
  return ledger.putMint key { mint with supply := 0 }

/-- Creating and initializing a token account at an unused address. -/
def initializeAccount (ledger : TokenLedger) (program key mint owner : Pubkey) :
    Except Error TokenLedger := do
  require ((ledger.mints key).isNone ∧ (ledger.accounts key).isNone) (.program .accountAlreadyInUse)
  let terms ← ledger.loadMint mint
  require (terms.program = program) (.program .incorrectProgramId)
  return ledger.put key ⟨mint, owner, 0⟩

/-- `transfer_checked` by the owner, whose signature the caller has verified.
`permitted` is what a guarded mint answers. A transfer to itself moves nothing. -/
def transferChecked (ledger : TokenLedger) (program source mint target authority : Pubkey)
    (amount : UInt64) (decimals : UInt8) (permitted : Bool) : Except Error TokenLedger := do
  let sourceAccount ← ledger.loadAccount source
  let terms ← ledger.loadMint mint
  let targetAccount ← ledger.loadAccount target
  require (terms.program = program) (.program .incorrectProgramId)
  require (amount ≤ sourceAccount.amount) (.program .insufficientFunds)
  require (sourceAccount.mint = mint ∧ targetAccount.mint = mint) (.program .mintMismatch)
  require (terms.decimals = decimals) (.program .mintDecimalsMismatch)
  require (sourceAccount.owner = authority) (.program .ownerMismatch)
  require (terms.guarded = true → permitted = true) (.program .transferRefused)
  if source = target then return ledger
  let received ← okOr (Checked.addU64 targetAccount.amount (amount - terms.fee amount))
    (.program .arithmeticOverflow)
  return (ledger.put source { sourceAccount with amount := sourceAccount.amount - amount }).put
    target { targetAccount with amount := received }

/-- `mint_to` by the mint authority. -/
def mintTo (ledger : TokenLedger) (program mint target authority : Pubkey) (amount : UInt64) :
    Except Error TokenLedger := do
  let targetAccount ← ledger.loadAccount target
  require (targetAccount.mint = mint) (.program .mintMismatch)
  let terms ← ledger.loadMint mint
  require (terms.program = program) (.program .incorrectProgramId)
  require (terms.mintAuthority = some authority) (.program .ownerMismatch)
  let received ← okOr (Checked.addU64 targetAccount.amount amount) (.program .arithmeticOverflow)
  let supply ← okOr (Checked.addU64 terms.supply amount) (.program .arithmeticOverflow)
  return (ledger.put target { targetAccount with amount := received }).putMint mint
    { terms with supply := supply }

/-- `burn` by the owner. -/
def burn (ledger : TokenLedger) (program source mint authority : Pubkey) (amount : UInt64) :
    Except Error TokenLedger := do
  let sourceAccount ← ledger.loadAccount source
  let terms ← ledger.loadMint mint
  require (terms.program = program) (.program .incorrectProgramId)
  require (amount ≤ sourceAccount.amount) (.program .insufficientFunds)
  require (sourceAccount.mint = mint) (.program .mintMismatch)
  require (sourceAccount.owner = authority) (.program .ownerMismatch)
  let supply ← okOr (Checked.subU64 terms.supply amount) (.program .arithmeticOverflow)
  return (ledger.put source { sourceAccount with amount := sourceAccount.amount - amount }).putMint
    mint { terms with supply := supply }

/-- A mint that charges a fee can charge a different one from some epoch on. -/
def setTransferFee (ledger : TokenLedger) (mint : Pubkey) (fee : TransferFee) :
    Except Error TokenLedger := do
  let terms ← ledger.loadMint mint
  require (terms.transferFee.isSome) (.program .invalidAccountData)
  return ledger.putMint mint { terms with transferFee := some fee }

def balance (ledger : TokenLedger) (key : Pubkey) : Nat :=
  match ledger.accounts key with
  | some account => account.amount.toNat
  | none => 0

def supply (ledger : TokenLedger) (key : Pubkey) : Nat :=
  match ledger.mints key with
  | some mint => mint.supply.toNat
  | none => 0

/-- The part of a balance that is in the given mint. -/
def holding (ledger : TokenLedger) (mint key : Pubkey) : Nat :=
  match ledger.accounts key with
  | some account => if account.mint = mint then account.amount.toNat else 0
  | none => 0

/-- No mint has more tokens in accounts than it issued. -/
def Issued (ledger : TokenLedger) : Prop :=
  ∀ mint, Holdings.Bounded (ledger.holding mint) (ledger.supply mint)

end TokenLedger

theorem TransferFee.calculate_le (fee : TransferFee) (amount : UInt64) :
    (fee.calculate amount).toNat ≤ amount.toNat := by
  have rate : fee.basisPoints.toNat ≤ 10000 := UInt16.le_iff_toNat_le.mp fee.valid
  have product : amount.toNat * fee.basisPoints.toNat ≤ amount.toNat * 10000 :=
    Nat.mul_le_mul_left _ rate
  have fits := amount.toNat_lt
  have bound : min ((amount.toNat * fee.basisPoints.toNat + 9999) / 10000) fee.maximumFee.toNat <
      2 ^ 64 := by omega
  unfold calculate
  rw [UInt64.toNat_ofNat_of_lt' bound]
  omega

theorem Mint.fee_le (mint : Mint) (amount : UInt64) : mint.fee amount ≤ amount := by
  unfold fee
  split
  · exact UInt64.le_iff_toNat_le.mpr (TransferFee.calculate_le _ amount)
  · exact UInt64.zero_le

/-- What arrives of `amount`. -/
theorem Mint.credit_toNat (mint : Mint) (amount : UInt64) :
    (amount - mint.fee amount).toNat = amount.toNat - (mint.fee amount).toNat :=
  UInt64.toNat_sub_of_le _ _ (mint.fee_le amount)

theorem Mint.credit_of_feeless {mint : Mint} (feeless : mint.transferFee = none) (amount : UInt64) :
    (amount - mint.fee amount).toNat = amount.toNat := by
  have free : mint.fee amount = 0 := by simp only [fee, feeless]
  rw [mint.credit_toNat, free]
  exact Nat.sub_zero _

/-- What no token instruction changes about a mint. A mint without a fee never
gets one. -/
structure Mint.SameTerms (before after : Mint) : Prop where
  program : after.program = before.program
  decimals : after.decimals = before.decimals
  mintAuthority : after.mintAuthority = before.mintAuthority
  guarded : after.guarded = before.guarded
  feeless : before.transferFee = none → after.transferFee = none

theorem Mint.SameTerms.refl (mint : Mint) : mint.SameTerms mint := ⟨rfl, rfl, rfl, rfl, id⟩

theorem Mint.SameTerms.trans {first second third : Mint} (left : first.SameTerms second)
    (right : second.SameTerms third) : first.SameTerms third where
  program := right.program.trans left.program
  decimals := right.decimals.trans left.decimals
  mintAuthority := right.mintAuthority.trans left.mintAuthority
  guarded := right.guarded.trans left.guarded
  feeless free := right.feeless (left.feeless free)

namespace TokenLedger

/-- Mints keep their terms, token accounts their mint and owner. -/
structure Extends (before after : TokenLedger) : Prop where
  mints : ∀ key terms, before.mints key = some terms →
    ∃ terms', after.mints key = some terms' ∧ terms.SameTerms terms'
  accounts : ∀ key account, before.accounts key = some account →
    ∃ account', after.accounts key = some account' ∧ account'.mint = account.mint ∧
      account'.owner = account.owner

theorem Extends.refl (ledger : TokenLedger) : ledger.Extends ledger where
  mints _ terms found := ⟨terms, found, .refl terms⟩
  accounts _ account found := ⟨account, found, rfl, rfl⟩

theorem Extends.trans {first second third : TokenLedger} (left : first.Extends second)
    (right : second.Extends third) : first.Extends third where
  mints key terms found := by
    have ⟨terms', found', same⟩ := left.mints key terms found
    have ⟨terms'', found'', same'⟩ := right.mints key terms' found'
    exact ⟨terms'', found'', same.trans same'⟩
  accounts key account found := by
    have ⟨account', found', mint, owner⟩ := left.accounts key account found
    have ⟨account'', found'', mint', owner'⟩ := right.accounts key account' found'
    exact ⟨account'', found'', mint'.trans mint, owner'.trans owner⟩

section Put

variable (ledger : TokenLedger) (key : Pubkey) (account : TokenAccount) (terms : Mint)

@[simp] theorem put_mints : (ledger.put key account).mints = ledger.mints := rfl

@[simp] theorem put_accounts :
    (ledger.put key account).accounts = Function.update ledger.accounts key (some account) := rfl

@[simp] theorem putMint_accounts : (ledger.putMint key terms).accounts = ledger.accounts := rfl

@[simp] theorem putMint_mints :
    (ledger.putMint key terms).mints = Function.update ledger.mints key (some terms) := rfl

@[simp] theorem put_supply : (ledger.put key account).supply = ledger.supply := rfl

@[simp] theorem putMint_balance : (ledger.putMint key terms).balance = ledger.balance := rfl

@[simp] theorem putMint_holding (mint : Pubkey) :
    (ledger.putMint key terms).holding mint = ledger.holding mint := rfl

@[simp] theorem put_balance :
    (ledger.put key account).balance = Function.update ledger.balance key account.amount.toNat := by
  funext other
  by_cases same : other = key
  · rw [same, Function.update_self]
    simp only [balance, put_accounts, Function.update_self]
  · rw [Function.update_of_ne same]
    simp only [balance, put_accounts, Function.update_of_ne same]

@[simp] theorem putMint_supply :
    (ledger.putMint key terms).supply = Function.update ledger.supply key terms.supply.toNat := by
  funext other
  by_cases same : other = key
  · rw [same, Function.update_self]
    simp only [supply, putMint_mints, Function.update_self]
  · rw [Function.update_of_ne same]
    simp only [supply, putMint_mints, Function.update_of_ne same]

/-- A write shows in the holdings of the account's own mint. -/
theorem put_holding_same (mint : Pubkey) (here : account.mint = mint) :
    (ledger.put key account).holding mint =
      Function.update (ledger.holding mint) key account.amount.toNat := by
  funext other
  by_cases same : other = key
  · rw [same, Function.update_self]
    simp only [holding, put_accounts, Function.update_self, here, ↓reduceIte]
  · rw [Function.update_of_ne same]
    simp only [holding, put_accounts, Function.update_of_ne same]

variable {ledger key account terms}

theorem put_amount_holding {amount : UInt64} {mint : Pubkey} (here : account.mint = mint) :
    (ledger.put key { account with amount := amount }).holding mint =
      Function.update (ledger.holding mint) key amount.toNat :=
  put_holding_same ledger key { account with amount := amount } mint here

/-- And in no other holdings, when the account had that mint before. -/
theorem put_holding_other {mint : Pubkey} (elsewhere : account.mint ≠ mint)
    (before : ∀ old, ledger.accounts key = some old → old.mint = account.mint) :
    (ledger.put key account).holding mint = ledger.holding mint := by
  funext other
  by_cases same : other = key
  · rw [same]
    simp only [holding, put_accounts, Function.update_self, elsewhere, ↓reduceIte]
    cases found : ledger.accounts key with
    | none => rfl
    | some old => simp only [before old found, elsewhere, ↓reduceIte]
  · simp only [holding, put_accounts, Function.update_of_ne same]

theorem put_extends (same : ∀ old, ledger.accounts key = some old →
    account.mint = old.mint ∧ account.owner = old.owner) : ledger.Extends (ledger.put key account) where
  mints _ terms found := ⟨terms, found, .refl terms⟩
  accounts other old found := by
    by_cases here : other = key
    · rw [here] at found
      refine ⟨account, ?_, same old found⟩
      rw [here, put_accounts, Function.update_self]
    · refine ⟨old, ?_, rfl, rfl⟩
      rw [put_accounts, Function.update_of_ne here]
      exact found

theorem putMint_extends (same : ∀ old, ledger.mints key = some old → old.SameTerms terms) :
    ledger.Extends (ledger.putMint key terms) where
  mints other old found := by
    by_cases here : other = key
    · rw [here] at found
      refine ⟨terms, ?_, same old found⟩
      rw [here, putMint_mints, Function.update_self]
    · refine ⟨old, ?_, .refl old⟩
      rw [putMint_mints, Function.update_of_ne here]
      exact found
  accounts _ account found := ⟨account, found, rfl, rfl⟩

theorem balance_of_some (found : ledger.accounts key = some account) :
    ledger.balance key = account.amount.toNat := by
  simp only [balance, found]

theorem supply_of_some (found : ledger.mints key = some terms) :
    ledger.supply key = terms.supply.toNat := by
  simp only [supply, found]

theorem holding_of_some (found : ledger.accounts key = some account) :
    ledger.holding account.mint key = account.amount.toNat := by
  simp only [holding, found, ↓reduceIte]

end Put

/- What each instruction requires and does. -/
section Instructions

variable (ledger next : TokenLedger)

theorem loadMint_eq_ok (key : Pubkey) (terms : Mint) :
    ledger.loadMint key = .ok terms ↔ ledger.mints key = some terms := okOr_eq_ok _ _ _

theorem loadAccount_eq_ok (key : Pubkey) (account : TokenAccount) :
    ledger.loadAccount key = .ok account ↔ ledger.accounts key = some account := okOr_eq_ok _ _ _

theorem initializeMint_eq_ok (key : Pubkey) (terms : Mint) :
    ledger.initializeMint key terms = .ok next ↔
      (ledger.mints key = none ∧ ledger.accounts key = none) ∧
        (terms.program = Programs.token2022 ∨
          terms.program = Programs.token ∧ terms.transferFee = none) ∧
        ledger.putMint key { terms with supply := 0 } = next := by
  simp only [initializeMint, bind_eq_ok, require_eq_ok, exists_const, pure, Except.pure,
    Except.ok.injEq, Option.isNone_iff_eq_none]

theorem initializeAccount_eq_ok (program key mint owner : Pubkey) :
    ledger.initializeAccount program key mint owner = .ok next ↔
      (ledger.mints key = none ∧ ledger.accounts key = none) ∧
        ∃ terms, ledger.mints mint = some terms ∧ terms.program = program ∧
          ledger.put key ⟨mint, owner, 0⟩ = next := by
  simp only [initializeAccount, bind_eq_ok, require_eq_ok, exists_const, pure, Except.pure,
    Except.ok.injEq, loadMint_eq_ok, Option.isNone_iff_eq_none]

theorem transferChecked_eq_ok (program source mint target authority : Pubkey) (amount : UInt64)
    (decimals : UInt8) (permitted : Bool) :
    ledger.transferChecked program source mint target authority amount decimals permitted = .ok next ↔
      ∃ sourceAccount, ledger.accounts source = some sourceAccount ∧
      ∃ terms, ledger.mints mint = some terms ∧
      ∃ targetAccount, ledger.accounts target = some targetAccount ∧
        terms.program = program ∧ amount ≤ sourceAccount.amount ∧
        (sourceAccount.mint = mint ∧ targetAccount.mint = mint) ∧ terms.decimals = decimals ∧
        sourceAccount.owner = authority ∧ (terms.guarded = true → permitted = true) ∧
        (source = target ∧ ledger = next ∨ source ≠ target ∧
          ∃ received : UInt64, received.toNat =
              targetAccount.amount.toNat + (amount - terms.fee amount).toNat ∧
            (ledger.put source { sourceAccount with amount := sourceAccount.amount - amount }).put
              target { targetAccount with amount := received } = next) := by
  simp only [transferChecked, bind_eq_ok, require_eq_ok, exists_const, pure, Except.pure,
    loadMint_eq_ok, loadAccount_eq_ok]
  by_cases same : source = target
  · simp only [same, ↓reduceIte, Except.ok.injEq, ne_eq, not_true_eq_false, false_and, or_false,
      true_and]
  · simp only [same, ↓reduceIte, bind_eq_ok, okOr_eq_ok, Checked.addU64_eq_some, Except.ok.injEq,
      ne_eq, not_false_eq_true, true_and, false_and, false_or]

theorem mintTo_eq_ok (program mint target authority : Pubkey) (amount : UInt64) :
    ledger.mintTo program mint target authority amount = .ok next ↔
      ∃ targetAccount, ledger.accounts target = some targetAccount ∧ targetAccount.mint = mint ∧
      ∃ terms, ledger.mints mint = some terms ∧ terms.program = program ∧
        terms.mintAuthority = some authority ∧
      ∃ received : UInt64, received.toNat = targetAccount.amount.toNat + amount.toNat ∧
      ∃ supply : UInt64, supply.toNat = terms.supply.toNat + amount.toNat ∧
        (ledger.put target { targetAccount with amount := received }).putMint mint
          { terms with supply := supply } = next := by
  simp only [mintTo, bind_eq_ok, require_eq_ok, exists_const, pure, Except.pure, loadMint_eq_ok,
    loadAccount_eq_ok, okOr_eq_ok, Checked.addU64_eq_some, Except.ok.injEq]

theorem burn_eq_ok (program source mint authority : Pubkey) (amount : UInt64) :
    ledger.burn program source mint authority amount = .ok next ↔
      ∃ sourceAccount, ledger.accounts source = some sourceAccount ∧
      ∃ terms, ledger.mints mint = some terms ∧ terms.program = program ∧
        amount ≤ sourceAccount.amount ∧ sourceAccount.mint = mint ∧
        sourceAccount.owner = authority ∧
      ∃ supply : UInt64, supply.toNat + amount.toNat = terms.supply.toNat ∧
        (ledger.put source { sourceAccount with amount := sourceAccount.amount - amount }).putMint
          mint { terms with supply := supply } = next := by
  simp only [burn, bind_eq_ok, require_eq_ok, exists_const, pure, Except.pure, loadMint_eq_ok,
    loadAccount_eq_ok, okOr_eq_ok, Checked.subU64_eq_some, Except.ok.injEq]

theorem setTransferFee_eq_ok (mint : Pubkey) (fee : TransferFee) :
    ledger.setTransferFee mint fee = .ok next ↔
      ∃ terms, ledger.mints mint = some terms ∧ terms.transferFee.isSome = true ∧
        ledger.putMint mint { terms with transferFee := some fee } = next := by
  simp only [setTransferFee, bind_eq_ok, require_eq_ok, exists_const, pure, Except.pure,
    loadMint_eq_ok, Except.ok.injEq]

end Instructions

end TokenLedger

end Stede
