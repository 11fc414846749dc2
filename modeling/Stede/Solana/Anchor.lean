import Mathlib
import Stede.Solana.Account

set_option autoImplicit false

/- What the framework generates for `#[account]` types and their constraints. -/
namespace Stede

/-- An `#[account]` type of one program: an eight-byte discriminator followed by
the Borsh form of the value. Freshly allocated bytes are all zero and read as `zero`. -/
structure AccountType (α : Type) where
  program : Pubkey
  discriminator : List UInt8
  codec : Codec α
  zero : α
  discriminator_length : discriminator.length = 8
  encode_zero : codec.encode zero = List.replicate codec.width 0

namespace AccountType

variable {α : Type} (kind : AccountType α)

/-- `8 + T::INIT_SPACE`. -/
def space : Nat := 8 + kind.codec.width

/-- `T::try_deserialize`; trailing bytes are ignored. -/
def tryDeserialize (data : List UInt8) : Except Error α :=
  if data.length < 8 then .error (.anchor .accountDiscriminatorNotFound)
  else if data.take 8 ≠ kind.discriminator then .error (.anchor .accountDiscriminatorMismatch)
  else
    match kind.codec.decode (data.drop 8) with
    | some (value, _) => .ok value
    | none => .error (.anchor .accountDidNotDeserialize)

/-- `T::try_serialize` over the front of the existing bytes. -/
def trySerialize (value : α) (data : List UInt8) : Except Error (List UInt8) :=
  if kind.space ≤ data.length then
    .ok (kind.discriminator ++ kind.codec.encode value ++ data.drop kind.space)
  else .error (.anchor .accountDidNotSerialize)

/-- Writing a value back into its account. -/
def store (value : α) (account : Account) : Except Error Account := do
  let data ← kind.trySerialize value account.data
  return { account with data }

/-- `Account::<T>::try_from`. -/
def load (account : Account) : Except Error α := do
  require (¬ (account.owner = Programs.system ∧ account.lamports = 0))
    (.anchor .accountNotInitialized)
  require (account.owner = kind.program) (.anchor .accountOwnedByWrongProgram)
  kind.tryDeserialize account.data

/-- The account creation behind `init`: an address somebody merely funded is
topped up, one that is in use is refused. The payer has to be writable to be charged;
the balance it pays from is not tracked. -/
def create (rt : Runtime) (payer : AccountMeta) (account : Account) : Except Error Account := do
  payer.charged (rt.minimumBalance kind.space - account.lamports)
  require (account.owner = Programs.system ∧ account.data = []) (.program .accountAlreadyInUse)
  return ⟨max account.lamports (rt.minimumBalance kind.space), List.replicate kind.space 0, kind.program⟩

/-- `try_deserialize_unchecked` on the bytes after the discriminator. -/
def loadUnchecked (account : Account) : Except Error α :=
  match kind.codec.decode (account.data.drop 8) with
  | some (value, _) => .ok value
  | none => .error (.anchor .accountDidNotDeserialize)

/-- `init_if_needed`. -/
def initIfNeeded (rt : Runtime) (payer : AccountMeta) (account : Account) :
    Except Error (α × Account) :=
  if account.owner = Programs.system then do
    let account ← kind.create rt payer account
    let value ← kind.loadUnchecked account
    return (value, account)
  else do
    let value ← kind.load account
    require (account.data.length = kind.space) (.anchor .constraintSpace)
    require (rt.minimumBalance kind.space ≤ account.lamports) (.anchor .constraintRentExempt)
    return (value, account)

/-- The bytes of an account that holds `value`. -/
def image (value : α) : List UInt8 := kind.discriminator ++ kind.codec.encode value

@[simp] theorem image_length (value : α) : (kind.image value).length = kind.space := by
  simp only [image, List.length_append, kind.discriminator_length, kind.codec.encode_length, space]

/-- Deserialization accepts exactly the images, whatever follows them. -/
theorem tryDeserialize_eq_ok (data : List UInt8) (value : α) :
    kind.tryDeserialize data = .ok value ↔ ∃ rest, data = kind.image value ++ rest := by
  have size := kind.discriminator_length
  constructor
  · intro success
    unfold tryDeserialize at success
    split at success
    · cases success
    · split at success
      · cases success
      · rename_i long same
        split at success
        · rename_i read rest decoded
          obtain rfl := Except.ok.inj success
          refine ⟨rest, ?_⟩
          have body := kind.codec.decode_sound _ _ _ decoded
          rw [image, List.append_assoc, ← body, ← not_not.mp same, List.take_append_drop]
        · cases success
  · rintro ⟨rest, rfl⟩
    have long : ¬ (kind.image value ++ rest).length < 8 := by
      simp only [List.length_append, image_length, space]
      omega
    have front : (kind.image value ++ rest).take 8 = kind.discriminator := by
      rw [image, List.append_assoc, ← size, List.take_left]
    have back : (kind.image value ++ rest).drop 8 = kind.codec.encode value ++ rest := by
      rw [image, List.append_assoc, ← size, List.drop_left]
    simp only [tryDeserialize, long, front, back, ne_eq, not_true_eq_false, ↓reduceIte,
      kind.codec.decode_encode]

theorem tryDeserialize_image (value : α) (rest : List UInt8) :
    kind.tryDeserialize (kind.image value ++ rest) = .ok value :=
  (kind.tryDeserialize_eq_ok _ _).mpr ⟨rest, rfl⟩

theorem store_eq_ok (value : α) (account next : Account) :
    kind.store value account = .ok next ↔
      kind.space ≤ account.data.length ∧
        next = { account with data := kind.image value ++ account.data.drop kind.space } := by
  unfold store trySerialize
  split
  · rename_i long
    simp only [bind, Except.bind, pure, Except.pure, Except.ok.injEq, long, true_and, image]
    exact eq_comm
  · rename_i short
    simp [bind, Except.bind, short]

theorem store_eq_error (value : α) (account : Account) (reason : Error) :
    kind.store value account = .error reason ↔
      account.data.length < kind.space ∧ reason = .anchor .accountDidNotSerialize := by
  unfold store trySerialize
  split
  · rename_i long
    simp [bind, Except.bind, pure, Except.pure, Nat.not_lt_of_le long]
  · rename_i short
    simp [bind, Except.bind, Nat.lt_of_not_le short, eq_comm]

/-- Where a value was read, another one can be written. -/
theorem store_of_image (old value : α) (account : Account) (rest : List UInt8)
    (holds : account.data = kind.image old ++ rest) :
    kind.store value account = .ok { account with data := kind.image value ++ rest } := by
  have dropped : (kind.image old ++ rest).drop kind.space = rest := by
    rw [← kind.image_length old, List.drop_left]
  apply (kind.store_eq_ok _ _ _).mpr
  constructor
  · simp only [holds, List.length_append, image_length, Nat.le_add_right]
  · rw [holds, dropped]

theorem load_eq_ok (account : Account) (value : α) (foreign : kind.program ≠ Programs.system) :
    kind.load account = .ok value ↔
      account.owner = kind.program ∧ ∃ rest, account.data = kind.image value ++ rest := by
  simp only [load, bind_eq_ok, require_eq_ok, exists_const, tryDeserialize_eq_ok]
  constructor
  · rintro ⟨_, owned, holds⟩
    exact ⟨owned, holds⟩
  · rintro ⟨owned, holds⟩
    refine ⟨?_, owned, holds⟩
    rw [owned]
    exact fun absent => foreign absent.1

theorem create_eq_ok (rt : Runtime) (payer : AccountMeta) (account created : Account) :
    kind.create rt payer account = .ok created ↔
      (rt.minimumBalance kind.space - account.lamports = 0 ∨ payer.isWritable = true) ∧
      (account.owner = Programs.system ∧ account.data = []) ∧
        created = ⟨max account.lamports (rt.minimumBalance kind.space),
          List.replicate kind.space 0, kind.program⟩ := by
  simp only [create, bind_eq_ok, AccountMeta.charged_eq_ok, require_eq_ok, exists_const, pure,
    Except.pure, Except.ok.injEq]
  exact and_congr_right fun _ => and_congr_right fun _ => eq_comm

theorem loadUnchecked_created (lamports : Nat) (owner : Pubkey) :
    kind.loadUnchecked ⟨lamports, List.replicate kind.space 0, owner⟩ = .ok kind.zero := by
  have dropped : (List.replicate kind.space (0 : UInt8)).drop 8 =
      kind.codec.encode kind.zero ++ [] := by
    rw [List.drop_replicate, space, Nat.add_sub_cancel_left, kind.encode_zero, List.append_nil]
  simp only [loadUnchecked, dropped, kind.codec.decode_encode]

/-- `init_if_needed` either creates a zeroed account on an unused address or
loads the value that is already there. -/
theorem initIfNeeded_eq_ok (rt : Runtime) (payer : AccountMeta) (account next : Account) (value : α)
    (foreign : kind.program ≠ Programs.system) :
    kind.initIfNeeded rt payer account = .ok (value, next) ↔
      ((rt.minimumBalance kind.space - account.lamports = 0 ∨ payer.isWritable = true) ∧
        (account.owner = Programs.system ∧ account.data = []) ∧ value = kind.zero ∧
        next = ⟨max account.lamports (rt.minimumBalance kind.space),
          List.replicate kind.space 0, kind.program⟩) ∨
      (account.owner = kind.program ∧ account.data = kind.image value ∧
        rt.minimumBalance kind.space ≤ account.lamports ∧ next = account) := by
  unfold initIfNeeded
  split
  · rename_i unused
    simp only [bind_eq_ok, create_eq_ok, pure, Except.pure, Except.ok.injEq, Prod.mk.injEq]
    constructor
    · rintro ⟨created, ⟨charged, fresh, rfl⟩, read, loaded, rfl, rfl⟩
      rw [loadUnchecked_created] at loaded
      exact Or.inl ⟨charged, fresh, (Except.ok.inj loaded).symm, rfl⟩
    · rintro (⟨charged, fresh, rfl, rfl⟩ | ⟨owned, _⟩)
      · exact ⟨_, ⟨charged, fresh, rfl⟩, kind.zero, kind.loadUnchecked_created _ _, rfl, rfl⟩
      · exact absurd (owned.symm.trans unused) foreign
  · rename_i used
    simp only [bind_eq_ok, require_eq_ok, exists_const, load_eq_ok _ _ _ foreign, pure, Except.pure,
      Except.ok.injEq, Prod.mk.injEq]
    constructor
    · rintro ⟨read, ⟨owned, rest, holds⟩, size, rent, rfl, rfl⟩
      refine Or.inr ⟨owned, ?_, rent, rfl⟩
      have empty : rest = [] := by
        rw [holds, List.length_append, image_length] at size
        exact List.eq_nil_of_length_eq_zero (by omega)
      rw [holds, empty, List.append_nil]
    · rintro (⟨_, ⟨unused, _⟩, _⟩ | ⟨owned, holds, rent, rfl⟩)
      · exact absurd unused used
      · refine ⟨value, ⟨owned, [], by rw [holds, List.append_nil]⟩, ?_, rent, rfl, rfl⟩
        rw [holds, image_length]

/-- A funded account that holds `value` and nothing else. -/
def held (lamports : Nat) (value : α) : Account := ⟨lamports, kind.image value, kind.program⟩

/-- The account that holds `value` right after its creation. -/
def created (rt : Runtime) (value : α) : Account := kind.held (rt.minimumBalance kind.space) value

theorem held_configured {lamports : Nat} (funded : 0 < lamports) (value : α) :
    (kind.held lamports value).unconfigured = false := by
  have filled : kind.image value ≠ [] := by
    intro empty
    have size := kind.image_length value
    rw [empty, List.length_nil, space] at size
    omega
  simp [held, Account.unconfigured, filled, Nat.ne_of_gt funded]

theorem created_configured (rt : Runtime) (value : α) :
    (kind.created rt value).unconfigured = false :=
  kind.held_configured (rt.minimumBalance_pos kind.space) value

theorem tryDeserialize_held (lamports : Nat) (value : α) :
    kind.tryDeserialize (kind.held lamports value).data = .ok value := by
  have read := kind.tryDeserialize_image value []
  rw [List.append_nil] at read
  exact read

theorem store_held (lamports : Nat) (old value : α) :
    kind.store value (kind.held lamports old) = .ok (kind.held lamports value) := by
  have stored := kind.store_of_image old value (kind.held lamports old) [] (List.append_nil _).symm
  rw [List.append_nil] at stored
  exact stored

/-- Writing into an account that was just created fills it. -/
theorem store_zeroed (lamports : Nat) (value : α) :
    kind.store value ⟨lamports, List.replicate kind.space 0, kind.program⟩ =
      .ok (kind.held lamports value) := by
  apply (kind.store_eq_ok _ _ _).mpr
  simp only [List.length_replicate, le_refl, List.drop_replicate, Nat.sub_self,
    List.replicate_zero, List.append_nil, held, true_and]

/-- `init_if_needed` loads what a rent-exempt account holds. -/
theorem initIfNeeded_held (rt : Runtime) (payer : AccountMeta)
    (foreign : kind.program ≠ Programs.system) {lamports : Nat}
    (exempt : rt.minimumBalance kind.space ≤ lamports) (value : α) :
    kind.initIfNeeded rt payer (kind.held lamports value) = .ok (value, kind.held lamports value) :=
  (kind.initIfNeeded_eq_ok rt payer _ _ _ foreign).mpr (Or.inr ⟨rfl, rfl, exempt, rfl⟩)

end AccountType

/-- An `#[account]` type kept at `[SEED_PREFIX, sender, stede_mint]`, which stores
the sender, the mint and the bump it was derived with. -/
structure ConfigKind (α : Type) extends AccountType α where
  seedPrefix : List UInt8
  sender : α → Pubkey
  stedeMint : α → Pubkey
  bump : α → UInt8
  foreign : program ≠ Programs.system

/-- The accounts of a `set_*`, `add_*` or `remove_*` instruction. Here and elsewhere
an account that is given by its key alone is passed as the instruction declares it. -/
structure SetConfig where
  sender : AccountMeta
  stedeMint : Pubkey
  config : Pubkey

/-- The accounts of a `disable_*` instruction. -/
structure DisableConfig where
  sender : AccountMeta
  config : Pubkey

namespace ConfigKind

variable {α : Type} (kind : ConfigKind α)

/-- `T::pda(sender, stede_mint, program_id)`. -/
def pda (rt : Runtime) (sender stedeMint : Pubkey) : Pubkey × UInt8 :=
  rt.pda [kind.seedPrefix, sender.bytes, stedeMint.bytes] kind.program

/-- An instruction over `init_if_needed`, `seeds = [prefix, sender, stede_mint]`, which
the sender pays for. The framework asks whether the sender is writable after it has
initialized the account. `handler` gets the bump and the current value and returns the new one. -/
def set (rt : Runtime) (ledger : Ledger) (accounts : SetConfig)
    (handler : UInt8 → α → Except Error α) : Except Error Ledger := do
  require (accounts.sender.signed rt) (.anchor .accountNotSigner)
  require (accounts.config = (kind.pda rt accounts.sender.pubkey accounts.stedeMint).1)
    (.anchor .constraintSeeds)
  let (value, account) ← kind.initIfNeeded rt accounts.sender (ledger accounts.config)
  require (accounts.sender.isWritable) (.anchor .constraintMut)
  let value ← handler (kind.pda rt accounts.sender.pubkey accounts.stedeMint).2 value
  let account ← kind.store value account
  return ledger.write accounts.config account

/-- A `disable_*` instruction: `close = sender`, `seeds` over the stored mint with
the stored bump, `has_one = sender`. The refunded rent is not tracked. -/
def disable (rt : Runtime) (ledger : Ledger) (accounts : DisableConfig) : Except Error Ledger := do
  require (accounts.sender.signed rt) (.anchor .accountNotSigner)
  let value ← kind.load (ledger accounts.config)
  require (accounts.sender.isWritable) (.anchor .constraintMut)
  require ((accounts.config, kind.bump value) =
    kind.pda rt accounts.sender.pubkey (kind.stedeMint value)) (.anchor .constraintSeeds)
  require (kind.sender value = accounts.sender.pubkey) (.anchor .constraintHasOne)
  return ledger.write accounts.config .absent

/-- The common head of the checks that deserialize their config: an unconfigured
account passes, and any other must be the program's own, at the address derived
from the sender and mint stored in it. -/
def checked {β : Type} (rt : Runtime) (invalid : Error) (key : Pubkey) (account : Account)
    (pass : β) (body : α → Except Error β) : Except Error β :=
  if account.unconfigured then .ok pass
  else do
    require (account.owner = kind.program) invalid
    let value ← kind.tryDeserialize account.data
    require (key = (kind.pda rt (kind.sender value) (kind.stedeMint value)).1) invalid
    body value

theorem set_eq_ok (rt : Runtime) (ledger next : Ledger) (accounts : SetConfig)
    (handler : UInt8 → α → Except Error α) :
    kind.set rt ledger accounts handler = .ok next ↔
      accounts.sender.pays rt = true ∧
      accounts.config = (kind.pda rt accounts.sender.pubkey accounts.stedeMint).1 ∧
      ∃ old account value stored,
        kind.initIfNeeded rt accounts.sender (ledger accounts.config) = .ok (old, account) ∧
        handler (kind.pda rt accounts.sender.pubkey accounts.stedeMint).2 old = .ok value ∧
        kind.store value account = .ok stored ∧ next = ledger.write accounts.config stored := by
  simp only [set, bind_eq_ok, require_eq_ok, exists_const, pure, Except.pure, Except.ok.injEq,
    Prod.exists, AccountMeta.pays_iff]
  constructor
  · rintro ⟨signed, derived, old, account, loaded, writable, value, handled, stored, written, rfl⟩
    exact ⟨⟨signed, writable⟩, derived, old, account, value, stored, loaded, handled, written, rfl⟩
  · rintro ⟨⟨signed, writable⟩, derived, old, account, value, stored, loaded, handled, written, rfl⟩
    exact ⟨signed, derived, old, account, loaded, writable, value, handled, stored, written, rfl⟩

theorem disable_eq_ok (rt : Runtime) (ledger next : Ledger) (accounts : DisableConfig) :
    kind.disable rt ledger accounts = .ok next ↔
      accounts.sender.pays rt = true ∧
      ∃ value, kind.load (ledger accounts.config) = .ok value ∧
        (accounts.config, kind.bump value) =
          kind.pda rt accounts.sender.pubkey (kind.stedeMint value) ∧
        kind.sender value = accounts.sender.pubkey ∧
        next = ledger.write accounts.config .absent := by
  simp only [disable, bind_eq_ok, require_eq_ok, exists_const, pure, Except.pure, Except.ok.injEq,
    AccountMeta.pays_iff]
  constructor
  · rintro ⟨signed, value, loaded, writable, derived, owned, written⟩
    exact ⟨⟨signed, writable⟩, value, loaded, derived, owned, written.symm⟩
  · rintro ⟨⟨signed, writable⟩, value, loaded, derived, owned, written⟩
    exact ⟨signed, value, loaded, writable, derived, owned, written.symm⟩

theorem checked_eq_ok {β : Type} (rt : Runtime) (invalid : Error) (key : Pubkey) (account : Account)
    (pass result : β) (body : α → Except Error β) :
    kind.checked rt invalid key account pass body = .ok result ↔
      (account.unconfigured = true ∧ result = pass) ∨
      (account.unconfigured = false ∧ account.owner = kind.program ∧
        ∃ value, kind.tryDeserialize account.data = .ok value ∧
          key = (kind.pda rt (kind.sender value) (kind.stedeMint value)).1 ∧
          body value = .ok result) := by
  unfold checked
  split
  · rename_i absent
    simp [absent, eq_comm]
  · rename_i present
    simp only [bind_eq_ok, require_eq_ok, exists_const, present, Bool.false_eq_true, false_and,
      false_or, true_and]

/-- On an address that is at most funded, a `set_*` instruction creates the account. -/
theorem set_of_unused (rt : Runtime) (ledger next : Ledger) (accounts : SetConfig)
    (handler : UInt8 → α → Except Error α)
    (unused : (ledger accounts.config).owner = Programs.system) :
    kind.set rt ledger accounts handler = .ok next ↔
      accounts.sender.pays rt = true ∧
      accounts.config = (kind.pda rt accounts.sender.pubkey accounts.stedeMint).1 ∧
      (ledger accounts.config).data = [] ∧
      ∃ value,
        handler (kind.pda rt accounts.sender.pubkey accounts.stedeMint).2 kind.zero = .ok value ∧
        next = ledger.write accounts.config
          (kind.held (max (ledger accounts.config).lamports (rt.minimumBalance kind.space)) value) := by
  rw [set_eq_ok]
  refine and_congr_right fun pays => and_congr_right fun _ => ?_
  have writable := AccountMeta.writable_of_pays pays
  constructor
  · intro ⟨old, account, value, written, loaded, handled, kept, same⟩
    rcases (kind.initIfNeeded_eq_ok rt _ _ _ _ kind.foreign).mp loaded with
      ⟨_, ⟨_, empty⟩, zero, fresh⟩ | ⟨owned, _⟩
    · rw [fresh, AccountType.store_zeroed] at kept
      rw [zero] at handled
      exact ⟨empty, value, handled, by rw [same, Except.ok.inj kept]⟩
    · exact absurd (owned.symm.trans unused) kind.foreign
  · intro ⟨empty, value, handled, same⟩
    exact ⟨kind.zero, _, value, _, (kind.initIfNeeded_eq_ok rt _ _ _ _ kind.foreign).mpr
      (Or.inl ⟨Or.inr writable, ⟨unused, empty⟩, rfl, rfl⟩), handled, kind.store_zeroed _ value, same⟩

/-- On an address nobody used in particular. -/
theorem set_of_absent (rt : Runtime) (ledger next : Ledger) (accounts : SetConfig)
    (handler : UInt8 → α → Except Error α) (unused : ledger accounts.config = .absent) :
    kind.set rt ledger accounts handler = .ok next ↔
      accounts.sender.pays rt = true ∧
      accounts.config = (kind.pda rt accounts.sender.pubkey accounts.stedeMint).1 ∧
      ∃ value,
        handler (kind.pda rt accounts.sender.pubkey accounts.stedeMint).2 kind.zero = .ok value ∧
        next = ledger.write accounts.config (kind.created rt value) := by
  rw [kind.set_of_unused _ _ _ _ _ (by rw [unused]; rfl), unused]
  simp only [Account.absent, Nat.zero_max, true_and, AccountType.created]

/-- On an account that is there, it rewrites the value. -/
theorem set_of_held (rt : Runtime) (ledger next : Ledger) (accounts : SetConfig)
    (handler : UInt8 → α → Except Error α) {lamports : Nat} {old : α}
    (exempt : rt.minimumBalance kind.space ≤ lamports)
    (holds : ledger accounts.config = kind.held lamports old) :
    kind.set rt ledger accounts handler = .ok next ↔
      accounts.sender.pays rt = true ∧
      accounts.config = (kind.pda rt accounts.sender.pubkey accounts.stedeMint).1 ∧
      ∃ value, handler (kind.pda rt accounts.sender.pubkey accounts.stedeMint).2 old = .ok value ∧
        next = ledger.write accounts.config (kind.held lamports value) := by
  rw [set_eq_ok, holds]
  refine and_congr_right fun _ => and_congr_right fun _ => ?_
  have loads := kind.initIfNeeded_held rt accounts.sender kind.foreign exempt old
  constructor
  · intro ⟨read, account, value, written, loaded, handled, kept, same⟩
    rw [loads, Except.ok.injEq, Prod.mk.injEq] at loaded
    rw [← loaded.1] at handled
    rw [← loaded.2, AccountType.store_held] at kept
    exact ⟨value, handled, by rw [same, Except.ok.inj kept]⟩
  · intro ⟨value, handled, same⟩
    exact ⟨old, _, value, _, loads, handled, kind.store_held lamports old value, same⟩

/-- A configured account of the program's own is checked at the address of the
sender and mint it stores, and refused anywhere else. -/
theorem checked_of_image {β : Type} (rt : Runtime) (invalid : Error) (key : Pubkey)
    (account : Account) (pass : β) (body : α → Except Error β) (value : α) (rest : List UInt8)
    (configured : account.unconfigured = false) (owned : account.owner = kind.program)
    (holds : account.data = kind.image value ++ rest) :
    kind.checked rt invalid key account pass body =
      if key = (kind.pda rt (kind.sender value) (kind.stedeMint value)).1 then body value
      else .error invalid := by
  have read := kind.tryDeserialize_image value rest
  rw [← holds] at read
  by_cases derived : key = (kind.pda rt (kind.sender value) (kind.stedeMint value)).1
  · simp only [checked, configured, owned, read, require, derived, bind, Except.bind,
      Bool.false_eq_true, ↓reduceIte]
  · simp only [checked, configured, owned, read, require, derived, bind, Except.bind,
      Bool.false_eq_true, ↓reduceIte]

/-- Where it belongs, the body runs on the value that is held. -/
theorem checked_held {β : Type} (rt : Runtime) (invalid : Error) {key : Pubkey} {lamports : Nat}
    {value : α} (funded : 0 < lamports)
    (derived : key = (kind.pda rt (kind.sender value) (kind.stedeMint value)).1) (pass : β)
    (body : α → Except Error β) :
    kind.checked rt invalid key (kind.held lamports value) pass body = body value := by
  rw [kind.checked_of_image _ _ _ _ _ _ value [] (kind.held_configured funded value) rfl
    (List.append_nil _).symm]
  simp only [derived, ↓reduceIte]

/-- The address error is raised exactly away from the address of the stored pair. -/
theorem checked_misplaced {β : Type} (rt : Runtime) (invalid : Error) (key : Pubkey) (value : α)
    (pass : β) (body : α → Except Error β) (other : body value ≠ .error invalid) :
    kind.checked rt invalid key (kind.created rt value) pass body = .error invalid ↔
      key ≠ (kind.pda rt (kind.sender value) (kind.stedeMint value)).1 := by
  rw [kind.checked_of_image _ _ _ _ _ _ value [] (kind.created_configured rt value) rfl
    (List.append_nil _).symm]
  split
  · rename_i derived
    simp only [other, derived, ne_eq, not_true_eq_false]
  · rename_i elsewhere
    simp only [elsewhere, ne_eq, not_false_eq_true]

end ConfigKind

end Stede
