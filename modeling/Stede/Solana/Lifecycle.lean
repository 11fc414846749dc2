import Stede.Solana.Anchor

set_option autoImplicit false

/- The states that the account of a config can be in. -/
namespace Stede

/-- Nobody uses the address, although lamports may lie there. -/
def Account.Unused (account : Account) : Prop :=
  account.owner = Programs.system ∧ account.data = []

theorem Account.absent_unused : Account.absent.Unused := ⟨rfl, rfl⟩

theorem Account.Unused.unconfigured {account : Account} (unused : account.Unused) :
    account.unconfigured = true := by
  simp only [Account.unconfigured, unused.2, List.isEmpty_nil, Bool.true_or]

namespace ConfigKind

variable {α : Type} (kind : ConfigKind α)

/-- A rent-exempt account that holds `value` and nothing else, at the address
derived from the sender and the mint it names. -/
structure Live (rt : Runtime) (key : Pubkey) (value : α) (account : Account) : Prop where
  holds : account = kind.held account.lamports value
  exempt : rt.minimumBalance kind.space ≤ account.lamports
  derived : (key, kind.bump value) = kind.pda rt (kind.sender value) (kind.stedeMint value)
  claimed : kind.sender value ≠ .default

/-- What becomes of the account of a sender and a mint: unused, or live and theirs. -/
def PlacedFor (rt : Runtime) (sender stedeMint : Pubkey) (account : Account) : Prop :=
  account.Unused ∨ ∃ value, kind.Live rt (kind.pda rt sender stedeMint).1 value account ∧
    kind.sender value = sender ∧ kind.stedeMint value = stedeMint

variable {kind} {rt : Runtime} {key : Pubkey} {value next : α} {account : Account}

theorem Live.funded (live : kind.Live rt key value account) : 0 < account.lamports :=
  (rt.minimumBalance_pos kind.space).trans_le live.exempt

theorem Live.configured (live : kind.Live rt key value account) : account.unconfigured = false := by
  rw [live.holds]
  exact kind.held_configured live.funded value

theorem Live.address (live : kind.Live rt key value account) :
    key = (kind.pda rt (kind.sender value) (kind.stedeMint value)).1 :=
  congrArg Prod.fst live.derived

theorem Live.load (live : kind.Live rt key value account) : kind.load account = .ok value := by
  rw [live.holds]
  exact (kind.load_eq_ok _ _ kind.foreign).mpr ⟨rfl, [], (List.append_nil _).symm⟩

theorem Live.unique (live : kind.Live rt key value account) (other : kind.Live rt key next account) :
    value = next := Except.ok.inj (live.load.symm.trans other.load)

theorem Live.store (live : kind.Live rt key value account) (next : α) :
    kind.store next account = .ok (kind.held account.lamports next) := by
  have stored := kind.store_held account.lamports value next
  rw [← live.holds] at stored
  exact stored

/-- A check runs its body on the value. -/
theorem Live.checked {β : Type} (live : kind.Live rt key value account) (invalid : Error) (pass : β)
    (body : α → Except Error β) : kind.checked rt invalid key account pass body = body value := by
  rw [live.holds]
  exact kind.checked_held rt invalid live.funded live.address pass body

/-- Rewriting the value keeps the account live where it still names the same pair. -/
theorem Live.rewrite (live : kind.Live rt key value account)
    (derived : (key, kind.bump next) = kind.pda rt (kind.sender next) (kind.stedeMint next))
    (claimed : kind.sender next ≠ .default) :
    kind.Live rt key next (kind.held account.lamports next) :=
  ⟨rfl, live.exempt, derived, claimed⟩

/-- A gift of lamports changes nothing. -/
theorem Live.gift (live : kind.Live rt key value account) (lamports : Nat) :
    kind.Live rt key value { account with lamports := account.lamports + lamports } := by
  refine ⟨?_, live.exempt.trans (Nat.le_add_right _ _), live.derived, live.claimed⟩
  rw [live.holds]
  rfl

theorem load_of_unused (unused : account.Unused) : ¬ ∃ value, kind.load account = .ok value := by
  intro ⟨value, loaded⟩
  have ⟨owned, _⟩ := (kind.load_eq_ok _ _ kind.foreign).mp loaded
  exact kind.foreign (owned.symm.trans unused.1)

theorem checked_of_unused {β : Type} (unused : account.Unused) (invalid : Error) (pass : β)
    (body : α → Except Error β) : kind.checked rt invalid key account pass body = .ok pass := by
  simp only [checked, unused.unconfigured, ↓reduceIte]

/-- What a `set_*` handler does to the pair its account names: it keeps it once it
is there, or writes that of the instruction. -/
def Claims (kind : ConfigKind α) (sender stedeMint : Pubkey) (handler : UInt8 → α → Except Error α) :
    Prop :=
  ∀ bump old new, handler bump old = .ok new →
    (kind.sender old ≠ .default ∧ kind.sender new = kind.sender old ∧
      kind.stedeMint new = kind.stedeMint old ∧ kind.bump new = kind.bump old) ∨
    (kind.sender new = sender ∧ kind.stedeMint new = stedeMint ∧ kind.bump new = bump)

theorem signer_ne_default {sender : AccountMeta} (pays : sender.pays rt = true) :
    sender.pubkey ≠ .default := by
  intro same
  simp only [AccountMeta.pays, AccountMeta.signed, same, rt.default_cannot_sign, Bool.and_false,
    Bool.false_and] at pays
  cases pays

section Instructions

variable {ledger after : Ledger} (accounts : SetConfig) {handler : UInt8 → α → Except Error α}

/-- On a live account a `set_*` instruction rewrites the value. -/
theorem Live.set (live : kind.Live rt accounts.config value (ledger accounts.config)) :
    kind.set rt ledger accounts handler = .ok after ↔
      accounts.sender.pays rt = true ∧
      accounts.config = (kind.pda rt accounts.sender.pubkey accounts.stedeMint).1 ∧
      ∃ new, handler (kind.pda rt accounts.sender.pubkey accounts.stedeMint).2 value = .ok new ∧
        after = ledger.write accounts.config (kind.held (ledger accounts.config).lamports new) :=
  kind.set_of_held rt ledger after accounts handler live.exempt live.holds

theorem Live.set_live (claims : kind.Claims accounts.sender.pubkey accounts.stedeMint handler)
    (live : kind.Live rt accounts.config value (ledger accounts.config))
    (success : kind.set rt ledger accounts handler = .ok after) :
    ∃ new, handler (kind.pda rt accounts.sender.pubkey accounts.stedeMint).2 value = .ok new ∧
      kind.Live rt accounts.config new (after accounts.config) := by
  have ⟨pays, address, new, handled, written⟩ := (live.set accounts).mp success
  refine ⟨new, handled, ?_⟩
  rw [written, Ledger.write_self]
  rcases claims _ _ _ handled with ⟨claimed, sender, stedeMint, bump⟩ | ⟨sender, stedeMint, bump⟩
  · apply live.rewrite
    · rw [sender, stedeMint, bump]
      exact live.derived
    · rw [sender]
      exact claimed
  · apply live.rewrite
    · rw [sender, stedeMint, bump]
      exact Prod.ext address rfl
    · rw [sender]
      exact signer_ne_default pays

/-- On an unused address it makes a live account. -/
theorem set_live_of_unused (claims : kind.Claims accounts.sender.pubkey accounts.stedeMint handler)
    (fresh : kind.sender kind.zero = .default) (unused : (ledger accounts.config).Unused)
    (success : kind.set rt ledger accounts handler = .ok after) :
    ∃ new, handler (kind.pda rt accounts.sender.pubkey accounts.stedeMint).2 kind.zero = .ok new ∧
      kind.Live rt accounts.config new (after accounts.config) := by
  have ⟨pays, address, _, new, handled, written⟩ :=
    (kind.set_of_unused rt ledger after accounts handler unused.1).mp success
  refine ⟨new, handled, ?_⟩
  rw [written, Ledger.write_self]
  rcases claims _ _ _ handled with ⟨claimed, _⟩ | ⟨sender, stedeMint, bump⟩
  · exact absurd fresh claimed
  · refine ⟨rfl, Nat.le_max_right _ _, ?_, ?_⟩
    · rw [sender, stedeMint, bump]
      exact Prod.ext address rfl
    · rw [sender]
      exact signer_ne_default pays

/-- A `set_*` instruction for the pair leaves a live account that is theirs. -/
theorem PlacedFor.set (claims : kind.Claims accounts.sender.pubkey accounts.stedeMint handler)
    (fresh : kind.sender kind.zero = .default)
    (placed : kind.PlacedFor rt accounts.sender.pubkey accounts.stedeMint (ledger accounts.config))
    (success : kind.set rt ledger accounts handler = .ok after) :
    kind.PlacedFor rt accounts.sender.pubkey accounts.stedeMint (after accounts.config) := by
  have ⟨_, address, _⟩ := (kind.set_eq_ok _ _ _ _ _).mp success
  right
  rw [← address]
  rcases placed with unused | ⟨value, live, sender, stedeMint⟩
  · have ⟨new, handled, made⟩ := set_live_of_unused accounts claims fresh unused success
    refine ⟨new, made, ?_⟩
    rcases claims _ _ _ handled with ⟨claimed, _⟩ | ⟨sender, stedeMint, _⟩
    · exact absurd fresh claimed
    · exact ⟨sender, stedeMint⟩
  · rw [← address] at live
    have ⟨new, handled, made⟩ := live.set_live accounts claims success
    refine ⟨new, made, ?_⟩
    rcases claims _ _ _ handled with ⟨_, same, same', _⟩ | ⟨sender, stedeMint, _⟩
    · exact ⟨same.trans sender, same'.trans stedeMint⟩
    · exact ⟨sender, stedeMint⟩

/-- A `disable_*` instruction leaves the address unused, whatever was there. -/
theorem disable_unused {accounts : DisableConfig} (success : kind.disable rt ledger accounts = .ok after) :
    (after accounts.config).Unused := by
  have ⟨_, _, _, _, _, written⟩ := (kind.disable_eq_ok rt ledger after accounts).mp success
  rw [written, Ledger.write_self]
  exact Account.absent_unused

/-- On a live account it is up to the signature of the sender the account names. -/
theorem Live.disable {accounts : DisableConfig}
    (live : kind.Live rt accounts.config value (ledger accounts.config)) :
    kind.disable rt ledger accounts = .ok after ↔
      accounts.sender.pays rt = true ∧ kind.sender value = accounts.sender.pubkey ∧
        after = ledger.write accounts.config .absent := by
  rw [kind.disable_eq_ok]
  refine and_congr_right fun _ => ?_
  constructor
  · intro ⟨read, loaded, _, owned, written⟩
    rw [live.load, Except.ok.injEq] at loaded
    rw [loaded]
    exact ⟨owned, written⟩
  · intro ⟨owned, written⟩
    refine ⟨value, live.load, ?_, owned, written⟩
    rw [← owned]
    exact live.derived

end Instructions

end ConfigKind

end Stede
