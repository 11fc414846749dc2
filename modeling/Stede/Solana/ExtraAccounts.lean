import Mathlib
import Stede.Solana.Account

set_option autoImplicit false

/- Resolving the extra accounts of a transfer hook (`spl_tlv_account_resolution`). -/
namespace Stede

/-- The kinds of seed the hook's list uses. -/
inductive Seed
  | literal (bytes : List UInt8)
  | accountKey (index : Nat)
  | accountData (accountIndex dataIndex length : Nat)
deriving DecidableEq

/-- How an extra account's address is found: spelled out, or derived for the
program that stands at an index of the account list. -/
inductive AddressConfig
  | pubkey (key : Pubkey)
  | externalPda (programIndex : Nat) (seeds : List Seed)
deriving DecidableEq

structure ExtraAccountMeta where
  addressConfig : AddressConfig
  isSigner : Bool
  isWritable : Bool
deriving DecidableEq

/-- The longest seed an address can be derived from. -/
def MAX_SEED_LEN : Nat := 32

namespace Seed

/-- The bytes a seed takes in the 32-byte address config of its entry. -/
def tlvSize : Seed → Nat
  | literal bytes => 2 + bytes.length
  | accountKey _ => 2
  | accountData _ _ _ => 4

/-- The seed's value over the accounts collected so far. -/
def resolve (ledger : Ledger) (accounts : List AccountMeta) : Seed → Except Error (List UInt8)
  | literal bytes => .ok bytes
  | accountKey index => do
      let account ← okOr accounts[index]? (.program .accountNotFound)
      return account.pubkey.bytes
  | accountData accountIndex dataIndex length => do
      let account ← okOr accounts[accountIndex]? (.program .accountNotFound)
      let data := (ledger account.pubkey).data
      require (dataIndex + length ≤ data.length) (.program .accountDataTooSmall)
      return (data.drop dataIndex).take length

end Seed

namespace ExtraAccountMeta

def newWithPubkey (key : Pubkey) (isSigner isWritable : Bool) : Except Error ExtraAccountMeta :=
  .ok ⟨.pubkey key, isSigner, isWritable⟩

def newExternalPdaWithSeeds (programIndex : Nat) (seeds : List Seed) (isSigner isWritable : Bool) :
    Except Error ExtraAccountMeta := do
  require ((seeds.map Seed.tlvSize).sum ≤ 32) (.program .seedConfigsTooLarge)
  return ⟨.externalPda programIndex seeds, isSigner, isWritable⟩

def resolve (rt : Runtime) (ledger : Ledger) (accounts : List AccountMeta)
    (extra : ExtraAccountMeta) : Except Error AccountMeta :=
  match extra.addressConfig with
  | .pubkey key => .ok ⟨key, extra.isSigner, extra.isWritable⟩
  | .externalPda programIndex seeds => do
      let program ← okOr accounts[programIndex]? (.program .accountNotFound)
      let seeds ← seeds.mapM (Seed.resolve ledger accounts)
      require (∀ seed ∈ seeds, seed.length ≤ MAX_SEED_LEN) (.program .maxSeedLengthExceeded)
      return ⟨(rt.pda seeds program.pubkey).1, extra.isSigner, extra.isWritable⟩

/-- Entries are resolved in order, each over the accounts before it. -/
def resolveAll (rt : Runtime) (ledger : Ledger) (accounts : List AccountMeta) :
    List ExtraAccountMeta → Except Error (List AccountMeta)
  | [] => .ok accounts
  | extra :: rest => do
      let account ← extra.resolve rt ledger accounts
      resolveAll rt ledger (accounts ++ [account]) rest

/-- A resolved account that already stands in the call gets no privilege there
that it did not have. -/
def deEscalate (accounts : List AccountMeta) (extra : AccountMeta) : AccountMeta :=
  let present := accounts.filter fun account => account.pubkey = extra.pubkey
  if present = [] then extra
  else { extra with
    isSigner := extra.isSigner && present.any AccountMeta.isSigner
    isWritable := extra.isWritable && present.any AccountMeta.isWritable }

/-- The pass of `deEscalate` over the resolved accounts of a call. -/
def deEscalateAll (accounts : List AccountMeta) : List AccountMeta → List AccountMeta
  | [] => accounts
  | extra :: rest => deEscalateAll (accounts ++ [deEscalate accounts extra]) rest

/-- `add_to_cpi_instruction`: the extra accounts are resolved and stripped of
privileges, and every one must be among the accounts the caller supplied. -/
def addToCpiInstruction (rt : Runtime) (ledger : Ledger) (base : List AccountMeta)
    (extras : List ExtraAccountMeta) (supplied : List Pubkey) : Except Error (List AccountMeta) := do
  let accounts ← resolveAll rt ledger base extras
  require (∀ account ∈ accounts.drop base.length, account.pubkey ∈ supplied)
    (.program .accountNotFound)
  return deEscalateAll base (accounts.drop base.length)

/-- Stripping privileges keeps the addresses. -/
theorem deEscalateAll_pubkeys (base extras : List AccountMeta) :
    (deEscalateAll base extras).map AccountMeta.pubkey = (base ++ extras).map AccountMeta.pubkey := by
  induction extras generalizing base with
  | nil => rw [deEscalateAll, List.append_nil]
  | cons extra rest ih =>
      have same : (deEscalate base extra).pubkey = extra.pubkey := by
        simp only [deEscalate]
        split <;> rfl
      rw [deEscalateAll, ih]
      simp only [List.map_append, List.map_cons, same, List.append_assoc,
        List.cons_append, List.nil_append]

/-- An extra account keeps its entry's privileges where it has none to lose, or does
not stand in the call yet. -/
theorem deEscalate_eq {accounts : List AccountMeta} {extra : AccountMeta}
    (unsigned : extra.isSigner = false)
    (fresh : extra.isWritable = true → ∀ account ∈ accounts, account.pubkey ≠ extra.pubkey) :
    deEscalate accounts extra = extra := by
  obtain ⟨pubkey, isSigner, isWritable⟩ := extra
  simp only at unsigned
  simp only [deEscalate, unsigned, Bool.false_and]
  cases isWritable with
  | false => simp only [Bool.false_and, ite_self]
  | true =>
      have none_present : (accounts.filter fun account => account.pubkey = pubkey) = [] := by
        apply List.filter_eq_nil_iff.mpr
        intro account member
        simpa using fresh rfl account member
      rw [if_pos none_present]

theorem deEscalateAll_eq {base extras : List AccountMeta}
    (unsigned : ∀ extra ∈ extras, extra.isSigner = false)
    (fresh : extras.Pairwise fun earlier later => later.isWritable = true →
      earlier.pubkey ≠ later.pubkey)
    (apart : ∀ extra ∈ extras, extra.isWritable = true →
      ∀ account ∈ base, account.pubkey ≠ extra.pubkey) :
    deEscalateAll base extras = base ++ extras := by
  induction extras generalizing base with
  | nil => rw [deEscalateAll, List.append_nil]
  | cons extra rest ih =>
      have ⟨here, later⟩ := List.pairwise_cons.mp fresh
      have kept : deEscalate base extra = extra :=
        deEscalate_eq (unsigned extra List.mem_cons_self) (apart extra List.mem_cons_self)
      rw [deEscalateAll, kept, ih]
      · rw [List.append_assoc]
        rfl
      · intro other member
        exact unsigned other (List.mem_cons_of_mem _ member)
      · exact later
      · intro other member writable account present
        rcases List.mem_append.mp present with old | new
        · exact apart other (List.mem_cons_of_mem _ member) writable account old
        · rw [List.mem_singleton.mp new]
          exact here other member writable

/-- Each entry is resolved over a call that starts with the accounts given. -/
theorem resolve_of_mem {rt : Runtime} {ledger : Ledger} {accounts result : List AccountMeta}
    {extras : List ExtraAccountMeta} {extra : ExtraAccountMeta} (member : extra ∈ extras)
    (success : resolveAll rt ledger accounts extras = .ok result) :
    ∃ more account, extra.resolve rt ledger (accounts ++ more) = .ok account := by
  induction extras generalizing accounts with
  | nil => cases member
  | cons first rest ih =>
      have ⟨account, resolved, later⟩ := (bind_eq_ok _ _ _).mp success
      rcases List.mem_cons.mp member with here | there
      · refine ⟨[], account, ?_⟩
        rw [here, List.append_nil]
        exact resolved
      · have ⟨more, account', resolved'⟩ := ih there later
        refine ⟨account :: more, account', ?_⟩
        rw [List.append_assoc] at resolved'
        exact resolved'

end ExtraAccountMeta

end Stede
