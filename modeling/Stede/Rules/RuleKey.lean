import Stede.Rules.BlockHandle
import Stede.Rules.Cooloff
import Stede.Rules.DailyLimit
import Stede.Rules.FriendGate
import Stede.Rules.NewRecipientDelay
import Stede.Rules.TimeWindow

set_option autoImplicit false

/- The logical keys of the rule accounts and the addresses they are kept at. -/
namespace Stede

/-- Whose rules for which mint. -/
@[ext] structure SenderMint where
  sender : Pubkey
  stedeMint : Pubkey
deriving DecidableEq

inductive RuleSlot
  | dailyLimit
  | blockList
  | cooloff
  | slowSendConfig
  | slowSendContact (recipient : Pubkey)
  | timeWindow
  | friendGate
deriving DecidableEq

/-- One rule account of a sender and a mint. -/
structure RuleKey where
  pair : SenderMint
  slot : RuleSlot
deriving DecidableEq

namespace RuleSlot

def program : RuleSlot → Pubkey
  | dailyLimit => DailyLimit.kind.program
  | blockList => BlockList.kind.program
  | cooloff => Cooloff.kind.program
  | slowSendConfig => SlowSendConfig.kind.program
  | slowSendContact _ => SlowSendContact.kind.program
  | timeWindow => TimeWindowConfig.kind.program
  | friendGate => FriendGate.kind.program

def seedPrefix : RuleSlot → List UInt8
  | dailyLimit => DailyLimit.kind.seedPrefix
  | blockList => BlockList.kind.seedPrefix
  | cooloff => Cooloff.kind.seedPrefix
  | slowSendConfig => SlowSendConfig.kind.seedPrefix
  | slowSendContact _ => SlowSendContact.seedPrefix
  | timeWindow => TimeWindowConfig.kind.seedPrefix
  | friendGate => FriendGate.kind.seedPrefix

/-- The keys among the seeds, in their order. -/
def seedKeys (pair : SenderMint) : RuleSlot → List Pubkey
  | slowSendContact recipient => [pair.sender, recipient, pair.stedeMint]
  | _ => [pair.sender, pair.stedeMint]

/-- The slot with its recipient forgotten. -/
def bare : RuleSlot → RuleSlot
  | slowSendContact _ => slowSendContact .default
  | slot => slot

def bareSlots : List RuleSlot :=
  [dailyLimit, blockList, cooloff, slowSendConfig, slowSendContact .default, timeWindow, friendGate]

/-- The program of an account and the length of its seeds. -/
def shape (slot : RuleSlot) : Pubkey × Nat :=
  (slot.program, slot.seedPrefix.length + 32 * (slot.seedKeys ⟨.default, .default⟩).length)

theorem shape_bare (slot : RuleSlot) : slot.bare.shape = slot.shape := by
  cases slot <;> rfl

theorem bare_mem (slot : RuleSlot) : slot.bare ∈ bareSlots := by
  cases slot <;> simp only [bare] <;> decide

/-- Where two kinds of account share a program, their seeds differ in length. -/
theorem bare_eq_of_shape {first second : RuleSlot} (same : first.shape = second.shape) :
    first.bare = second.bare := by
  have distinct : (bareSlots.map shape).Nodup := by decide +kernel
  apply List.inj_on_of_nodup_map distinct (bare_mem first) (bare_mem second)
  rw [shape_bare, shape_bare, same]

theorem eq_or_contacts {first second : RuleSlot} (same : first.bare = second.bare) :
    first = second ∨ ∃ recipient recipient', first = slowSendContact recipient ∧
      second = slowSendContact recipient' := by
  cases first <;> cases second <;> simp_all [bare]

theorem seedKeys_length (pair pair' : SenderMint) (slot : RuleSlot) :
    (slot.seedKeys pair).length = (slot.seedKeys pair').length := by
  cases slot <;> rfl

theorem seedKeys_injective (slot : RuleSlot) : Function.Injective fun pair => slot.seedKeys pair := by
  intro first second same
  cases slot <;>
    simp only [seedKeys, List.cons.injEq, and_true, true_and] at same <;>
    exact SenderMint.ext same.1 same.2

end RuleSlot

/-- Keys are of fixed width, so a concatenation of them determines each. -/
theorem Pubkey.flatten_injective {first second : List Pubkey} (length : first.length = second.length)
    (same : (first.map Pubkey.bytes).flatten = (second.map Pubkey.bytes).flatten) :
    first = second := by
  apply List.map_injective_iff.mpr Pubkey.bytes_injective
  apply List.eq_iff_flatten_eq.mpr ⟨same, ?_⟩
  have widths (keys : List Pubkey) :
      (keys.map Pubkey.bytes).map List.length = List.replicate keys.length 32 := by
    induction keys with
    | nil => rfl
    | cons key rest ih => rw [List.map_cons, List.map_cons, ih, key.size, List.length_cons,
        List.replicate_succ]
  rw [widths, widths, length]

namespace RuleKey

def seeds (key : RuleKey) : List (List UInt8) :=
  key.slot.seedPrefix :: (key.slot.seedKeys key.pair).map Pubkey.bytes

/-- All that the address depends on: the concatenation of the seeds, and the program. -/
def derivation (key : RuleKey) : List UInt8 × Pubkey := (key.seeds.flatten, key.slot.program)

def address (rt : Runtime) (key : RuleKey) : Pubkey := (rt.pda key.seeds key.slot.program).1

theorem seeds_length (key : RuleKey) :
    (key.slot.program, key.seeds.flatten.length) = key.slot.shape := by
  obtain ⟨pair, slot⟩ := key
  cases slot <;>
    simp only [seeds, RuleSlot.shape, RuleSlot.seedKeys, List.map_cons, List.map_nil,
      List.flatten_cons, List.flatten_nil, List.length_append, List.length_cons, List.length_nil,
      Pubkey.size]

/-- Within a program different keys have different seed strings, although the
seeds are joined without a separator. -/
theorem derivation_injective : Function.Injective derivation := by
  intro first second same
  have ⟨strings, program⟩ := Prod.mk.inj same
  have shapes : first.slot.shape = second.slot.shape := by
    rw [← seeds_length, ← seeds_length, strings, program]
  have kinds := RuleSlot.bare_eq_of_shape shapes
  obtain ⟨pair, slot⟩ := first
  obtain ⟨pair', slot'⟩ := second
  simp only [seeds, List.flatten_cons] at strings
  rcases RuleSlot.eq_or_contacts kinds with rfl | ⟨recipient, recipient', rfl, rfl⟩
  · have keys := Pubkey.flatten_injective (RuleSlot.seedKeys_length pair pair' slot)
      (List.append_cancel_left strings)
    rw [RuleSlot.seedKeys_injective slot keys]
  · simp only [RuleSlot.seedPrefix] at strings
    have lengths : (RuleSlot.seedKeys pair (.slowSendContact recipient)).length =
        (RuleSlot.seedKeys pair' (.slowSendContact recipient')).length := rfl
    have keys := Pubkey.flatten_injective lengths (List.append_cancel_left strings)
    simp only [RuleSlot.seedKeys, List.cons.injEq, and_true] at keys
    rw [SenderMint.ext keys.1 keys.2.2, keys.2.1]

/-- Where derivation is collision-free, different keys lie at different addresses. -/
theorem address_injOn {rt : Runtime} {inPlay : Set RuleKey}
    (free : rt.CollisionFree (derivation '' inPlay)) : Set.InjOn (address rt) inPlay := by
  intro first here second there same
  exact derivation_injective
    (free (Set.mem_image_of_mem _ here) (Set.mem_image_of_mem _ there) same)

/-- Over finitely many keys it is enough that their addresses are different. -/
theorem free_of_nodup {rt : Runtime} {keys : List RuleKey} (distinct : (keys.map (address rt)).Nodup) :
    rt.CollisionFree (derivation '' {key | key ∈ keys}) := by
  rintro _ ⟨first, here, rfl⟩ _ ⟨second, there, rfl⟩ same
  rw [List.inj_on_of_nodup_map distinct here there same]

end RuleKey

end Stede
