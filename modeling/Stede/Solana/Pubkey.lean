import Mathlib
import Stede.Lib.Codec

set_option autoImplicit false

namespace Stede

/-- A Solana address: 32 bytes. -/
structure Pubkey where
  bytes : List UInt8
  size : bytes.length = 32
deriving DecidableEq

/-- The bytes of an ASCII literal such as `b"vault"`. -/
def byteString (literal : String) : List UInt8 :=
  literal.toList.map fun character => UInt8.ofNat character.toNat

namespace Pubkey

/-- The big-endian form of a number, padded or cut to `count` bytes. -/
def bytesBE (count number : Nat) : List UInt8 := (bytesLE count number).reverse

def base58Alphabet : List Char :=
  "123456789ABCDEFGHJKLMNPQRSTUVWXYZabcdefghijkmnopqrstuvwxyz".toList

/-- The address a base-58 literal denotes, as in `declare_id!`. -/
def ofBase58 (literal : String) : Pubkey where
  bytes := bytesBE 32
    (literal.toList.foldl (fun number digit => number * 58 + base58Alphabet.idxOf digit) 0)
  size := by simp [bytesBE]

/-- `Pubkey::default()`: all zero, which is also the System program's address. -/
def default : Pubkey := ⟨List.replicate 32 0, rfl⟩

/-- `Pubkey::try_from(&[u8])`. -/
def tryFrom (bytes : List UInt8) : Option Pubkey :=
  if size : bytes.length = 32 then some ⟨bytes, size⟩ else none

theorem tryFrom_bytes (key : Pubkey) : tryFrom key.bytes = some key := by
  simp only [tryFrom, key.size, ↓reduceDIte]

theorem bytes_injective : Function.Injective bytes := by
  rintro ⟨left, leftSize⟩ ⟨right, rightSize⟩ rfl
  rfl

def equivBytes : { bytes : List UInt8 // bytes.length = 32 } ≃ Pubkey where
  toFun bytes := ⟨bytes.val, bytes.property⟩
  invFun key := ⟨key.bytes, key.size⟩
  left_inv _ := rfl
  right_inv _ := rfl

def codec : Codec Pubkey := (Codec.raw 32).imap equivBytes

instance : Finite Pubkey := by
  have strings : Finite { bytes : List UInt8 // bytes.length = 32 } :=
    (List.finite_length_eq UInt8 32).to_subtype
  exact @Finite.of_equiv _ _ strings equivBytes

/-- Every address: there are finitely many. -/
noncomputable def all : Finset Pubkey := (Set.toFinite Set.univ).toFinset

theorem mem_all (key : Pubkey) : key ∈ all :=
  (Set.Finite.mem_toFinset _).mpr (Set.mem_univ key)

end Pubkey

/- The `declare_id!` of each program of the workspace. -/
namespace Programs

def stedeVault : Pubkey := .ofBase58 "hkRnTeBdGovUyhC9TCvJjpkaQn7DWxo6YxhhAZ7Avai"
def stedeHook : Pubkey := .ofBase58 "Cr1nytaygTvi4h73JhGacAJMbJsYxMvf7syQWpr6CYYv"
def stedeHandleRegistry : Pubkey := .ofBase58 "FPpVV8GotRq2cPppWBp1juVun4SC193TpaEPodrmHYaA"
def stedeRuleDailyLimit : Pubkey := .ofBase58 "DnNcQGbcGtveExwz16oU9SheonBjADZiaExjC2W3CKi5"
def stedeRuleBlockHandle : Pubkey := .ofBase58 "J1ZZNPoZXHb4qUS7TQKwxFnm9eBE7MFso7gnJkKrH2uq"
def stedeRuleCooloff : Pubkey := .ofBase58 "4Cc51G1AnduEcwtYQTfUKNVmNnERmrBmUv7mCHRQSSUg"
def stedeRuleNewRecipientDelay : Pubkey := .ofBase58 "GWhPqirCmLHiYQdHsPXNzG2YexVR6cXsspps8YhPhaRb"
def stedeRuleTimeWindow : Pubkey := .ofBase58 "8AEdTE3avK5jhVy8osXHfZYnvtn73SSVrRxwuTaytaGu"
def stedeRuleFriendGate : Pubkey := .ofBase58 "C2ETjCNkHYdPzNZxJtufmnc3j5at2osxG6csrS9StNk5"

def workspace : List Pubkey :=
  [stedeVault, stedeHook, stedeHandleRegistry, stedeRuleDailyLimit, stedeRuleBlockHandle,
    stedeRuleCooloff, stedeRuleNewRecipientDelay, stedeRuleTimeWindow, stedeRuleFriendGate]

/- Addresses the programs rely on that belong to the platform. -/
def system : Pubkey := .default
def token : Pubkey := .ofBase58 "TokenkegQfeZyiNwAJbNbGKPFXCWuBvf9Ss623VQ5DA"
def token2022 : Pubkey := .ofBase58 "TokenzQdBNbLqP5VEhdkAS6EPFLC1PHnBqCXEpPxuEb"
def instructionsSysvar : Pubkey := .ofBase58 "Sysvar1nstructions1111111111111111111111111"

/-- No two of the addresses coincide. -/
theorem addresses_nodup : (system :: token :: token2022 :: instructionsSysvar :: workspace).Nodup := by
  decide +kernel

theorem token2022_foreign : token2022 ≠ system := by
  have apart := addresses_nodup
  simp only [List.nodup_cons, List.mem_cons, not_or] at apart
  exact Ne.symm apart.1.2.1

/-- The programs of the workspace are neither the System program nor Token-2022. -/
theorem workspace_foreign {program : Pubkey} (listed : program ∈ workspace) :
    program ≠ system ∧ program ≠ token2022 := by
  have apart := addresses_nodup
  simp only [List.nodup_cons, List.mem_cons, not_or] at apart
  constructor
  · intro same
    rw [same] at listed
    exact apart.1.2.2.2 listed
  · intro same
    rw [same] at listed
    exact apart.2.2.1.2 listed

end Programs

/-- What the programs take from the chain they run on: address derivation, who
can produce a signature, the rent-exempt minimum, and which bytes the token
programs unpack as a mint. A derived address of the workspace has no private key
and no workspace program signs for one outside its own token calls, and nobody
holds the key of the all-zero address. -/
structure Runtime where
  findProgramAddress : List UInt8 → Pubkey → Pubkey × UInt8
  canSign : Pubkey → Bool
  minimumBalance : Nat → Nat
  unpacksAsMint : List UInt8 → Bool
  pda_cannot_sign : ∀ program ∈ Programs.workspace, ∀ seeds,
    canSign (findProgramAddress seeds program).1 = false
  default_cannot_sign : canSign Pubkey.default = false
  minimumBalance_pos : ∀ space, 0 < minimumBalance space

namespace Runtime

/-- `Pubkey::find_program_address`: only the concatenation of the seeds counts. -/
def pda (rt : Runtime) (seeds : List (List UInt8)) (program : Pubkey) : Pubkey × UInt8 :=
  rt.findProgramAddress seeds.flatten program

/-- Address derivation is collision-free on the given seed strings and programs. -/
def CollisionFree (rt : Runtime) (keys : Set (List UInt8 × Pubkey)) : Prop :=
  Set.InjOn (fun key => (rt.findProgramAddress key.1 key.2).1) keys

theorem CollisionFree.mono {rt : Runtime} {small large : Set (List UInt8 × Pubkey)}
    (free : rt.CollisionFree large) (included : small ⊆ large) : rt.CollisionFree small :=
  Set.InjOn.mono included free

/-- On finitely many keys collision-freeness can be computed. -/
theorem CollisionFree.of_nodup {rt : Runtime} {keys : List (List UInt8 × Pubkey)}
    (distinct : (keys.map fun key => (rt.findProgramAddress key.1 key.2).1).Nodup) :
    rt.CollisionFree {key | key ∈ keys} :=
  fun _ first _ second same => List.inj_on_of_nodup_map distinct first second same

/-- A small concrete chain on which definitions can be evaluated: derived
addresses are polynomial hashes marked by their first byte. -/
def sample : Runtime where
  findProgramAddress seeds program :=
    (⟨255 :: bytesLE 31 ((seeds ++ program.bytes).foldl (fun hash byte =>
      (hash * 263 + byte.toNat) % (2 ^ 247 - 309)) 7), by simp⟩, 254)
  canSign key := key ≠ Pubkey.default ∧ key.bytes.head? ≠ some 255
  minimumBalance space := (128 + space) * 6960
  unpacksAsMint data := data.length = 82 ∧ data[45]? = some 1
  pda_cannot_sign := by simp
  default_cannot_sign := by simp
  minimumBalance_pos space := by omega

/-- The wallets of that chain. -/
def sampleKey (byte : UInt8) : Pubkey := ⟨List.replicate 32 byte, List.length_replicate⟩

end Runtime

end Stede
