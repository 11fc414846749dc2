import Mathlib
import Stede.Solana.ExtraAccounts

set_option autoImplicit false

/- The program `stede_hook`: the list of extra accounts it has Token-2022 pass. -/
namespace Stede.Hook

open ExtraAccountMeta

/-- Token-2022 looks for this exact seed when resolving extra accounts. -/
def EXTRA_ACCOUNT_META_LIST_SEED : List UInt8 := byteString "extra-account-metas"

def extraAccountMetaListPda (rt : Runtime) (stedeMint : Pubkey) : Pubkey × UInt8 :=
  rt.pda [EXTRA_ACCOUNT_META_LIST_SEED, stedeMint.bytes] Programs.stedeHook

/-- The list accounts by address. Their bytes are laid out by the crate that
resolves them; this is what it reads back. -/
abbrev MetaLists := Pubkey → Option (List ExtraAccountMeta)

/-- The accounts of `InitializeExtraAccountMetaList`. -/
structure InitializeExtraAccountMetaList where
  payer : AccountMeta
  extraAccountMetaList : Pubkey
  stedeMint : Pubkey

/-- The entry of a rule's config PDA, whose seeds are the rule's prefix, account 3
and account 1: the authority of the transfer and the Stede mint. -/
def configEntry (programIndex : Nat) (seedPrefix : String) (isWritable : Bool) :
    Except Error ExtraAccountMeta :=
  newExternalPdaWithSeeds programIndex
    [.literal (byteString seedPrefix), .accountKey 3, .accountKey 1] false isWritable

/-- The `extra_accounts` vector; the first entry is account 5 of the call. -/
def extraAccounts : Except Error (List ExtraAccountMeta) := do
  -- 5, 6: daily limit, whose PDA is writable (mutates `spent_today`)
  let dailyLimitProgram ← newWithPubkey Programs.stedeRuleDailyLimit false false
  let dailyLimitPda ← configEntry 5 "rule_daily_limit" true
  -- 7, 8: block list
  let blockHandleProgram ← newWithPubkey Programs.stedeRuleBlockHandle false false
  let blockListPda ← configEntry 7 "rule_block_handle" false
  -- 9, 10: cool-off, whose PDA is writable (mutates `last_large_transfer_at`)
  let cooloffProgram ← newWithPubkey Programs.stedeRuleCooloff false false
  let cooloffPda ← configEntry 9 "rule_cooloff" true
  -- 11, 12, 13: slow send; the recipient is the owner field of the destination
  let newRecipientDelayProgram ← newWithPubkey Programs.stedeRuleNewRecipientDelay false false
  let slowSendConfigPda ← configEntry 11 "slow_send_config" false
  let slowSendContactPda ← newExternalPdaWithSeeds 11
    [.literal (byteString "slow_send_contact"), .accountKey 3, .accountData 2 32 32, .accountKey 1]
    false false
  -- 14, 15: time window
  let timeWindowProgram ← newWithPubkey Programs.stedeRuleTimeWindow false false
  let timeWindowConfigPda ← configEntry 14 "time_window" false
  -- 16, 17: friend gate
  let friendGateProgram ← newWithPubkey Programs.stedeRuleFriendGate false false
  let friendGateConfigPda ← configEntry 16 "rule_friend_gate" false
  -- 18: the instructions sysvar, at its fixed address
  let instructionsSysvar ← newWithPubkey Programs.instructionsSysvar false false
  return [dailyLimitProgram, dailyLimitPda, blockHandleProgram, blockListPda, cooloffProgram,
    cooloffPda, newRecipientDelayProgram, slowSendConfigPda, slowSendContactPda, timeWindowProgram,
    timeWindowConfigPda, friendGateProgram, friendGateConfigPda, instructionsSysvar]

/-- `ExtraAccountMetaList::size_of`: a type, a length and a count in front of
35 bytes for each entry. -/
def sizeOf (count : Nat) : Nat := 16 + 35 * count

/-- `InterfaceAccount<Mint>`: a mint of either token program. -/
def loadMint (rt : Runtime) (account : Account) : Except Error Unit := do
  require (¬ (account.owner = Programs.system ∧ account.lamports = 0))
    (.anchor .accountNotInitialized)
  require (account.owner = Programs.token ∨ account.owner = Programs.token2022)
    (.anchor .accountOwnedByWrongProgram)
  require (rt.unpacksAsMint account.data) (.program .invalidAccountData)

/-- `initialize_extra_account_meta_list`. Anyone may call it, once for each mint:
`create_account` refuses an address that is already in use or funded. -/
def initializeExtraAccountMetaList (rt : Runtime) (ledger : Ledger) (lists : MetaLists)
    (accounts : InitializeExtraAccountMetaList) : Except Error (Ledger × MetaLists) := do
  require (accounts.payer.signed rt) (.anchor .accountNotSigner)
  loadMint rt (ledger accounts.stedeMint)
  require accounts.payer.isWritable (.anchor .constraintMut)
  require (accounts.extraAccountMetaList = (extraAccountMetaListPda rt accounts.stedeMint).1)
    (.anchor .constraintSeeds)
  let extraAccounts ← extraAccounts
  let accountSize := sizeOf extraAccounts.length
  require (ledger accounts.extraAccountMetaList = .absent) (.program .accountAlreadyInUse)
  let created := ⟨rt.minimumBalance accountSize, List.replicate accountSize 0, Programs.stedeHook⟩
  return (ledger.write accounts.extraAccountMetaList created,
    Function.update lists accounts.extraAccountMetaList (some extraAccounts))

/-- The address of a live mint is in use, so the first check adds nothing. -/
theorem loadMint_eq_ok (rt : Runtime) (account : Account) (result : Unit) :
    loadMint rt account = .ok result ↔
      (account.owner = Programs.token ∨ account.owner = Programs.token2022) ∧
        rt.unpacksAsMint account.data = true := by
  have classic : Programs.token ≠ Programs.system := by decide +kernel
  have extended : Programs.token2022 ≠ Programs.system := by decide +kernel
  simp only [loadMint, bind_eq_ok, require_eq_ok, exists_const]
  refine and_iff_right_of_imp ?_
  rintro ⟨owner | owner, _⟩ ⟨unused, _⟩
  · exact classic (owner.symm.trans unused)
  · exact extended (owner.symm.trans unused)

end Stede.Hook
