import Mathlib
import Stede.Hook.Execute
import Stede.Sdk.Pdas

set_option autoImplicit false

/- The accounts a transfer's hook call gets, against those the rule programs and
the client derive on their own. -/
namespace Stede.Hook

open ExtraAccountMeta

/-- The accounts Token-2022 puts in front, none of them with a privilege. -/
def baseAccounts (rt : Runtime) (source stedeMint destination authority : Pubkey) : List AccountMeta :=
  [source, stedeMint, destination, authority, (extraAccountMetaListPda rt stedeMint).1].map
    fun key => ⟨key, false, false⟩

/-- What the call resolves to, under the names of `Execute`. -/
def resolvedAccounts (rt : Runtime) (source stedeMint destination authority recipient : Pubkey) :
    Execute where
  sourceToken := ⟨source, false, false⟩
  stedeMint := ⟨stedeMint, false, false⟩
  destinationToken := ⟨destination, false, false⟩
  owner := ⟨authority, false, false⟩
  extraAccountMetaList := ⟨(extraAccountMetaListPda rt stedeMint).1, false, false⟩
  stedeRuleDailyLimitProgram := ⟨Programs.stedeRuleDailyLimit, false, false⟩
  dailyLimitPda := ⟨(DailyLimit.kind.pda rt authority stedeMint).1, false, true⟩
  stedeRuleBlockHandleProgram := ⟨Programs.stedeRuleBlockHandle, false, false⟩
  blockListPda := ⟨(BlockList.kind.pda rt authority stedeMint).1, false, false⟩
  stedeRuleCooloffProgram := ⟨Programs.stedeRuleCooloff, false, false⟩
  cooloffPda := ⟨(Cooloff.kind.pda rt authority stedeMint).1, false, true⟩
  stedeRuleNewRecipientDelayProgram := ⟨Programs.stedeRuleNewRecipientDelay, false, false⟩
  slowSendConfigPda := ⟨(SlowSendConfig.kind.pda rt authority stedeMint).1, false, false⟩
  slowSendContactPda := ⟨(SlowSendContact.pda rt authority recipient stedeMint).1, false, false⟩
  stedeRuleTimeWindowProgram := ⟨Programs.stedeRuleTimeWindow, false, false⟩
  timeWindowConfigPda := ⟨(TimeWindowConfig.kind.pda rt authority stedeMint).1, false, false⟩
  stedeRuleFriendGateProgram := ⟨Programs.stedeRuleFriendGate, false, false⟩
  friendGateConfigPda := ⟨(FriendGate.kind.pda rt authority stedeMint).1, false, false⟩
  instructionsSysvar := ⟨Programs.instructionsSysvar, false, false⟩

/-- The accounts of a call in order. -/
def Execute.toList (accounts : Execute) : List AccountMeta :=
  [accounts.sourceToken, accounts.stedeMint, accounts.destinationToken, accounts.owner,
    accounts.extraAccountMetaList, accounts.stedeRuleDailyLimitProgram, accounts.dailyLimitPda,
    accounts.stedeRuleBlockHandleProgram, accounts.blockListPda, accounts.stedeRuleCooloffProgram,
    accounts.cooloffPda, accounts.stedeRuleNewRecipientDelayProgram, accounts.slowSendConfigPda,
    accounts.slowSendContactPda, accounts.stedeRuleTimeWindowProgram, accounts.timeWindowConfigPda,
    accounts.stedeRuleFriendGateProgram, accounts.friendGateConfigPda, accounts.instructionsSysvar]

/-- The entry of an account spelled out. -/
def pubkeyMeta (key : Pubkey) : ExtraAccountMeta := ⟨.pubkey key, false, false⟩

/-- The entry of a rule's config PDA. -/
def configMeta (programIndex : Nat) (seedPrefix : String) (isWritable : Bool) : ExtraAccountMeta :=
  ⟨.externalPda programIndex [.literal (byteString seedPrefix), .accountKey 3, .accountKey 1],
    false, isWritable⟩

/-- The entry of the slow-send contact PDA. -/
def contactMeta : ExtraAccountMeta :=
  ⟨.externalPda 11 [.literal (byteString "slow_send_contact"), .accountKey 3,
    .accountData 2 32 32, .accountKey 1], false, false⟩

/-- Every entry packs into its 32 bytes. -/
theorem extraAccounts_eq_ok : extraAccounts = .ok
    [pubkeyMeta Programs.stedeRuleDailyLimit, configMeta 5 "rule_daily_limit" true,
      pubkeyMeta Programs.stedeRuleBlockHandle, configMeta 7 "rule_block_handle" false,
      pubkeyMeta Programs.stedeRuleCooloff, configMeta 9 "rule_cooloff" true,
      pubkeyMeta Programs.stedeRuleNewRecipientDelay, configMeta 11 "slow_send_config" false,
      contactMeta, pubkeyMeta Programs.stedeRuleTimeWindow, configMeta 14 "time_window" false,
      pubkeyMeta Programs.stedeRuleFriendGate, configMeta 16 "rule_friend_gate" false,
      pubkeyMeta Programs.instructionsSysvar] := rfl

section Steps

variable {rt : Runtime} {ledger : Ledger} {accounts result : List AccountMeta}
  {rest : List ExtraAccountMeta} {isWritable : Bool} {programIndex : Nat} {seedPrefix : String}
  {program stedeMint destination authority : AccountMeta}

theorem resolveAll_pubkey {key : Pubkey}
    (later : resolveAll rt ledger (accounts ++ [⟨key, false, false⟩]) rest = .ok result) :
    resolveAll rt ledger accounts (pubkeyMeta key :: rest) = .ok result := later

/-- A config entry resolves over any call that has the rule's program where the
entry says, the mint at 1 and the authority at 3. -/
theorem resolveAll_config (here : accounts[programIndex]? = some program)
    (mint : accounts[1]? = some stedeMint) (signer : accounts[3]? = some authority)
    (fits : (byteString seedPrefix).length ≤ MAX_SEED_LEN)
    (later : resolveAll rt ledger (accounts ++ [⟨(rt.pda [byteString seedPrefix,
      authority.pubkey.bytes, stedeMint.pubkey.bytes] program.pubkey).1, false, isWritable⟩]) rest =
        .ok result) :
    resolveAll rt ledger accounts (configMeta programIndex seedPrefix isWritable :: rest) =
      .ok result := by
  have wide (key : Pubkey) : key.bytes.length ≤ MAX_SEED_LEN := Nat.le_of_eq key.size
  simpa [configMeta, resolveAll, ExtraAccountMeta.resolve, Seed.resolve, require, here, mint, signer,
    fits, wide, bind, Except.bind, pure, Except.pure, okOr] using later

/-- The contact entry also reads the recipient from the destination's data. -/
theorem resolveAll_contact {recipient : Pubkey} (here : accounts[11]? = some program)
    (mint : accounts[1]? = some stedeMint) (target : accounts[2]? = some destination)
    (signer : accounts[3]? = some authority)
    (long : 64 ≤ (ledger destination.pubkey).data.length)
    (owned : recipient.bytes = ((ledger destination.pubkey).data.drop 32).take 32)
    (later : resolveAll rt ledger (accounts ++ [⟨(rt.pda [SlowSendContact.seedPrefix,
      authority.pubkey.bytes, recipient.bytes, stedeMint.pubkey.bytes] program.pubkey).1, false,
        false⟩]) rest = .ok result) :
    resolveAll rt ledger accounts (contactMeta :: rest) = .ok result := by
  have fits : SlowSendContact.seedPrefix.length ≤ MAX_SEED_LEN := by decide
  have wide (key : Pubkey) : key.bytes.length ≤ MAX_SEED_LEN := Nat.le_of_eq key.size
  have same : byteString "slow_send_contact" = SlowSendContact.seedPrefix := rfl
  simpa [contactMeta, same, resolveAll, ExtraAccountMeta.resolve, Seed.resolve, require, here, mint,
    target, signer, long, ← owned, fits, wide, bind, Except.bind, pure, Except.pure, okOr] using later

end Steps

/-- Position by position, the list resolves to the accounts `Execute` names. -/
theorem extraAccounts_resolve (rt : Runtime) (ledger : Ledger)
    (source stedeMint destination authority recipient : Pubkey)
    (long : 64 ≤ (ledger destination).data.length)
    (owned : recipient.bytes = ((ledger destination).data.drop 32).take 32) :
    (extraAccounts >>= resolveAll rt ledger (baseAccounts rt source stedeMint destination authority)) =
      .ok (resolvedAccounts rt source stedeMint destination authority recipient).toList := by
  rw [extraAccounts_eq_ok, ok_bind]
  apply resolveAll_pubkey
  refine resolveAll_config (by rfl) (by rfl) (by rfl) (by decide) ?_
  apply resolveAll_pubkey
  refine resolveAll_config (by rfl) (by rfl) (by rfl) (by decide) ?_
  apply resolveAll_pubkey
  refine resolveAll_config (by rfl) (by rfl) (by rfl) (by decide) ?_
  apply resolveAll_pubkey
  refine resolveAll_config (by rfl) (by rfl) (by rfl) (by decide) ?_
  refine resolveAll_contact (by rfl) (by rfl) (by rfl) (by rfl) long owned ?_
  apply resolveAll_pubkey
  refine resolveAll_config (by rfl) (by rfl) (by rfl) (by decide) ?_
  apply resolveAll_pubkey
  refine resolveAll_config (by rfl) (by rfl) (by rfl) (by decide) ?_
  apply resolveAll_pubkey
  rfl

/-- The resolved accounts pass the validation of `Execute`. -/
theorem tryAccounts_resolved (rt : Runtime) (ledger : Ledger)
    (source stedeMint destination authority recipient : Pubkey)
    (mint : loadMint rt (ledger stedeMint) = .ok ()) :
    Execute.tryAccounts rt ledger
        (resolvedAccounts rt source stedeMint destination authority recipient).toList =
      .ok (resolvedAccounts rt source stedeMint destination authority recipient) := by
  simp only [Execute.tryAccounts, Execute.toList, resolvedAccounts, mint, loadProgram,
    require_of_true, ok_bind, pure, Except.pure]

theorem initializeExtraAccountMetaList_eq_ok (rt : Runtime) (ledger : Ledger) (lists : MetaLists)
    (accounts : InitializeExtraAccountMetaList) (written : Ledger × MetaLists) :
    initializeExtraAccountMetaList rt ledger lists accounts = .ok written ↔
      accounts.payer.pays rt = true ∧
      accounts.extraAccountMetaList = (extraAccountMetaListPda rt accounts.stedeMint).1 ∧
      loadMint rt (ledger accounts.stedeMint) = .ok () ∧
      ledger accounts.extraAccountMetaList = .absent ∧ ∃ extras, extraAccounts = .ok extras ∧
        written = (ledger.write accounts.extraAccountMetaList
            ⟨rt.minimumBalance (sizeOf extras.length), List.replicate (sizeOf extras.length) 0,
              Programs.stedeHook⟩,
          Function.update lists accounts.extraAccountMetaList (some extras)) := by
  simp only [initializeExtraAccountMetaList, bind_eq_ok, require_eq_ok, exists_const, pure,
    Except.pure, Except.ok.injEq, AccountMeta.pays_iff]
  constructor
  · intro ⟨signed, _, mint, writable, here, extras, packed, unused, same⟩
    exact ⟨⟨signed, writable⟩, here, mint, unused, extras, packed, same.symm⟩
  · intro ⟨⟨signed, writable⟩, here, mint, unused, extras, packed, same⟩
    exact ⟨signed, (), mint, writable, here, extras, packed, unused, same.symm⟩

/-- A chain that holds one mint, wallet 2, and one token account of it, wallet 4,
which belongs to wallet 5. -/
def sampleLedger : Ledger := fun key =>
  if key = Runtime.sampleKey 2 then
    ⟨1, List.replicate 45 0 ++ 1 :: List.replicate 36 0, Programs.token2022⟩
  else if key = Runtime.sampleKey 4 then
    ⟨1, (Runtime.sampleKey 2).bytes ++ (Runtime.sampleKey 5).bytes ++ List.replicate 101 0,
      Programs.token2022⟩
  else .absent

/-- A transaction of that chain with one unsigned instruction. -/
def sampleEnv : Env := ⟨⟨500, 1700000000⟩, [[]], 0⟩

end Stede.Hook
