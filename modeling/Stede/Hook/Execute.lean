import Mathlib
import Stede.Hook.ExtraAccountMetaList
import Stede.Rules.BlockHandle
import Stede.Rules.Cooloff
import Stede.Rules.DailyLimit
import Stede.Rules.FriendGate
import Stede.Rules.NewRecipientDelay
import Stede.Rules.TimeWindow

set_option autoImplicit false

/- The program `stede_hook`: what Token-2022 invokes on every transfer. -/
namespace Stede.Hook

/-- The accounts of `execute()`: five fixed by the interface, then those of the list. -/
structure Execute where
  sourceToken : AccountMeta
  stedeMint : AccountMeta
  destinationToken : AccountMeta
  owner : AccountMeta
  extraAccountMetaList : AccountMeta
  stedeRuleDailyLimitProgram : AccountMeta
  dailyLimitPda : AccountMeta
  stedeRuleBlockHandleProgram : AccountMeta
  blockListPda : AccountMeta
  stedeRuleCooloffProgram : AccountMeta
  cooloffPda : AccountMeta
  stedeRuleNewRecipientDelayProgram : AccountMeta
  slowSendConfigPda : AccountMeta
  slowSendContactPda : AccountMeta
  stedeRuleTimeWindowProgram : AccountMeta
  timeWindowConfigPda : AccountMeta
  stedeRuleFriendGateProgram : AccountMeta
  friendGateConfigPda : AccountMeta
  instructionsSysvar : AccountMeta
deriving DecidableEq

/-- `Program<'info, T>`. -/
def loadProgram (account : AccountMeta) (id : Pubkey) : Except Error Unit :=
  require (account.pubkey = id) (.anchor .invalidProgramId)

/-- `Execute::try_accounts`. -/
def Execute.tryAccounts (rt : Runtime) (ledger : Ledger) : List AccountMeta → Except Error Execute
  | sourceToken :: stedeMint :: destinationToken :: owner :: extraAccountMetaList ::
    stedeRuleDailyLimitProgram :: dailyLimitPda :: stedeRuleBlockHandleProgram :: blockListPda ::
    stedeRuleCooloffProgram :: cooloffPda :: stedeRuleNewRecipientDelayProgram ::
    slowSendConfigPda :: slowSendContactPda :: stedeRuleTimeWindowProgram :: timeWindowConfigPda ::
    stedeRuleFriendGateProgram :: friendGateConfigPda :: instructionsSysvar :: _ => do
      loadMint rt (ledger stedeMint.pubkey)
      loadProgram stedeRuleDailyLimitProgram Programs.stedeRuleDailyLimit
      loadProgram stedeRuleBlockHandleProgram Programs.stedeRuleBlockHandle
      loadProgram stedeRuleCooloffProgram Programs.stedeRuleCooloff
      loadProgram stedeRuleNewRecipientDelayProgram Programs.stedeRuleNewRecipientDelay
      loadProgram stedeRuleTimeWindowProgram Programs.stedeRuleTimeWindow
      loadProgram stedeRuleFriendGateProgram Programs.stedeRuleFriendGate
      require (dailyLimitPda.isWritable) (.anchor .constraintMut)
      require (cooloffPda.isWritable) (.anchor .constraintMut)
      return ⟨sourceToken, stedeMint, destinationToken, owner, extraAccountMetaList,
        stedeRuleDailyLimitProgram, dailyLimitPda, stedeRuleBlockHandleProgram, blockListPda,
        stedeRuleCooloffProgram, cooloffPda, stedeRuleNewRecipientDelayProgram, slowSendConfigPda,
        slowSendContactPda, stedeRuleTimeWindowProgram, timeWindowConfigPda,
        stedeRuleFriendGateProgram, friendGateConfigPda, instructionsSysvar⟩
  | _ => .error (.anchor .accountNotEnoughKeys)

/-- `execute_handler`: six rules in turn, the first refusal ending the transfer. -/
def executeHandler (rt : Runtime) (env : Env) (ledger : Ledger) (accounts : Execute)
    (amount : UInt64) : Except Error Ledger := do
  -- Rule 1: daily limit.
  let ledger ← DailyLimit.checkTransfer rt env.clock ledger accounts.dailyLimitPda amount
  -- Rule 2: block list, on the recipient wallet of the destination token account.
  let recipientWallet ← readPubkey (ledger accounts.destinationToken.pubkey).data 32
    (.program .invalidAccountData)
  BlockList.checkTransfer rt ledger accounts.blockListPda recipientWallet
  -- Rule 3: cool-off.
  let ledger ← Cooloff.checkTransfer rt env.clock ledger accounts.cooloffPda amount
  -- Rule 4: slow send (new recipient delay).
  SlowSend.checkTransfer rt env.clock ledger accounts.slowSendConfigPda
    accounts.slowSendContactPda accounts.destinationToken
  -- Rule 5: time window (night mode).
  TimeWindowConfig.checkTransfer rt env.clock ledger accounts.timeWindowConfigPda accounts.owner
    accounts.stedeMint amount
  -- Rule 6: friend gate.
  FriendGate.checkTransfer rt env ledger accounts.friendGateConfigPda accounts.instructionsSysvar
    amount
  return ledger

/-- `execute`, which anyone may also invoke directly. -/
def execute (rt : Runtime) (env : Env) (ledger : Ledger) (accounts : List AccountMeta)
    (amount : UInt64) : Except Error Ledger := do
  let accounts ← Execute.tryAccounts rt ledger accounts
  executeHandler rt env ledger accounts amount

/-- The discriminator of `spl-transfer-hook-interface:execute`. -/
def EXECUTE_DISCRIMINATOR : List UInt8 := [105, 37, 101, 197, 75, 251, 102, 26]

/-- `fallback`: of the interface's instructions only `Execute` is served. -/
def fallback (rt : Runtime) (env : Env) (ledger : Ledger) (accounts : List AccountMeta)
    (data : List UInt8) : Except Error Ledger := do
  require (data.take 8 = EXECUTE_DISCRIMINATOR ∧ 16 ≤ data.length)
    (.program .invalidInstructionData)
  let amount ← readU64 data 8
  execute rt env ledger accounts amount

end Stede.Hook
