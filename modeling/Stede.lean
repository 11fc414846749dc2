import Stede.Lib.Checked
import Stede.Lib.Run
import Stede.Solana.Anchor
import Stede.Rules.DailyLimit
import Stede.Rules.BlockHandle
import Stede.Rules.Cooloff
import Stede.Rules.FriendGate
import Stede.Rules.NewRecipientDelay
import Stede.Rules.TimeWindow
import Stede.Solana.ExtraAccounts
import Stede.Hook.Execute
import Stede.Sdk.Pdas
import Stede.Hook.Resolution
import Stede.Hook.SlotAgreement
import Stede.Hook.Conjunction
import Stede.HandleRegistry.Registry
import Stede.Lib.Inverse
import Stede.HandleRegistry.Bijection
import Stede.Lib.Custody
import Stede.Lib.Holdings
import Stede.Solana.Token
import Stede.Solana.TokenEffects
import Stede.StedeVault.Vault
import Stede.StedeVault.Wiring
import Stede.StedeVault.Solvency
import Stede.StedeVault.Accounting
import Stede.StedeVault.Redemption
import Stede.Lib.Window
import Stede.Rules.DailyWindow
import Stede.Rules.CooloffHistory
import Stede.Hook.Isolation
import Stede.Rules.DailyHistory
import Stede.Rules.CooloffSpacing
import Stede.Lib.Slots
import Stede.Rules.BlockedSet
import Stede.Rules.Layouts
import Stede.Lib.Circular
import Stede.Rules.NightMode
import Stede.Hook.CoSignature
import Stede.Rules.SlowSendHistory
import Stede.Rules.DecodersAgree
import Stede.Rules.Recording
import Stede.Hook.Allowance
import Stede.Hook.Transfer
import Stede.Hook.OwnerBound
import Stede.Sdk.Transfer
import Stede.Hook.Simulation
import Stede.Sdk.Preview
import Stede.HandleRegistry.Deposit
import Stede.HandleRegistry.Grammar
import Stede.Sdk.BufferPolyfill
import Stede.Lib.Refinement
import Stede.Policy.Checks
import Stede.Policy.Refines
import Stede.Policy.Transfers
import Stede.Policy.Outflow
import Stede.Sdk.Rules
import Stede.HandleRegistry.Directory
import Stede.Sdk.Handles
import Stede.Sdk.FriendTransfer
import Stede.Lib.Custodian
import Stede.Sdk.Wrapping
import Stede.StedeVault.Custodian
import Stede.StedeVault.History
