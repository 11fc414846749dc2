import Mathlib
import Stede.Solana.Pubkey

set_option autoImplicit false

/- `sdk/src/pdas.ts`: the addresses the TypeScript client derives. -/
namespace Stede.Sdk

def STEDE_VAULT_PROGRAM_ID : Pubkey := .ofBase58 "hkRnTeBdGovUyhC9TCvJjpkaQn7DWxo6YxhhAZ7Avai"
def STEDE_HOOK_PROGRAM_ID : Pubkey := .ofBase58 "Cr1nytaygTvi4h73JhGacAJMbJsYxMvf7syQWpr6CYYv"
def STEDE_HANDLE_REGISTRY_PROGRAM_ID : Pubkey :=
  .ofBase58 "FPpVV8GotRq2cPppWBp1juVun4SC193TpaEPodrmHYaA"
def STEDE_RULE_DAILY_LIMIT_PROGRAM_ID : Pubkey :=
  .ofBase58 "DnNcQGbcGtveExwz16oU9SheonBjADZiaExjC2W3CKi5"
def STEDE_RULE_BLOCK_HANDLE_PROGRAM_ID : Pubkey :=
  .ofBase58 "J1ZZNPoZXHb4qUS7TQKwxFnm9eBE7MFso7gnJkKrH2uq"
def STEDE_RULE_COOLOFF_PROGRAM_ID : Pubkey :=
  .ofBase58 "4Cc51G1AnduEcwtYQTfUKNVmNnERmrBmUv7mCHRQSSUg"
def STEDE_RULE_NEW_RECIPIENT_DELAY_PROGRAM_ID : Pubkey :=
  .ofBase58 "GWhPqirCmLHiYQdHsPXNzG2YexVR6cXsspps8YhPhaRb"
def STEDE_RULE_TIME_WINDOW_PROGRAM_ID : Pubkey :=
  .ofBase58 "8AEdTE3avK5jhVy8osXHfZYnvtn73SSVrRxwuTaytaGu"
def STEDE_RULE_FRIEND_GATE_PROGRAM_ID : Pubkey :=
  .ofBase58 "C2ETjCNkHYdPzNZxJtufmnc3j5at2osxG6csrS9StNk5"

def deriveExtraAccountMetaListPda (rt : Runtime) (stedeMint : Pubkey) : Pubkey :=
  (rt.pda [byteString "extra-account-metas", stedeMint.bytes] STEDE_HOOK_PROGRAM_ID).1

def deriveDailyLimitPda (rt : Runtime) (sender stedeMint : Pubkey) : Pubkey :=
  (rt.pda [byteString "rule_daily_limit", sender.bytes, stedeMint.bytes]
    STEDE_RULE_DAILY_LIMIT_PROGRAM_ID).1

def deriveBlockListPda (rt : Runtime) (sender stedeMint : Pubkey) : Pubkey :=
  (rt.pda [byteString "rule_block_handle", sender.bytes, stedeMint.bytes]
    STEDE_RULE_BLOCK_HANDLE_PROGRAM_ID).1

def deriveCooloffPda (rt : Runtime) (sender stedeMint : Pubkey) : Pubkey :=
  (rt.pda [byteString "rule_cooloff", sender.bytes, stedeMint.bytes]
    STEDE_RULE_COOLOFF_PROGRAM_ID).1

def deriveSlowSendConfigPda (rt : Runtime) (sender stedeMint : Pubkey) : Pubkey :=
  (rt.pda [byteString "slow_send_config", sender.bytes, stedeMint.bytes]
    STEDE_RULE_NEW_RECIPIENT_DELAY_PROGRAM_ID).1

def deriveSlowSendContactPda (rt : Runtime) (sender recipient stedeMint : Pubkey) : Pubkey :=
  (rt.pda [byteString "slow_send_contact", sender.bytes, recipient.bytes, stedeMint.bytes]
    STEDE_RULE_NEW_RECIPIENT_DELAY_PROGRAM_ID).1

def deriveTimeWindowPda (rt : Runtime) (sender stedeMint : Pubkey) : Pubkey :=
  (rt.pda [byteString "time_window", sender.bytes, stedeMint.bytes]
    STEDE_RULE_TIME_WINDOW_PROGRAM_ID).1

def deriveFriendGatePda (rt : Runtime) (sender stedeMint : Pubkey) : Pubkey :=
  (rt.pda [byteString "rule_friend_gate", sender.bytes, stedeMint.bytes]
    STEDE_RULE_FRIEND_GATE_PROGRAM_ID).1

end Stede.Sdk
