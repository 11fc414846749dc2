import Stede.Policy.Bounds
import Stede.Policy.Transfers
import Stede.Sdk.Transfer

set_option autoImplicit false

/- `StedeClient.transfer` and `StedeClient.buildFriendGateTransfer` on a chain that keeps
the sender's policy: what becomes of the transactions, and what a co-signature is for. -/
namespace Stede.Sdk

open Hook (Rule Chain)
open Policy (Represents Governs check paymentOf slots)

/-- The instructions of a transaction that a friend signs too: those of `transfer`, and
the transfer of no lamports from the friend to the friend that carries the signature. -/
inductive CosignedInstruction
  | client (instruction : TxInstruction)
  | carrier (friendWallet : Pubkey)

def CosignedInstruction.metas : CosignedInstruction → List AccountMeta
  | client instruction => instruction.metas
  | carrier friendWallet => [⟨friendWallet, true, true⟩, ⟨friendWallet, false, true⟩]

section Client

variable {rt : Runtime} (spl : SplToken rt)

/-- The system program's transfer takes a signature, and an account without data. -/
def CosignedInstruction.process (env : Env) (lists : Hook.MetaLists) (ledger : Ledger) :
    CosignedInstruction → Except Error Ledger
  | client instruction => instruction.process spl env lists ledger
  | carrier friendWallet => do
      require (AccountMeta.signed rt ⟨friendWallet, true, true⟩) (.program .privilegeEscalation)
      require ((ledger friendWallet).data = []) (.program .invalidArgument)
      return ledger

def processCosigned (world : World) (all : List (List AccountMeta)) :
    Nat → List CosignedInstruction → Ledger → Except Error Ledger
  | _, [], ledger => .ok ledger
  | index, instruction :: rest, ledger => do
      let ledger ← instruction.process spl ⟨world.clock, all, index⟩ world.lists ledger
      processCosigned world all (index + 1) rest ledger

/-- The caller of `buildFriendGateTransfer` collects both signatures and submits. -/
def submit (world : World) (instructions : List CosignedInstruction) : Except Error Ledger :=
  processCosigned spl world (instructions.map CosignedInstruction.metas) 0 instructions world.ledger

/-- `StedeClient.buildFriendGateTransfer` by the wallet `sender`. -/
def buildFriendGateTransfer (world : World) (sender : Pubkey) (toHandle : String) (stedeMint : Pubkey)
    (amount : UInt64) (decimals : UInt8) (friendWallet : Pubkey) :
    Except Error (List CosignedInstruction) := do
  let recipientRecord ← okOr (resolveHandle rt world.handles toHandle) (.program .invalidArgument)
  let recipient := recipientRecord.owner
  let sourceAta ← getStedeAta spl sender stedeMint
  let destAta ← getStedeAta spl recipient stedeMint
  let transferIx ← createTransferChecked rt world sourceAta stedeMint destAta sender amount decimals
  return (creation rt world sender recipient stedeMint).map .client ++
    [.carrier friendWallet, .client (.transferChecked transferIx)]

end Client

/-- A world on a chain. -/
def World.on (handles : HandleRegistry.State) (clock : Clock) (chain : Chain) : World :=
  ⟨handles, chain.1, chain.2, clock⟩

namespace Request

variable {rt : Runtime} {spl : SplToken rt} {world : World} {request : Request}

def pair (request : Request) : SenderMint := ⟨request.sender, request.stedeMint⟩

/-- What the sender's rules are shown of the transfer, with those who sign it. -/
def payment (request : Request) (clock : Clock) (cosigners : Finset Pubkey) : Payment :=
  ⟨clock.slot.toNat, clock.unixTimestamp.toInt, request.amount.toNat, request.recipient, cosigners⟩

/-- All that the client relies on is there, for a transfer to another account. -/
structure Standing (spl : SplToken rt) (world : World) (request : Request) : Prop where
  platform : request.Platform rt world
  funded : request.Funded rt world
  ready : request.Ready spl world
  apart : request.sourceAta rt ≠ request.destAta rt

/-- Of the client's instruction only the sender is a signer. -/
theorem signersOf_instruction (rt : Runtime) (world : World) (request : Request) :
    FriendGate.signersOf (request.instruction rt world).metas = [request.sender] := by
  have unsigned : ((request.instruction rt world).supplied.filter AccountMeta.isSigner) = [] := by
    rw [instruction_supplied]
    split <;> rfl
  simp only [FriendGate.signersOf, Transfer.metas, List.filter_append, unsigned, List.append_nil]
  rfl

/-- Those who sign a transaction that only transfers. -/
theorem payment_of_transfer (rt : Runtime) (world : World) (request : Request) :
    paymentOf ⟨world.clock, [(request.instruction rt world).metas], 0⟩ request.amount
      request.recipient = request.payment world.clock {request.sender} := by
  simp only [paymentOf, payment, Policy.cosigners, zero_add, List.take_succ_cons, List.take_nil,
    List.flatMap_cons, List.flatMap_nil, signersOf_instruction, List.append_nil,
    List.toFinset_cons, List.toFinset_nil, insert_empty_eq]

theorem payment_of_cosigned (rt : Runtime) (world : World) (request : Request) (friendWallet : Pubkey) :
    paymentOf ⟨world.clock, [(CosignedInstruction.carrier friendWallet).metas,
        (request.instruction rt world).metas], 1⟩ request.amount request.recipient =
      request.payment world.clock {friendWallet, request.sender} := by
  have carried : FriendGate.signersOf (CosignedInstruction.carrier friendWallet).metas =
      [friendWallet] := rfl
  simp only [paymentOf, payment, Policy.cosigners, Nat.reduceAdd, List.take_succ_cons, List.take_nil,
    List.flatMap_cons, List.flatMap_nil, signersOf_instruction, carried, List.append_nil,
    List.cons_append, List.nil_append, List.toFinset_cons, List.toFinset_nil, insert_empty_eq]

section Standing

variable (standing : request.Standing spl world)
include standing

theorem Standing.prepared :
    Policy.Prepared spl.token (world.ledger, world.lists) (request.instruction rt world)
      request.recipient := by
  obtain ⟨platform, funded, ready, apart⟩ := standing
  obtain ⟨_, destHolds, _⟩ := ready.recipientAccount
  obtain ⟨_, mintOwner, mintData, decimals⟩ := ready.mint
  have valid : (request.instruction rt world).Valid rt world.ledger :=
    ⟨⟨mintOwner, mintData⟩, decimals, funded.1, destHolds, Or.inl funded.2.1, funded.2.2, ready.room⟩
  have signed : (request.instruction rt world).authority.signed rt = true := by
    simp only [instruction, AccountMeta.signed, platform.signs, Bool.and_self]
  obtain ⟨moved, paid⟩ := spl.token.move_complete _ _ signed valid ready.admitted
  have listed := ready.list apart
  refine ⟨?_, listed, if_pos listed, writableApart platform funded.1 destHolds mintOwner,
    platform.mint⟩
  show (spl.token.move world.ledger (request.instruction rt world)).toOption.isSome = true
  rw [paid]
  rfl

theorem Standing.credited {env : Env} {after : Ledger}
    (settled : Hook.transferChecked spl.token env world.ledger world.lists
      (request.instruction rt world) = .ok after) : request.Credited rt world.ledger after := by
  obtain ⟨_, _, owned⟩ := standing.ready.recipientAccount
  obtain ⟨moved, paid, rest⟩ := Hook.transferChecked_eq_ok.mp settled
  rcases rest with ⟨self, _⟩ | ⟨_, called, invoked, same⟩
  · exact absurd self standing.apart
  · obtain ⟨_, _, _, _, executed⟩ := Hook.invokeExecute_eq_ok.mp invoked
    have held : (moved (request.destAta rt)).owner = Programs.token2022 :=
      ((spl.token.move_keeps _ _ _ paid).program _).trans
        (spl.token.move_valid _ _ _ paid).1.destination.1
    have untouched := Hook.execute_spares_tokens held executed
    apply credited_of_moved paid owned
    · rw [same, (spl.token.settle_keeps called _).parties, untouched]
    · rw [same, spl.token.settle_amount, untouched]

/-- The recipient's account is there already, so the client's transaction only transfers. -/
theorem Standing.built : creation rt world request.sender request.recipient request.stedeMint = [] ∧
    createTransferChecked rt world (request.sourceAta rt) request.stedeMint (request.destAta rt)
      request.sender request.amount request.decimals = .ok (request.instruction rt world) := by
  obtain ⟨platform, funded, ready, _⟩ := standing
  obtain ⟨present, holds, owned⟩ := ready.recipientAccount
  obtain ⟨exists_mint, mintOwner, mintData, _⟩ := ready.mint
  exact ⟨creation_of_present present, createTransferChecked_eq platform funded.1 holds mintOwner
    ⟨exists_mint, mintData⟩ present owned⟩

section Transactions

variable {toHandle : String} (resolves : (resolveHandle rt world.handles toHandle).map
  HandleRegistry.Handle.owner = some request.recipient)
include resolves

theorem Standing.transfer_eq :
    transfer spl world request.sender toHandle request.stedeMint request.amount request.decimals =
      Hook.transferChecked spl.token ⟨world.clock, [(request.instruction rt world).metas], 0⟩
        world.ledger world.lists (request.instruction rt world) := by
  obtain ⟨handle, found, owner⟩ := Option.map_eq_some_iff.mp resolves
  obtain ⟨created, built⟩ := standing.built
  obtain ⟨signer, receiver⟩ := standing.ready.onCurve
  rw [sourceAta, destAta] at built
  simp only [transfer, found, okOr, ok_bind, owner, getStedeAta, require_of_true signer,
    require_of_true receiver, pure_bind, built, created, List.nil_append]
  exact send_transfer _

/-- The transfer comes after the carrier of the signature. -/
theorem Standing.built_eq {friendWallet : Pubkey} (signs : rt.canSign friendWallet = true)
    (bare : (world.ledger friendWallet).data = []) :
    (buildFriendGateTransfer spl world request.sender toHandle request.stedeMint request.amount
        request.decimals friendWallet >>= submit spl world) =
      Hook.transferChecked spl.token
        ⟨world.clock, [(CosignedInstruction.carrier friendWallet).metas,
          (request.instruction rt world).metas], 1⟩
        world.ledger world.lists (request.instruction rt world) := by
  obtain ⟨handle, found, owner⟩ := Option.map_eq_some_iff.mp resolves
  obtain ⟨created, built⟩ := standing.built
  obtain ⟨signer, receiver⟩ := standing.ready.onCurve
  have signed : AccountMeta.signed rt ⟨friendWallet, true, true⟩ = true := by
    rw [AccountMeta.signed, signs]
    rfl
  rw [sourceAta, destAta] at built
  simp only [buildFriendGateTransfer, found, okOr, ok_bind, owner, getStedeAta,
    require_of_true signer, require_of_true receiver, pure_bind, built, created, List.map_nil,
    List.nil_append]
  simp only [submit, List.map_cons, List.map_nil, processCosigned, CosignedInstruction.process,
    require_of_true signed, require_of_true bare, ok_bind, pure_bind]
  exact bind_pure _

end Transactions

variable {policy : Policy}
  (governs : Governs request.pair {request.recipient} rt (world.ledger, world.lists) policy)
include governs

/-- In any transaction the client's instruction has the verdict of the policy. -/
theorem Standing.agrees (env : Env) :
    Agrees (fun after changed => Represents rt request.pair {request.recipient} after changed ∧
        request.Credited rt world.ledger after)
      (Hook.transferChecked spl.token env world.ledger world.lists (request.instruction rt world))
      (check (paymentOf env request.amount request.recipient) policy Rule.all) := by
  have own : ∀ slot ∈ slots {request.recipient}, (⟨request.pair, slot⟩ : RuleKey) ∈
      Hook.transferKeys request.sender request.sender request.recipient request.stedeMint := by
    intro slot member
    exact ⟨Or.inl rfl, rfl, fun other contact => Finset.mem_singleton.mp (member other contact)⟩
  have agrees := @Policy.prepared_agrees rt spl.token request.pair {request.recipient} _
    (world.ledger, world.lists) policy env (request.instruction rt world) request.recipient
    standing.platform.free own governs ⟨rfl, rfl, standing.apart⟩ (Finset.mem_singleton_self _)
    standing.prepared standing.ready.recipientAccount.2.2
  exact agrees.mono fun after changed settled _ represents => ⟨represents, standing.credited settled⟩

variable {toHandle : String} (resolves : (resolveHandle rt world.handles toHandle).map
  HandleRegistry.Handle.owner = some request.recipient)
include resolves

theorem Standing.transfer_agrees :
    Agrees (fun after changed => Represents rt request.pair {request.recipient} after changed ∧
        request.Credited rt world.ledger after)
      (transfer spl world request.sender toHandle request.stedeMint request.amount request.decimals)
      (check (request.payment world.clock {request.sender}) policy Rule.all) := by
  rw [standing.transfer_eq resolves, ← payment_of_transfer rt world request]
  exact standing.agrees governs _

theorem Standing.built_agrees {friendWallet : Pubkey} (signs : rt.canSign friendWallet = true)
    (bare : (world.ledger friendWallet).data = []) :
    Agrees (fun after changed => Represents rt request.pair {request.recipient} after changed ∧
        request.Credited rt world.ledger after)
      (buildFriendGateTransfer spl world request.sender toHandle request.stedeMint request.amount
        request.decimals friendWallet >>= submit spl world)
      (check (request.payment world.clock {friendWallet, request.sender}) policy Rule.all) := by
  rw [standing.built_eq resolves signs bare, ← payment_of_cosigned rt world request friendWallet]
  exact standing.agrees governs _

end Standing

end Request

/-- The policy that the events on a chain have made for a pair. -/
def policyAfter {rt : Runtime} (token : Token2022 rt) (pair : SenderMint) (recipients : Finset Pubkey)
    (start : Chain) (events : List Hook.Event) : Policy :=
  Run.run (Policy.step pair.sender) Policy.empty (Refinement.observed (Hook.happen token)
    (Policy.observeChain token pair recipients) start events)

section Reached

variable {rt : Runtime} {token : Token2022 rt} {pair : SenderMint} {recipients : Finset Pubkey}
  {inPlay : Set RuleKey} {start : Chain} {events : List Hook.Event}

theorem policyAfter_governs (free : rt.CollisionFree (RuleKey.derivation '' inPlay))
    (own : ∀ slot ∈ slots recipients, ⟨pair, slot⟩ ∈ inPlay) (written : Hook.ListsWritten start.2)
    (unused : ∀ slot ∈ slots recipients, (start.1 (RuleKey.address rt ⟨pair, slot⟩)).Unused)
    (within : ∀ event ∈ events, Policy.WithinChain pair recipients rt inPlay event) :
    Governs pair recipients rt (Run.run (Hook.happen token) start events)
      (policyAfter token pair recipients start events) :=
  ((Policy.chain_simulates token free own within).run
    (And.intro (Policy.represents_empty unused) written)).1

/-- No sender is a friend of their own. -/
theorem policyAfter_befriended :
    Policy.Befriended pair.sender (policyAfter token pair recipients start events) := by
  apply Run.run_invariant
  · intro gate held
    cases held
  · intro policy action next _ befriended success
    exact Policy.step_befriended befriended success

end Reached

/-- On every chain that there can be, both transactions of the client have the verdict
that the policy of the events so far has on the payment, the one with the friend's
signature and the one without, and what they leave behind is the policy after it and the
recipient's money. -/
theorem client_transfers_obeyed (rt : Runtime) (spl : SplToken rt) (request : Request)
    (inPlay : Set RuleKey) (free : rt.CollisionFree (RuleKey.derivation '' inPlay))
    (own : ∀ slot ∈ slots {request.recipient}, ⟨request.pair, slot⟩ ∈ inPlay) (start : Chain)
    (written : Hook.ListsWritten start.2)
    (unused : ∀ slot ∈ slots {request.recipient},
      (start.1 (RuleKey.address rt ⟨request.pair, slot⟩)).Unused)
    (events : List Hook.Event)
    (within : ∀ event ∈ events, Policy.WithinChain request.pair {request.recipient} rt inPlay event)
    (handles : HandleRegistry.State) (clock : Clock) (toHandle : String)
    (resolves : (resolveHandle rt handles toHandle).map HandleRegistry.Handle.owner =
      some request.recipient)
    (standing : request.Standing spl
      (.on handles clock (Run.run (Hook.happen spl.token) start events))) :
    Agrees (fun after changed => Represents rt request.pair {request.recipient} after changed ∧
        request.Credited rt (Run.run (Hook.happen spl.token) start events).1 after)
      (transfer spl (.on handles clock (Run.run (Hook.happen spl.token) start events)) request.sender
        toHandle request.stedeMint request.amount request.decimals)
      (check (request.payment clock {request.sender})
        (policyAfter spl.token request.pair {request.recipient} start events) Rule.all) ∧
    ∀ friendWallet, rt.canSign friendWallet = true →
      ((Run.run (Hook.happen spl.token) start events).1 friendWallet).data = [] →
      Agrees (fun after changed => Represents rt request.pair {request.recipient} after changed ∧
          request.Credited rt (Run.run (Hook.happen spl.token) start events).1 after)
        (buildFriendGateTransfer spl (.on handles clock (Run.run (Hook.happen spl.token) start events))
            request.sender toHandle request.stedeMint request.amount request.decimals friendWallet >>=
          submit spl (.on handles clock (Run.run (Hook.happen spl.token) start events)))
        (check (request.payment clock {friendWallet, request.sender})
          (policyAfter spl.token request.pair {request.recipient} start events) Rule.all) := by
  have governs := @policyAfter_governs rt spl.token request.pair {request.recipient} inPlay start events
    free own written unused within
  exact ⟨standing.transfer_agrees governs resolves,
    fun friendWallet signs bare => standing.built_agrees governs resolves signs bare⟩

/-- While the sender has a friend gate, no amount from its threshold on can be sent by
`transfer`; a transaction of `buildFriendGateTransfer` sends it exactly if the friend it
was built for is the friend of the gate, and the other rules accept. -/
theorem friend_gate_transfers (rt : Runtime) (spl : SplToken rt) (request : Request)
    (inPlay : Set RuleKey) (free : rt.CollisionFree (RuleKey.derivation '' inPlay))
    (own : ∀ slot ∈ slots {request.recipient}, ⟨request.pair, slot⟩ ∈ inPlay) (start : Chain)
    (written : Hook.ListsWritten start.2)
    (unused : ∀ slot ∈ slots {request.recipient},
      (start.1 (RuleKey.address rt ⟨request.pair, slot⟩)).Unused)
    (events : List Hook.Event)
    (within : ∀ event ∈ events, Policy.WithinChain request.pair {request.recipient} rt inPlay event)
    (handles : HandleRegistry.State) (clock : Clock) (toHandle : String)
    (resolves : (resolveHandle rt handles toHandle).map HandleRegistry.Handle.owner =
      some request.recipient)
    (standing : request.Standing spl
      (.on handles clock (Run.run (Hook.happen spl.token) start events)))
    (friendGate : FriendGate)
    (configured : FriendGate.kind.load ((Run.run (Hook.happen spl.token) start events).1
      (RuleKey.address rt ⟨request.pair, .friendGate⟩)) = .ok friendGate)
    (large : friendGate.threshold ≤ request.amount) :
    (∀ after, transfer spl (.on handles clock (Run.run (Hook.happen spl.token) start events))
      request.sender toHandle request.stedeMint request.amount request.decimals ≠ .ok after) ∧
    ∀ friendWallet, rt.canSign friendWallet = true →
      ((Run.run (Hook.happen spl.token) start events).1 friendWallet).data = [] →
      ((∃ after, (buildFriendGateTransfer spl
            (.on handles clock (Run.run (Hook.happen spl.token) start events)) request.sender toHandle
            request.stedeMint request.amount request.decimals friendWallet >>=
          submit spl (.on handles clock (Run.run (Hook.happen spl.token) start events))) = .ok after ∧
          request.Credited rt (Run.run (Hook.happen spl.token) start events).1 after) ↔
        friendWallet = friendGate.friendWallet ∧
          ∃ changed, check (request.payment clock {friendWallet, request.sender})
            (policyAfter spl.token request.pair {request.recipient} start events) Policy.ungated =
              .ok changed) := by
  have governs := @policyAfter_governs rt spl.token request.pair {request.recipient} inPlay start events
    free own written unused within
  have set := ConfigKind.Shows.of_load (governs.1 .friendGate (Policy.mem_slots (by simp))) configured
  have other : friendGate.gate.friend ≠ request.sender := policyAfter_befriended _ set
  have gated (cosigners : Finset Pubkey) (changed : Policy) :
      check (request.payment clock cosigners) _ Rule.all = .ok changed ↔ _ :=
    Policy.check_gated set (UInt64.le_iff_toNat_le.mp large)
  constructor
  · intro after sent
    obtain ⟨changed, accepted, _⟩ := (standing.transfer_agrees governs resolves).ok_of_ok sent
    have signed := ((gated _ _).mp accepted).2
    exact other (Finset.mem_singleton.mp signed)
  · intro friendWallet signs bare
    have agrees := standing.built_agrees governs resolves signs bare
    constructor
    · rintro ⟨after, sent, _⟩
      obtain ⟨changed, accepted, _⟩ := agrees.ok_of_ok sent
      obtain ⟨others, signed⟩ := (gated _ _).mp accepted
      rcases Finset.mem_insert.mp signed with same | self
      · exact ⟨same.symm, changed, others⟩
      · exact absurd (Finset.mem_singleton.mp self) other
    · rintro ⟨same, changed, others⟩
      have accepted := (gated {friendWallet, request.sender} changed).mpr
        ⟨others, Finset.mem_insert.mpr (Or.inl same.symm)⟩
      obtain ⟨after, sent, _, credited⟩ := agrees.ok_of_accepted accepted
      exact ⟨after, sent, credited⟩

/- Wallet 1 asks for the signature of wallet 8 from 40 on, and sends 50. -/
section Sample

open Stede.Runtime (sampleKey)

def sampleStart : Chain := (samplePresent.ledger, samplePresent.lists)

def sampleGateEvents : List Hook.Event :=
  [.process Hook.sampleEnv (.setFriendGate (Policy.sampleSet .friendGate) 40 (sampleKey 8))]

def sampleGuarded : World := .on samplePresent.handles samplePresent.clock
  (Run.run (Hook.happen plainSpl.token) sampleStart sampleGateEvents)

def sampleFriend : FriendGate :=
  ⟨sampleKey 1, sampleKey 2, 40, sampleKey 8, (FriendGate.kind.pda .sample (sampleKey 1) (sampleKey 2)).2⟩

theorem sample_gate_within : ∀ event ∈ sampleGateEvents, Policy.WithinChain sampleRequest.pair
    {sampleRequest.recipient} .sample {key | key ∈ Policy.sampleKeys} event := by
  intro event member
  rw [List.mem_singleton.mp member]
  exact .of_process (by decide)

theorem sample_gate_unused : ∀ slot ∈ slots {sampleRequest.recipient},
    (sampleStart.1 (RuleKey.address .sample ⟨sampleRequest.pair, slot⟩)).Unused := by
  have unused : ∀ key ∈ Policy.sampleKeys, (sampleStart.1 (key.address .sample)).owner =
      Programs.system ∧ (sampleStart.1 (key.address .sample)).data = [] := by
    decide +kernel
  intro slot member
  exact unused _ (Policy.sample_own slot member)

theorem guarded_evaluates :
    sampleRequest.Funded .sample sampleGuarded ∧
      (∀ key ∈ Hook.partyKeys (sampleKey 1) (sampleKey 1),
        (sampleGuarded.ledger (key.address .sample)).owner ≠ Programs.token2022) ∧
      ((sampleGuarded.ledger (sampleRequest.destAta .sample)).lamports ≠ 0 ∧
        (sampleGuarded.ledger (sampleRequest.destAta .sample)).HoldsTokens sampleRequest.stedeMint ∧
        (sampleGuarded.ledger (sampleRequest.destAta .sample)).tokenOwner = some sampleRequest.recipient) ∧
      ((sampleGuarded.ledger sampleRequest.stedeMint).lamports ≠ 0 ∧
        (sampleGuarded.ledger sampleRequest.stedeMint).owner = Programs.token2022 ∧
        Runtime.sample.unpacksAsMint (sampleGuarded.ledger sampleRequest.stedeMint).data = true ∧
        (sampleGuarded.ledger sampleRequest.stedeMint).data[44]? = some sampleRequest.decimals) ∧
      (sampleGuarded.lists (Hook.extraAccountMetaListPda .sample sampleRequest.stedeMint).1).isSome = true ∧
      (sampleGuarded.ledger (sampleRequest.destAta .sample)).tokenAmount + sampleRequest.amount.toNat < 2 ^ 64 ∧
      sampleRequest.sourceAta .sample ≠ sampleRequest.destAta .sample ∧
      plainSpl.isOnCurve sampleRequest.sender = true ∧ plainSpl.isOnCurve sampleRequest.recipient = true ∧
      FriendGate.kind.load ((Run.run (Hook.happen plainSpl.token) sampleStart sampleGateEvents).1
        (RuleKey.address .sample ⟨sampleRequest.pair, .friendGate⟩)) = .ok sampleFriend := by
  decide +kernel

theorem sample_start_written : Hook.ListsWritten sampleStart.2 := Hook.sample_written

theorem sample_gate_own : ∀ slot ∈ slots {sampleRequest.recipient},
    ⟨sampleRequest.pair, slot⟩ ∈ {key | key ∈ Policy.sampleKeys} := Policy.sample_own

theorem sample_gate_written : Hook.ListsWritten sampleGuarded.lists := by
  have governs := @policyAfter_governs .sample plainSpl.token sampleRequest.pair
    {sampleRequest.recipient} _ sampleStart sampleGateEvents Policy.sample_free sample_gate_own
    sample_start_written sample_gate_unused sample_gate_within
  dsimp only [sampleGuarded, World.on]
  exact governs.2

theorem sample_standing :
    sampleRequest.Standing plainSpl sampleGuarded := by
  obtain ⟨_, _, _, signs, _, derived, mint⟩ := present_evaluates
  obtain ⟨funded, foreign, present, minted, listed, room, apart, sender, recipient, _⟩ :=
    guarded_evaluates
  refine ⟨⟨signs, sample_gate_written, ?_, ?_, derived, mint⟩, funded,
    ⟨present, ⟨sender, recipient⟩, minted, fun _ => listed, fun _ => room, ?_⟩, apart⟩
  · intro key member
    exact foreign key (Hook.transferKeys_listed member)
  · apply Hook.sample_free.mono
    apply Set.image_mono
    rintro key ⟨party, mint, contact⟩
    exact ⟨Or.inl (party.elim id id), mint, contact⟩
  · show AccountMeta.signed .sample ⟨sampleRequest.sender, true, false⟩ = true
    rw [AccountMeta.signed, signs]
    rfl

/-- The friend, and another wallet, can sign, and hold no data. -/
theorem sample_friends : ∀ wallet ∈ [sampleKey 8, sampleKey 9],
    Runtime.sample.canSign wallet = true ∧
      ((Run.run (Hook.happen plainSpl.token) sampleStart sampleGateEvents).1 wallet).data = [] := by
  decide +kernel

theorem client_transfers_obeyed_sample :
    Agrees (fun _ _ => True)
      (transfer plainSpl sampleGuarded (sampleKey 1) "kay" (sampleKey 2) 50 0)
      (check (sampleRequest.payment samplePresent.clock {sampleKey 1})
        (policyAfter plainSpl.token sampleRequest.pair {sampleKey 5} sampleStart sampleGateEvents)
          Rule.all) ∧
    Agrees (fun after _ => sampleRequest.Credited .sample
        (Run.run (Hook.happen plainSpl.token) sampleStart sampleGateEvents).1 after)
      (buildFriendGateTransfer plainSpl sampleGuarded (sampleKey 1) "kay" (sampleKey 2) 50 0
          (sampleKey 8) >>=
        submit plainSpl sampleGuarded)
      (check (sampleRequest.payment samplePresent.clock {sampleKey 8, sampleKey 1})
        (policyAfter plainSpl.token sampleRequest.pair {sampleKey 5} sampleStart sampleGateEvents)
          Rule.all) := by
  obtain ⟨alone, cosigned⟩ := client_transfers_obeyed .sample plainSpl sampleRequest
    {key | key ∈ Policy.sampleKeys} Policy.sample_free sample_gate_own sampleStart sample_start_written
    sample_gate_unused sampleGateEvents sample_gate_within samplePresent.handles samplePresent.clock "kay"
    present_evaluates.1 sample_standing
  obtain ⟨signs, bare⟩ := sample_friends (sampleKey 8) (by simp)
  exact ⟨alone.mono fun _ _ _ _ _ => trivial,
    (cosigned (sampleKey 8) signs bare).mono fun _ _ _ _ settled => settled.2⟩

theorem friend_gate_transfers_sample :
    sampleFriend.threshold ≤ sampleRequest.amount ∧
      (∀ after, transfer plainSpl sampleGuarded (sampleKey 1) "kay" (sampleKey 2) 50 0 ≠ .ok after) ∧
      (∃ after, (buildFriendGateTransfer plainSpl sampleGuarded (sampleKey 1) "kay" (sampleKey 2) 50 0
          (sampleKey 8) >>= submit plainSpl sampleGuarded) = .ok after ∧
        sampleRequest.Credited .sample
          (Run.run (Hook.happen plainSpl.token) sampleStart sampleGateEvents).1 after) ∧
      ¬ ∃ after, (buildFriendGateTransfer plainSpl sampleGuarded (sampleKey 1) "kay" (sampleKey 2) 50 0
          (sampleKey 9) >>= submit plainSpl sampleGuarded) = .ok after ∧
        sampleRequest.Credited .sample
          (Run.run (Hook.happen plainSpl.token) sampleStart sampleGateEvents).1 after := by
  have large : sampleFriend.threshold ≤ sampleRequest.amount := by
    decide
  obtain ⟨_, _, _, _, _, _, _, _, _, configured⟩ := guarded_evaluates
  obtain ⟨alone, cosigned⟩ := friend_gate_transfers .sample plainSpl sampleRequest
    {key | key ∈ Policy.sampleKeys} Policy.sample_free sample_gate_own sampleStart sample_start_written
    sample_gate_unused sampleGateEvents sample_gate_within samplePresent.handles samplePresent.clock "kay"
    present_evaluates.1 sample_standing sampleFriend configured large
  obtain ⟨signs, bare⟩ := sample_friends (sampleKey 8) (by simp)
  obtain ⟨signs', bare'⟩ := sample_friends (sampleKey 9) (by simp)
  refine ⟨large, alone, (cosigned (sampleKey 8) signs bare).mpr ⟨rfl, ?_⟩, ?_⟩
  · exact isOk_iff_exists.mp (by decide +kernel)
  · intro settled
    exact absurd ((cosigned (sampleKey 9) signs' bare').mp settled).1 (by decide)

end Sample

end Stede.Sdk
