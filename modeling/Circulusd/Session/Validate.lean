import Circulusd.Session.JournalChecks

/-
The validation of a whole session state, its capacity and its payload references.
-/

namespace Circulusd.Session

open Checked Journal Protocol

variable (codec : Codec) (state : SessionAggregateState)

def assertSessionInvariants : Checked Unit := do
  sessionErrorIf (sessionStateMaxEncodedItems < codec.stateItems state) .failedPrecondition
    "session state is not a bounded protocol value"
  sessionErrorIf (state.texts.all codec.isNfc = false) .failedPrecondition
    "session state must contain only NFC-normalized strings"
  sessionErrorIf (sessionStateMaxEncodedBytes < codec.stateEncodedBytes state) .failedPrecondition
    "session state is not a bounded protocol value"
  assertSessionBrokerState codec state
  assertSessionIdentity codec state
  assertSessionHistory codec state
  assertKnownTurns codec state
  assertTerminalTurns codec state
  assertQueuedTurns codec state
  assertCurrentTurn codec state
  assertRepresented state
  assertEffects codec state
  assertPublicEvents codec state
  assertAdmissions codec state
  assertCommandReceipts codec state
  assertRuntimeHistory state

def assertInputDigest (turnId : String) (input : StoredPayload) (inputDigest : Digest) : Checked Unit :=
  match input with
  | .reference _ => .ok ()
  | .inline value =>
    sessionErrorIf (codec.turnInputDigest value ≠ inputDigest) .digestMismatch
      ("turn " ++ turnId ++ " inputDigest is invalid")

def assertCheckpointDigest (turnId : String) (checkpoint : StoredSessionCheckpoint)
    (chain : Option Digest) : Checked Unit :=
  match checkpoint with
  | .external _ => .ok ()
  | .inline checkpoint => do
    validateAgentCheckpoint codec checkpoint
    sessionErrorIf (∃ digest ∈ chain, codec.validatedCheckpointDigest checkpoint ≠ digest) .digestMismatch
      ("turn " ++ turnId ++ " checkpoint chain digest is invalid")

def assertTurnDigests (turn : TurnRecord) : Checked Unit := do
  assertInputDigest codec turn.turnId turn.input turn.inputDigest
  assertCheckpointDigest codec turn.turnId turn.checkpoint turn.checkpointChainDigest

def assertTerminalDigests (turn : TerminalTurn) : Checked Unit := do
  assertInputDigest codec turn.turnId turn.input turn.inputDigest
  assertCheckpointDigest codec turn.turnId turn.finalCheckpoint none

/-- The request of an effect drops an ordinal that has no parent operation. -/
def effectRequest (effect : EffectClaim) (payload : NormalizedValue) : EffectRequest where
  service := effect.service
  operation := effect.operation
  replayPolicy := effect.replayPolicy
  payload := payload
  parentOperationId := effect.parentOperationId
  ordinal := (claimInput effect).ordinal

def assertEffectDigest (effect : SessionEffect) : Checked Unit :=
  match effect.requestPayload with
  | .reference _ => .ok ()
  | .inline payload =>
    sessionErrorIf (codec.effectRequestDigest (effectRequest effect.toEffectClaim payload) ≠ effect.requestDigest)
      .digestMismatch ("effect " ++ effect.effectId ++ " requestDigest is invalid")

/-- Inline values still bind their digests; externalized ones were checked at ingestion. -/
def validateSessionState : Checked Unit := do
  assertSessionInvariants codec state
  forEach (fun turn : QueuedTurn => assertTurnDigests codec turn.toTurnRecord) state.queuedTurns
  forEach (assertTerminalDigests codec) state.terminalTurns
  whenPresent state.activeTurn (fun turn => assertTurnDigests codec turn.toTurnRecord)
  forEach (assertEffectDigest codec) state.effects

/-- What the validation says of the identities and the first dispatch of the hot effects. -/
structure ValidEffects (state : SessionAggregateState) : Prop where
  distinct : (state.effects.map (·.effectId)).Nodup
  unstarted : ∀ effect ∈ state.effects, effect.phase = .prepared → effect.hasStart = false

theorem validateSessionState_effects {codec : Codec} {state : SessionAggregateState}
    (ok : validateSessionState codec state = .ok ()) : ValidEffects state := by
  simp only [validateSessionState, assertSessionInvariants, assertEffects, steps_ok] at ok
  obtain ⟨⟨-, -, -, -, -, -, -, -, -, -, -, ⟨effects, -⟩, -⟩, -⟩ := ok
  have checks := (forEachPrior_ok_iff_eachPrior _ _ _).mp effects
  refine ⟨(eachPrior_fresh_iff_nodup (·.effectId) state.effects).mp (checks.imp ?_), fun effect member prepared => ?_⟩
  · intro _ _ _ _ check earlier member same
    simp only [assertEffect, steps_ok, sessionErrorIf_ok, not_exists, not_and] at check
    exact check.1 earlier member (.inl same)
  · obtain ⟨before, after, split⟩ := List.append_of_mem member
    have check := checks before effect after split
    simp only [assertEffect, assertEffectPhase, steps_ok, sessionErrorIf_ok, not_and] at check
    obtain ⟨-, -, -, -, -, attempted, -, first, -⟩ := check
    simp [SessionEffect.hasStart, attempted.mp (first prepared)]

def SessionEffect.reserveUnits (effect : SessionEffect) : Nat :=
  match effect.phase with
  | .prepared => 4
  | .dispatched => if effect.lastDispatch.map (·.start) = some none then 3 else 2
  | .externallyCommitted => 1
  | .blocked => 2
  | .settled => 0

structure SessionCapacity where
  units : Nat
  bytes : Nat
  items : Nat

/-- The outstanding completion and recovery work is charged with the state itself. -/
def sessionCapacity : SessionCapacity :=
  let turnUnits := match state.activeTurn with
    | none => 0
    | some turn => if turn.abortRequested then 1 else 2
  let grantUnits := if (state.broker.bind (·.engineGrant)).isSome then 1 else 0
  let retryUnits := if (state.broker.bind (·.preparation)).any (·.retry) then 1 else 0
  let units := 2 * state.queuedTurns.length + turnUnits +
    (state.effects.map SessionEffect.reserveUnits).sum + grantUnits + retryUnits
  { units := units
    bytes := codec.stateEncodedBytes state + units * sessionCapacityReserveUnitBytes
    items := codec.stateItems state + units * sessionCapacityReserveUnitItems }

/-- Forward growth must fit; an overcommitted state may only drain. -/
def CapacityAllowed (codec : Codec) (previous next : SessionAggregateState) : Prop :=
  let candidate := sessionCapacity codec next
  let before := sessionCapacity codec previous
  (candidate.bytes ≤ sessionStateMaxEncodedBytes ∧ candidate.items ≤ sessionStateMaxEncodedItems) ∨
    (candidate.units < before.units ∧ candidate.bytes ≤ before.bytes ∧ candidate.items ≤ before.items)
deriving Decidable

def assertSessionCapacity (previous next : SessionAggregateState) : Checked Unit :=
  let candidate := sessionCapacity codec next
  sessionErrorIf (¬ CapacityAllowed codec previous next) .failedPrecondition
    ("completion/recovery capacity reservation exceeds the durable limit: " ++
      toString candidate.bytes ++ " bytes, " ++ toString candidate.items ++ " items")

def StoredPayload.blobDigests : StoredPayload → List Digest
  | .inline _ => []
  | .reference ref => [ref.digest]

def StoredSessionCheckpoint.blobDigests : StoredSessionCheckpoint → List Digest
  | .inline _ => []
  | .external checkpoint => [checkpoint.payloadDigest]

def TurnRecord.blobDigests (turn : TurnRecord) : List Digest :=
  turn.checkpoint.blobDigests ++ turn.input.blobDigests

def TerminalResult.blobDigests : TerminalResult → List Digest
  | .completed result => result.blobDigests
  | .failed error => (error.details.map StoredPayload.blobDigests).getD []
  | .aborted => []

def TerminalTurn.blobDigests (turn : TerminalTurn) : List Digest :=
  turn.finalCheckpoint.blobDigests ++ turn.input.blobDigests ++ turn.result.blobDigests

def StoredEffectSettlement.blobDigests : StoredEffectSettlement → List Digest
  | .success result => result.blobDigests
  | _ => []

def SessionEffect.blobDigests (effect : SessionEffect) : List Digest :=
  effect.requestPayload.blobDigests ++ (effect.settlement.map StoredEffectSettlement.blobDigests).getD []

def CommandReceipt.blobDigests (receipt : CommandReceipt) : List Digest :=
  match receipt.outcome with
  | .effectSettled _ settlement => settlement.blobDigests
  | _ => []

/-- `references.set` keeps one entry for each digest. -/
def setReference (references : List SessionBrokerBlobReference) (reference : SessionBrokerBlobReference) :
    List SessionBrokerBlobReference :=
  if references.any (·.digest = reference.digest) then
    references.map (fun entry => if entry.digest = reference.digest then reference else entry)
  else references ++ [reference]

def StoredPayload.references : StoredPayload → List SessionBrokerBlobReference
  | .inline _ => []
  | .reference ref => [⟨ref.digest, ref.encodedBytes⟩]

def StoredSessionCheckpoint.references : StoredSessionCheckpoint → List SessionBrokerBlobReference
  | .inline _ => []
  | .external checkpoint => [⟨checkpoint.payloadDigest, checkpoint.payloadSize⟩]

def StoredEffectSettlement.references : StoredEffectSettlement → List SessionBrokerBlobReference
  | .success result => result.references
  | _ => []

def SessionEffect.references (effect : SessionEffect) : List SessionBrokerBlobReference :=
  effect.requestPayload.references ++ (effect.settlement.map StoredEffectSettlement.references).getD []

def SessionBrokerEngineGrant.references (grant : SessionBrokerEngineGrant) : List SessionBrokerBlobReference :=
  grant.checkpoint.references ++ (grant.unconsumedSettlement.map
      (fun snapshot => snapshot.effect.references ++ snapshot.settlement.references)).getD []

/-- The payload references inside the original value of a receipt. -/
def SessionBrokerReceiptValue.references : SessionBrokerReceiptValue → List SessionBrokerBlobReference
  | .engineGrant grant => grant.references
  | .step receipt => (receipt.preparedEffect.map SessionEffect.references).getD []
  | .settlement receipt => receipt.effect.references
  | _ => []

def payloadReferences (value : SessionBrokerReceiptValue) : List SessionBrokerBlobReference :=
  value.references.foldl setReference []

def sessionBrokerBlobReferences : List SessionBrokerBlobReference :=
  match state.broker with
  | none => []
  | some broker =>
    broker.receipts.flatMap (fun receipt =>
      ⟨receipt.resultPayloadRef.digest, receipt.resultPayloadRef.encodedBytes⟩ :: receipt.referencedBlobs) ++
    (broker.engineGrant.map (fun grant => payloadReferences (.engineGrant grant))).getD []

/-- Every externalized payload that the state references, once each. -/
def sessionReferencedBlobDigests : List Digest :=
  (state.queuedTurns.flatMap (·.toTurnRecord.blobDigests) ++
    (state.activeTurn.map (·.toTurnRecord.blobDigests)).getD [] ++
    state.terminalTurns.flatMap TerminalTurn.blobDigests ++
    state.effects.flatMap SessionEffect.blobDigests ++
    state.commandReceipts.flatMap CommandReceipt.blobDigests ++
    (sessionBrokerBlobReferences state).map (·.digest)).eraseDups

end Circulusd.Session
