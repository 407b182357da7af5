import Circulusd.Session.EffectChecks

/-
The checks of a session state on its public events, its receipts and its runtime history.
-/

namespace Circulusd.Session

open Checked Protocol

variable (codec : Codec) (state : SessionAggregateState)
variable (prior : List SessionPublicEvent) (event : SessionPublicEvent) (effectId : String) (turnId : String)

def publicEventsWithAnchors : List SessionPublicEvent :=
  publicEventAnchors state ++ state.publicEvents

def receiptsWithAnchors : List CommandReceipt :=
  dispatchStartReceipts state ++ state.commandReceipts

def SessionPublicEvent.accepts : Bool :=
  event.body.type = .turnAccepted && event.turnId = turnId

def SessionPublicEvent.terminates : Bool :=
  match event.body with
  | .turnTerminal _ => event.turnId = turnId
  | _ => false

def SessionPublicEvent.prepares : Bool :=
  match event.body with
  | .effectPrepared _ effect => effect.effectId = effectId
  | _ => false

def SessionPublicEvent.commits : Bool :=
  match event.body with
  | .toolExternallyCommitted effect _ _ => effect.effectId = effectId
  | _ => false

def SessionPublicEvent.settles : Bool :=
  match event.body with
  | .effectSettled _ effect _ => effect.effectId = effectId
  | _ => false

def lastPublicSequence : Nat :=
  (prior.getLast?.map (·.sequence)).getD 0

/-- The model service has an event family of its own. -/
def eventClassOf (service : EffectService) : EffectEventClass :=
  if service = .model then .model else .tool

/-- An effect event repeats the identity of a hot effect. -/
@[mk_iff]
structure EffectEventBound (event : SessionPublicEvent) (identity : SessionPublicEffectIdentity)
    (effect : SessionEffect) : Prop where
  turnId : effect.turnId = event.turnId
  invocationId : effect.invocationId = identity.invocationId
  service : effect.service = identity.service
  operation : effect.operation = identity.operation

instance (event : SessionPublicEvent) (identity : SessionPublicEffectIdentity) (effect : SessionEffect) :
    Decidable (EffectEventBound event identity effect) :=
  decidable_of_iff _ (effectEventBound_iff event identity effect).symm

/-- The part of the check that all effect events share finds their effect. -/
def assertEffectEvent (identity : SessionPublicEffectIdentity) (field : String) : Checked SessionEffect := do
  sessionErrorIf (¬ ∃ earlier ∈ prior, earlier.accepts event.turnId = true) .failedPrecondition
    "public effect event precedes its turn.accepted event"
  validatedIdentifier codec identity.effectId (field ++ ".effectId")
  validatedIdentifier codec identity.invocationId (field ++ ".invocationId")
  validatedIdentifier codec identity.operation (field ++ ".operation")
  let effect ← require (effectById state identity.effectId)
    (.aggregate .failedPrecondition "public effect event is inconsistent")
  sessionErrorIf (¬ EffectEventBound event identity effect) .failedPrecondition "public effect event is inconsistent"
  return effect

def assertEventFamily (eventClass : EffectEventClass) (effect : SessionEffect) : Checked Unit :=
  sessionErrorIf (eventClass ≠ eventClassOf effect.service) .failedPrecondition
    "public effect event uses the wrong event family"

/-- No earlier event shows the effect past the point of the new one. -/
def Unresolved (prior : List SessionPublicEvent) (effectId : String) : Prop :=
  ∀ earlier ∈ prior, earlier.commits effectId = false ∧ earlier.settles effectId = false
deriving Decidable

def terminalStatusOf : Option TerminalStatus :=
  (state.terminalTurns.find? (·.turnId = turnId)).map TerminalTurn.status

def assertEventBody (field : String) : Checked Unit :=
  match event.body with
  | .turnAccepted _ =>
    sessionErrorIf (∃ earlier ∈ prior, earlier.turnId = event.turnId) .failedPrecondition
      "public turn.accepted event is inconsistent"
  | .effectPrepared eventClass identity => do
    let effect ← assertEffectEvent codec state prior event identity field
    assertEventFamily eventClass effect
    sessionErrorIf ((∃ earlier ∈ prior, earlier.prepares effect.effectId = true) ∨ ¬ Unresolved prior effect.effectId)
      .failedPrecondition "public effect preparation is duplicated or late"
  | .toolExternallyCommitted identity externalCommitId resultRef => do
    let effect ← assertEffectEvent codec state prior event identity field
    assertEventFamily .tool effect
    validatedIdentifier codec externalCommitId (field ++ ".externalCommitId")
    validatedOptionalIdentifier codec resultRef (field ++ ".resultRef")
    sessionErrorIf (effect.service = .model ∨ effect.externalCommitId ≠ some externalCommitId ∨
        effect.resultRef ≠ resultRef ∨ ¬ Unresolved prior effect.effectId)
      .failedPrecondition "public external commit event is inconsistent"
  | .effectSettled eventClass identity settlementKind => do
    let effect ← assertEffectEvent codec state prior event identity field
    assertEventFamily eventClass effect
    sessionErrorIf (effect.settlement.map StoredEffectSettlement.kind ≠ some settlementKind ∨
        ∃ earlier ∈ prior, earlier.settles effect.effectId = true)
      .failedPrecondition "public settlement event is inconsistent"
  | .turnNeedsConfirmation identity => do
    let effect ← assertEffectEvent codec state prior event identity field
    sessionErrorIf (effect.replayPolicy ≠ .confirm ∨ ¬ Unresolved prior effect.effectId)
      .failedPrecondition "public confirmation event is inconsistent"
  | .turnTerminal status => do
    sessionErrorIf (¬ ∃ earlier ∈ prior, earlier.accepts event.turnId = true) .failedPrecondition
      "public terminal event precedes its turn.accepted event"
    sessionErrorIf (terminalStatusOf state event.turnId ≠ some status ∨
        ∃ earlier ∈ prior, earlier.terminates event.turnId = true)
      .failedPrecondition "public terminal event is inconsistent"

/-- Sequences grow, and the hot events continue the archived prefix without a gap. -/
def EventOrdered (prior : List SessionPublicEvent) (event : SessionPublicEvent) : Prop :=
  lastPublicSequence prior < event.sequence ∧ (publicEventThrough state < event.sequence →
      event.sequence + (publicEventAnchors state).length = publicEventThrough state + prior.length + 1)
deriving Decidable

def assertPublicEvent : Checked Unit := do
  let field := entryField "state.publicEvents" prior.length
  validatedInteger event.sequence (field ++ ".sequence") 1
  sessionErrorIf (¬ EventOrdered state prior event) .failedPrecondition "public event journal is not gap-free"
  validatedIdentifier codec event.turnId (field ++ ".turnId")
  validatedInteger event.turnSequence (field ++ ".turnSequence") 0
  sessionErrorIf (knownTurnAt state event.turnSequence ≠ some event.turnId ∨
      ∃ earlier ∈ prior, earlier.terminates event.turnId = true)
    .failedPrecondition "public event turn identity or order is inconsistent"
  assertEventBody codec state prior event field

def assertPublicEvents : Checked Unit := do
  sessionErrorIf (state.publicEventSequence ≠ publicEventThrough state + state.publicEvents.length)
    .failedPrecondition "publicEventSequence does not match the public event journal"
  forEachPrior (assertPublicEvent codec state) (publicEventsWithAnchors state)

def turnInputDigests : List (String × Digest) :=
  state.terminalTurns.map (fun turn => (turn.turnId, turn.inputDigest)) ++
    state.queuedTurns.map (fun turn => (turn.turnId, turn.inputDigest)) ++
    (state.activeTurn.map (fun turn => (turn.turnId, turn.inputDigest))).toList

/-- A later entry of the map replaces an earlier one. -/
def inputDigestByTurnId : Option Digest :=
  ((turnInputDigests state).reverse.find? (·.1 = turnId)).map (·.2)

def lastAdmissionSequence (prior : List TurnAdmissionReceipt) : Nat :=
  (prior.getLast?.map (·.publicEventSequence)).getD 0

/-- An admission receipt points to its own acceptance event. -/
@[mk_iff]
structure AdmissionMatches (receipt : TurnAdmissionReceipt) (event : SessionPublicEvent) : Prop where
  accepted : event.body = .turnAccepted receipt.activated
  turnId : receipt.turnId = event.turnId
  turnSequence : receipt.turnSequence = event.turnSequence

instance (receipt : TurnAdmissionReceipt) (event : SessionPublicEvent) : Decidable (AdmissionMatches receipt event) :=
  decidable_of_iff _ (admissionMatches_iff receipt event).symm

@[mk_iff]
structure AdmissionConsistent (state : SessionAggregateState) (prior : List TurnAdmissionReceipt)
    (receipt : TurnAdmissionReceipt) : Prop where
  event : ∃ event ∈ (publicEventsWithAnchors state).find? (·.sequence = receipt.publicEventSequence),
    AdmissionMatches receipt event
  ordered : lastAdmissionSequence prior < receipt.publicEventSequence
  fresh : ∀ earlier ∈ prior, earlier.publicEventSequence ≠ receipt.publicEventSequence
  inputDigest : inputDigestByTurnId state receipt.turnId = some receipt.inputDigest

instance (state : SessionAggregateState) (prior : List TurnAdmissionReceipt)
    (receipt : TurnAdmissionReceipt) : Decidable (AdmissionConsistent state prior receipt) :=
  decidable_of_iff _ (admissionConsistent_iff state prior receipt).symm

def assertAdmissionReceipt (prior : List TurnAdmissionReceipt) (receipt : TurnAdmissionReceipt) : Checked Unit := do
  let field := entryField "state.turnAdmissionReceipts" prior.length
  validatedIdentifier codec receipt.turnId (field ++ ".turnId")
  validatedInteger receipt.turnSequence (field ++ ".turnSequence") 0
  validatedInteger receipt.publicEventSequence (field ++ ".publicEventSequence") 1
  sessionErrorIf (∃ earlier ∈ prior, earlier.idempotencyKeyDigest = receipt.idempotencyKeyDigest)
    .failedPrecondition "duplicate public idempotency key receipt"
  sessionErrorIf (¬ AdmissionConsistent state prior receipt) .failedPrecondition
    "public admission receipt is inconsistent"

def SessionPublicEvent.isAccepted : Bool :=
  event.body.type = .turnAccepted

def assertAdmissions : Checked Unit := do
  forEachPrior (assertAdmissionReceipt codec state) state.turnAdmissionReceipts
  sessionErrorIf (state.turnAdmissionReceipts.length ≠ ((publicEventsWithAnchors state).filter (·.isAccepted)).length ∨
      ∃ event ∈ publicEventsWithAnchors state, event.isAccepted = true ∧
        ∀ receipt ∈ state.turnAdmissionReceipts, receipt.publicEventSequence ≠ event.sequence)
    .failedPrecondition "public turn.accepted event lacks its admission receipt"

/-- A permit repeats the effect and its durable dispatch. -/
@[mk_iff]
structure PermitMatchesDispatch (claims : DispatchPermitClaims) (effect : SessionEffect)
    (dispatch : EffectDispatchMetadata) : Prop where
  claim : claims.toEffectClaim = effect.toEffectClaim
  dispatchAttempt : claims.dispatchAttempt = dispatch.dispatchAttempt
  fence : claims.toSessionFence = dispatch.toSessionFence
  providerRouteDigest : claims.providerRouteDigest = dispatch.providerRouteDigest
  deadline : claims.deadline = dispatch.deadline

instance (claims : DispatchPermitClaims) (effect : SessionEffect) (dispatch : EffectDispatchMetadata) :
    Decidable (PermitMatchesDispatch claims effect dispatch) :=
  decidable_of_iff _ (permitMatchesDispatch_iff claims effect dispatch).symm

/-- A start receipt repeats the start claim of its effect. -/
@[mk_iff]
structure StartPermitMatches (permit : DispatchStartPermitClaims) (effect : SessionEffect)
    (dispatch : EffectDispatchMetadata) (start : EffectDispatchStartMetadata) : Prop where
  dispatched : PermitMatchesDispatch permit.dispatchPermitClaims effect dispatch
  dispatchAttempt : permit.dispatchPermitClaims.dispatchAttempt = effect.dispatchAttempt
  providerRequestId : permit.providerRequestId = dispatch.providerRequestId
  commandDigest : permit.commandDigest = start.commandDigest
  claimedEventSequence : permit.claimedEventSequence = start.claimedEventSequence

instance (permit : DispatchStartPermitClaims) (effect : SessionEffect)
    (dispatch : EffectDispatchMetadata) (start : EffectDispatchStartMetadata) :
    Decidable (StartPermitMatches permit effect dispatch start) :=
  decidable_of_iff _ (startPermitMatches_iff permit effect dispatch start).symm

/-- The hot effect of a start receipt keeps the exact claim. -/
def StartReceiptConsistent (prior : List CommandReceipt) (receipt : CommandReceipt) : Prop :=
  ∀ claim ∈ receipt.outcome.startClaim?, (∀ earlier ∈ prior, earlier.outcome.claimedEffectId? ≠ some claim.1) ∧
      claim.2.claimedEventSequence = receipt.committedEventSequence ∧
      ∃ effect ∈ effectById state claim.1, ∃ dispatch ∈ effect.lastDispatch,
        ∃ start ∈ dispatch.start, StartPermitMatches claim.2 effect dispatch start
deriving Decidable

def assertCommandReceipt (prior : List CommandReceipt) (receipt : CommandReceipt) : Checked Unit := do
  sessionErrorIf (∃ earlier ∈ prior, earlier.commandId = receipt.commandId) .failedPrecondition
    "duplicate command receipt"
  validatedIdentifier codec receipt.commandId "receipt.commandId"
  validatedInteger receipt.committedEventSequence "receipt event sequence" 1
  sessionErrorIf (commandThrough state < receipt.committedEventSequence ∧
      receipt.committedEventSequence + (dispatchStartReceipts state).length ≠ commandThrough state + prior.length + 1)
    .failedPrecondition "command receipts are not in eventSequence order"
  assertSessionCommandOutcome codec receipt.outcome
    (entryField "state.commandReceipts" prior.length ++ ".outcome") .failedPrecondition
  sessionErrorIf (¬ StartReceiptConsistent state prior receipt) .failedPrecondition
    "dispatch start receipt does not match its durable start tombstone"

def SessionEffect.hasStart (effect : SessionEffect) : Bool :=
  (effect.lastDispatch.bind (·.start)).isSome

def assertCommandReceipts : Checked Unit := do
  sessionErrorIf (state.eventSequence ≠ commandThrough state + state.commandReceipts.length)
    .failedPrecondition "eventSequence does not match command receipt count"
  forEachPrior (assertCommandReceipt codec state) (receiptsWithAnchors state)
  sessionErrorIf (∃ effect ∈ state.effects, effect.hasStart = true ∧
      ∀ receipt ∈ receiptsWithAnchors state, receipt.outcome.claimedEffectId? ≠ some effect.effectId)
    .failedPrecondition "dispatch start tombstone lacks its exact durable receipt"

/-- The runtime pointer that the receipts imply, and the revisions that were active. -/
structure RuntimeReplay where
  activeRevision : Option Digest
  candidateRevision : Option Digest
  previousRevision : Option Digest
  switchGeneration : Nat
  activated : List Digest
deriving DecidableEq

def runtimeReplayStart : RuntimeReplay :=
  match state.history with
  | none => ⟨none, none, none, 1, []⟩
  | some history =>
    let anchor := history.runtimePointerAtCommandThrough
    ⟨some anchor.activeRevision, anchor.candidateRevision, anchor.previousRevision,
      anchor.switchGeneration, history.runtimeRevisionDigests ++ [anchor.activeRevision]⟩

def runtimeReplayStep (replay : RuntimeReplay) (outcome : StoredSessionCommandOutcome) : Checked RuntimeReplay :=
  match outcome with
  | .runtimeRevisionStaged active candidate switchGeneration => do
    -- the first staging of a session fixes the revision that was active before it
    let current := replay.activeRevision.getD active
    sessionErrorIf (active ≠ current ∨ switchGeneration ≠ replay.switchGeneration ∨ replay.candidateRevision ≠ none ∨
        candidate = current ∨ some candidate = replay.previousRevision)
      .failedPrecondition "runtime revision staging receipt does not follow pointer history"
    return { replay with
      activeRevision := some current
      candidateRevision := some candidate
      activated := replay.activated ++ [current] }
  | .runtimeCandidateDiscarded active candidate switchGeneration _ => do
    sessionErrorIf (replay.activeRevision ≠ some active ∨ replay.candidateRevision ≠ some candidate ∨
        switchGeneration ≠ replay.switchGeneration)
      .failedPrecondition "runtime candidate discard receipt does not follow pointer history"
    return { replay with candidateRevision := none }
  | .runtimeRevisionActivated active previous switchGeneration _ _ => do
    sessionErrorIf (replay.activeRevision ≠ some previous ∨ replay.candidateRevision ≠ some active ∨
        switchGeneration ≠ replay.switchGeneration + 1)
      .failedPrecondition "runtime revision activation receipt does not follow pointer history"
    return {
      activeRevision := some active
      candidateRevision := none
      previousRevision := some previous
      switchGeneration := replay.switchGeneration + 1
      activated := replay.activated ++ [active] }
  | .runtimeRevisionRolledBack active previous switchGeneration _ => do
    sessionErrorIf (replay.activeRevision ≠ some previous ∨ replay.candidateRevision ≠ none ∨
        replay.previousRevision ≠ some active ∨ switchGeneration ≠ replay.switchGeneration + 1)
      .failedPrecondition "runtime revision rollback receipt does not follow pointer history"
    return {
      activeRevision := some active
      candidateRevision := none
      previousRevision := some previous
      switchGeneration := replay.switchGeneration + 1
      activated := replay.activated ++ [active] }
  | _ => .ok replay

def runtimeReplay (replay : RuntimeReplay) : List CommandReceipt → Checked RuntimeReplay
  | [] => .ok replay
  | receipt :: rest => do
    let next ← runtimeReplayStep replay receipt.outcome
    runtimeReplay next rest

/-- The replay of the receipts ends at the stored pointer. -/
@[mk_iff]
structure RuntimeReplay.EndsAt (replay : RuntimeReplay) (pointer : RuntimePointer) : Prop where
  activeRevision : replay.activeRevision.getD pointer.activeRevision = pointer.activeRevision
  candidateRevision : replay.candidateRevision = pointer.candidateRevision
  previousRevision : replay.previousRevision = pointer.previousRevision
  switchGeneration : replay.switchGeneration = pointer.switchGeneration

instance (replay : RuntimeReplay) (pointer : RuntimePointer) : Decidable (replay.EndsAt pointer) :=
  decidable_of_iff _ (RuntimeReplay.endsAt_iff replay pointer).symm

def assertRuntimeHistory : Checked Unit := do
  let replay ← runtimeReplay (runtimeReplayStart state) state.commandReceipts
  sessionErrorIf (¬ replay.EndsAt state.runtimePointer) .failedPrecondition
    "runtime pointer does not match its durable command receipt history"
  forEach (fun turn : TerminalTurn =>
    sessionErrorIf (turn.finalCheckpoint.metadata.runtimeRevisionDigest ∉
        replay.activated ++ [replay.activeRevision.getD state.runtimePointer.activeRevision])
      .failedPrecondition
      ("terminal turn " ++ turn.turnId ++ " names a runtime revision that was never active"))
    state.terminalTurns

end Circulusd.Session
