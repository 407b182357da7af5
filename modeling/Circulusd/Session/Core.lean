import Circulusd.Session.Transitions

/-
The tail of a core command: promotion, public events, the receipt, compaction and validation.
-/

namespace Circulusd.Session

open Checked Protocol

variable (codec : Codec) (state : SessionAggregateState)
variable (former : SessionAggregateState) (effect : SessionEffect)

def leaseExpiredReason : String := "turn lease expired before activation"

/-- Expired turns are skipped until one can be activated. -/
def promoteTurns (promotionTime : Nat) : List QueuedTurn → SessionAggregateState → SessionAggregateState
  | [], state => { state with queuedTurns := [] }
  | queued :: rest, state =>
    if queued.leaseExpiresAt ≤ promotionTime then
      let expired := queued.terminate queued.checkpoint true (some leaseExpiredReason) .aborted
      promoteTurns promotionTime rest { state with
        terminalTurns := state.terminalTurns ++ [expired]
        latestSettledTurn := some queued.turnId }
    else { state with
      queuedTurns := rest
      activeTurn := some queued.activate
      status := .running }

def promoteQueuedTurns (promotionTime : Option Nat) (state : SessionAggregateState) :
    SessionAggregateState :=
  match promotionTime with
  | none => state
  | some time => promoteTurns time state.queuedTurns state

def publiclyAdmitted (turnId : String) : Bool :=
  state.turnAdmissionReceipts.any (·.turnId = turnId)

/-- The admission sequence of a hot turn. -/
def turnSequenceOf? (turnId : String) : Option Nat :=
  (state.knownTurnIds.idxOf? turnId).map (· + turnThrough state)

def publicIdentity : SessionPublicEffectIdentity where
  effectId := effect.effectId
  invocationId := effect.invocationId
  service := effect.service
  operation := effect.operation

def appendPreparedEvent : Checked SessionAggregateState :=
  if publiclyAdmitted state effect.turnId then do
    let turnSequence ← require (turnSequenceOf? state effect.turnId)
      (.aggregate .failedPrecondition "prepared effect turn is not known")
    appendPublicEvent state effect.turnId turnSequence
      (.effectPrepared (eventClassOf effect.service) (publicIdentity effect))
  else .ok state

/-- The public event of a phase change; most changes are not public. -/
def phaseEvent : Checked (Option SessionPublicEventBody) :=
  if effect.phase = .externallyCommitted ∧ effect.service ≠ .model then do
    let externalCommitId ← require effect.externalCommitId
      (.aggregate .failedPrecondition "external commit transition lacks proof")
    return some (.toolExternallyCommitted (publicIdentity effect) externalCommitId effect.resultRef)
  else if effect.phase = .settled then do
    let settlement ← require effect.settlement
      (.aggregate .failedPrecondition "settled effect transition lacks settlement")
    return some (.effectSettled (eventClassOf effect.service) (publicIdentity effect) settlement.kind)
  else return none

/-- An effect changed its phase when its former record has another one. -/
def phaseChanged : Bool :=
  (effectById former effect.effectId).any (·.phase ≠ effect.phase)

def appendTransitionEvent (state : SessionAggregateState) (effect : SessionEffect) : Checked SessionAggregateState :=
  if publiclyAdmitted state effect.turnId && phaseChanged former effect then do
    let turnSequence ← require (turnSequenceOf? state effect.turnId)
      (.aggregate .failedPrecondition "transitioned effect turn is not known")
    match ← phaseEvent effect with
    | some body => appendPublicEvent state effect.turnId turnSequence body
    | none => return state
  else .ok state

/-- The active turn starts to wait for a confirmation. -/
def confirmationStarted (former : SessionAggregateState) (active : ActiveTurn) : Prop :=
  active.status = .needsConfirmation ∧
    ¬ ∃ before ∈ former.activeTurn, before.turnId = active.turnId ∧ before.status = .needsConfirmation
deriving Decidable

def appendConfirmationEvent (state : SessionAggregateState) : Checked SessionAggregateState :=
  match state.activeTurn with
  | none => .ok state
  | some active =>
    if publiclyAdmitted state active.turnId = true ∧ confirmationStarted former active then do
      let effect ← require (activeEffect state)
        (.aggregate .failedPrecondition "confirmation transition lacks an active effect")
      appendPublicEvent state active.turnId active.sequence (.turnNeedsConfirmation (publicIdentity effect))
    else .ok state

def appendTerminalEvent (turn : TerminalTurn) : Checked SessionAggregateState :=
  if publiclyAdmitted state turn.turnId then
    appendPublicEvent state turn.turnId turn.sequence (.turnTerminal turn.status)
  else .ok state

/-- The public events of a command follow from the records that it changed. -/
def publishEvents (former next : SessionAggregateState) : Checked SessionAggregateState := do
  let prepared ← (next.effects.drop former.effects.length).foldlM appendPreparedEvent next
  let transitioned ← next.effects.foldlM (appendTransitionEvent former) prepared
  let confirmed ← appendConfirmationEvent former transitioned
  (next.terminalTurns.drop former.terminalTurns.length).foldlM appendTerminalEvent confirmed

def recordCommandReceipt (commandId : String) (commandDigest : Digest)
    (outcome : StoredSessionCommandOutcome) : SessionAggregateState :=
  { state with
    eventSequence := state.eventSequence + 1
    commandReceipts := state.commandReceipts ++ [⟨commandId, commandDigest, state.eventSequence + 1, outcome⟩] }

/-- A grant survives only while its turn, event sequence and fence are current. -/
def grantCurrent (grant : SessionBrokerEngineGrant) : Bool :=
  state.activeTurn.any (·.turnId = grant.turnId) && grant.expectedEventSequence = state.eventSequence &&
    grant.fence = fence state

def preparationCurrent (preparation : SessionBrokerPreparation) : Bool :=
  preparation.permit.effectId = effect.effectId &&
    preparation.sourceDispatchAttempt = effect.dispatchAttempt && preparation.permit.fence = fence state

def dispatchCurrent (dispatch : SessionBrokerDispatchPermit) : Bool :=
  dispatch.effectId = effect.effectId && dispatch.dispatchAttempt = effect.dispatchAttempt

def reconcileBroker (broker : SessionBrokerState) : SessionBrokerState :=
  let granted := { broker with engineGrant := broker.engineGrant.filter (grantCurrent state) }
  match (activeEffect state).filter (·.phase ≠ .settled) with
  | none => { granted with preparation := none, dispatch := none, start := none }
  | some effect =>
    let dispatched := broker.dispatch.filter (dispatchCurrent effect)
    { granted with
      preparation := broker.preparation.filter (preparationCurrent state effect)
      dispatch := dispatched
      -- a start permit leaves only together with the dispatch that it belongs to
      start := if broker.dispatch ≠ none ∧ dispatched = none then none else broker.start }

def reconcileSessionBrokerState : SessionAggregateState :=
  { state with broker := state.broker.map (reconcileBroker state) }

/-- A broker operation records its own receipt before the candidate is committed. -/
abbrev BrokerFinalize :=
  SessionAggregateState → BlobMap → Checked (SessionAggregateState × BlobMap × SessionBrokerStoredReceipt)

/-- The state of a command before compaction and validation. -/
structure CoreCandidate where
  state : SessionAggregateState
  outcome : StoredSessionCommandOutcome
  ingestedPayloads : BlobMap
  receipt : Option SessionBrokerStoredReceipt

def coreCandidate (command : CoreCommand)
    (context : Option SessionApplyContext) (finalize : Option BrokerFinalize) : Checked CoreCandidate := do
  let transition ← coreTransition codec state command context
  let promoted := promoteQueuedTurns transition.turnPromotionTime transition.next
  let published ← publishEvents state promoted
  assertSessionCommandOutcome codec transition.outcome "command outcome" .failedPrecondition
  let recorded := recordCommandReceipt published command.commandId (codec.commandDigest command) transition.outcome
  let reconciled := reconcileSessionBrokerState recorded
  match finalize with
  | none => return ⟨reconciled, transition.outcome, transition.ingestedPayloads, none⟩
  | some finalize =>
    let (finalized, blobs, receipt) ← finalize reconciled transition.ingestedPayloads
    return ⟨finalized, transition.outcome, blobs, some receipt⟩

/-- Only a batch that archives something replaces the candidate. -/
def compactCandidate (context : Option SessionApplyContext) :
    Checked (SessionAggregateState × Option SessionArchiveDelta) :=
  match context.filter (·.history ≠ none) with
  | none => .ok (state, none)
  | some context => do
    let (compacted, archive) ← compactSessionHistory state (context.historyMaxRecords.getD sessionHistoryMaxRecords)
    if archive.isEmpty then return (state, none) else return (compacted, some archive)

/-- The text form of a digest. -/
def digestText (digest : Digest) : String := "sha256:" ++ digest.toHex

/-- The bytes behind each reference that the previous state did not have. -/
def collectBlobs (previous : List Digest) (ingested : BlobMap) : List Digest → Checked BlobMap
  | [] => .ok []
  | digest :: rest =>
    if digest ∈ previous then collectBlobs previous ingested rest
    else do
      let entry ← require (ingested.find? (·.1 = digest)) (.aggregate .failedPrecondition
        ("state references payload " ++ digestText digest ++ " whose bytes this command did not ingest"))
      let blobs ← collectBlobs previous ingested rest
      return entry :: blobs

def commitCandidate (candidate : CoreCandidate)
    (commandDigest : Digest) (context : Option SessionApplyContext) : Checked ApplySessionCommandResult := do
  let (next, archiveDelta) ← compactCandidate candidate.state context
  validateSessionState codec next
  assertSessionCapacity codec state next
  let blobs ← collectBlobs (sessionReferencedBlobDigests state) candidate.ingestedPayloads
    (sessionReferencedBlobDigests candidate.state)
  return {
    state := next
    outcome := candidate.outcome
    commandDigest := commandDigest
    replayed := false
    blobs := some blobs
    referencedBlobs := some (sessionReferencedBlobDigests next)
    archiveDelta := archiveDelta }

/-- A replay returns the state as it is. -/
def replayResult (outcome : StoredSessionCommandOutcome) (commandDigest : Digest) : ApplySessionCommandResult where
  state := state
  outcome := outcome
  commandDigest := commandDigest
  replayed := true
  blobs := none
  referencedBlobs := none
  archiveDelta := none

/-- A core command with the receipt that a broker operation recorded through it. -/
def applySessionCoreCommand (command : CoreCommand)
    (context : Option SessionApplyContext) (finalize : Option BrokerFinalize) :
    Checked (ApplySessionCommandResult × Option SessionBrokerStoredReceipt) := do
  validateCoreCommand codec state command finalize.isSome
  match ← coreReplay codec state command (SessionApplyContext.witness? context) with
  | some outcome => return (replayResult state outcome (codec.commandDigest command), none)
  | none =>
    coreGate state command
    let candidate ← coreCandidate codec state command context finalize
    let result ← commitCandidate codec state candidate (codec.commandDigest command) context
    return (result, candidate.receipt)

end Circulusd.Session
