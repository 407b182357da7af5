import Circulusd.Session.BrokerState

/-
The checks of a session state on its identity, its archived prefix and its turns.
-/

namespace Circulusd.Session

open Checked Protocol

variable (codec : Codec) (state : SessionAggregateState)

/-- The path of one entry of a collection. -/
def entryField (collection : String) (index : Nat) : String :=
  collection ++ "[" ++ toString index ++ "]"

def commandThrough : Nat :=
  (state.history.map (·.commandThrough)).getD 0

def publicEventThrough : Nat :=
  (state.history.map (·.publicEventThrough)).getD 0

def turnThrough : Nat :=
  (state.history.map (·.turnThrough)).getD 0

def publicEventAnchors : List SessionPublicEvent :=
  (state.history.map (·.publicEventAnchors)).getD []

def dispatchStartReceipts : List CommandReceipt :=
  (state.history.map (·.dispatchStartReceipts)).getD []

/-- The hot turn identity at an admission sequence; archived sequences have none. -/
def knownTurnAt (sequence : Nat) : Option String :=
  if turnThrough state ≤ sequence then state.knownTurnIds[sequence - turnThrough state]? else none

def RuntimePointer.revisions (pointer : RuntimePointer) : List Digest :=
  pointer.activeRevision :: pointer.candidateRevision.toList ++ pointer.previousRevision.toList

def assertSessionIdentity : Checked Unit := do
  validatedIdentifier codec state.sessionId "state.sessionId"
  validatedIdentifier codec state.tenantId "state.tenantId"
  validatedIdentifier codec state.userId "state.userId"
  validatedIdentifier codec state.workspaceId "state.workspaceId"
  validatedInteger state.runtimePointer.switchGeneration "state.runtimePointer.switchGeneration" 1
  sessionErrorIf (state.runtimePointer.activeRevision ≠ state.runtimeRevisionDigest) .failedPrecondition
    "runtimePointer.activeRevision does not match runtimeRevisionDigest"
  sessionErrorIf (¬ state.runtimePointer.revisions.Nodup) .failedPrecondition "runtime pointer revisions must not alias"
  validatedInteger state.adapterAbiVersion "state.adapterAbiVersion" 1
  validatedInteger state.checkpointSchemaVersion "state.checkpointSchemaVersion" 1
  validatedInteger state.eventSequence "state.eventSequence" 0
  validatedInteger state.publicEventSequence "state.publicEventSequence" 0
  validatedInteger state.nextTurnSequence "state.nextTurnSequence" 0
  validatedInteger state.placementGeneration "state.placementGeneration" 0
  validatedInteger state.sandboxGeneration "state.sandboxGeneration" 0
  validatedInteger state.authorizationGeneration "state.authorizationGeneration" 0

def assertWatermark (value maximum : Nat) (name : String) : Checked Unit := do
  validatedInteger value ("history." ++ name) 0
  sessionErrorIf (maximum < value) .failedPrecondition "history watermark exceeds its cursor"

/-- The effect and the permit of a start claim. -/
def StoredSessionCommandOutcome.startClaim? : StoredSessionCommandOutcome → Option (String × DispatchStartPermitClaims)
  | .dispatchStartClaimed effectId _ permit => some (effectId, permit)
  | _ => none

def StoredSessionCommandOutcome.claimedEffectId? (outcome : StoredSessionCommandOutcome) : Option String :=
  outcome.startClaim?.map (·.1)

def assertSessionHistory : Checked Unit :=
  whenPresent state.history (fun history => do
    assertWatermark history.commandThrough state.eventSequence "commandThrough"
    assertWatermark history.publicEventThrough state.publicEventSequence "publicEventThrough"
    assertWatermark history.turnThrough state.nextTurnSequence "turnThrough"
    validatedInteger history.runtimePointerAtCommandThrough.switchGeneration "history switchGeneration" 1
    sessionErrorIf (¬ (history.turnThrough = 0 ↔ history.latestSettledTurnAtTurnThrough = none))
      .failedPrecondition "archived terminal cursor lacks its last identity"
    validatedOptionalIdentifier codec history.latestSettledTurnAtTurnThrough "history latestSettledTurn"
    forEachPrior (fun prior event =>
      sessionErrorIf (history.publicEventThrough < event.sequence ∨ ∃ earlier ∈ prior, earlier.key = event.key)
        .failedPrecondition "invalid or duplicate public event prefix anchor") history.publicEventAnchors
    forEach (fun receipt : CommandReceipt =>
      sessionErrorIf (receipt.outcome.claimedEffectId? = none ∨ history.commandThrough < receipt.committedEventSequence)
        .failedPrecondition "invalid dispatch receipt prefix anchor") history.dispatchStartReceipts
    forEachPrior (fun prior digest =>
      sessionErrorIf (digest ∈ prior ∨
          ¬ ∃ turn ∈ state.terminalTurns, turn.finalCheckpoint.metadata.runtimeRevisionDigest = digest)
        .failedPrecondition "runtime prefix contains unused or duplicate revision evidence")
      history.runtimeRevisionDigests)

def assertKnownTurns : Checked Unit := do
  forEachPrior (fun prior turnId => do
    validatedIdentifier codec turnId (entryField "state.knownTurnIds" prior.length)
    sessionErrorIf (turnId ∈ prior) .failedPrecondition ("duplicate known turn " ++ turnId))
    state.knownTurnIds
  sessionErrorIf (state.nextTurnSequence ≠ turnThrough state + state.knownTurnIds.length)
    .failedPrecondition "nextTurnSequence does not match admitted turn count"

def checkpointMatchesSession (checkpoint : CheckpointMetadata)
    (turnId : String) (requireActiveRuntime : Bool) : Checked Unit := do
  sessionErrorIf (checkpoint.sessionId ≠ state.sessionId) .failedPrecondition
    "checkpoint sessionId does not match the session"
  sessionErrorIf (checkpoint.turnId ≠ turnId) .failedPrecondition "checkpoint turnId does not match the active turn"
  sessionErrorIf (requireActiveRuntime = true ∧ checkpoint.runtimeRevisionDigest ≠ state.runtimeRevisionDigest)
    .failedPrecondition "checkpoint runtimeRevisionDigest does not match the active runtime"
  sessionErrorIf (checkpoint.engineKind ≠ state.engineKind) .failedPrecondition
    "checkpoint engineKind does not match the session"
  sessionErrorIf (checkpoint.adapterAbiVersion ≠ state.adapterAbiVersion) .failedPrecondition
    "checkpoint adapterAbiVersion does not match the active adapter"
  sessionErrorIf (checkpoint.checkpointSchemaVersion ≠ state.checkpointSchemaVersion) .failedPrecondition
    "checkpointSchemaVersion does not match the active adapter schema"

def parseChainDigest (checkpoint : StoredSessionCheckpoint) (chain : Option Digest) (path : String) : Checked Unit :=
  match checkpoint with
  | .inline _ => .ok ()
  | .external _ => validationErrorIf (chain = none) path "must be a digest"

def assertStoredError (error : StoredAgentError) (field : String) : Checked Unit :=
  match error.details with
  | none => do
    let _ ← parseAgentError codec error.code error.message none field
    return ()
  | some (.inline value) => do
    let _ ← parseAgentError codec error.code error.message (some value) field
    let _ ← validatedNormalizedValue codec value (field ++ ".details") sessionValueMaxEncodedBytes true
      .failedPrecondition
    return ()
  | some (.reference ref) => do
    let _ ← parseAgentError codec error.code error.message none field
    validateSessionPayloadRef ref (field ++ ".detailsRef")

def assertTerminalResult (turn : TerminalTurn) (field : String) : Checked Unit :=
  match turn.result with
  | .completed result => do
    sessionErrorIf (turn.finalCheckpoint.metadata.kind ≠ .engine) .failedPrecondition
      "terminal engine checkpoint must be engine kind"
    assertStoredPayload codec result "result" "resultPayloadRef" field .failedPrecondition
  | .failed error => do
    sessionErrorIf (turn.finalCheckpoint.metadata.kind ≠ .engine) .failedPrecondition
      "terminal engine checkpoint must be engine kind"
    assertStoredError codec error (field ++ ".error")
  | .aborted =>
    sessionErrorIf (turn.abortRequested = false ∨ turn.abortReason = none) .failedPrecondition
      "aborted turn terminal fields disagree"

def assertTerminalTurn (prior : List TerminalTurn) (turn : TerminalTurn) : Checked Unit := do
  let field := entryField "state.terminalTurns" prior.length
  sessionErrorIf (turn.turnId ∉ state.knownTurnIds ∨ knownTurnAt state turn.sequence ≠ some turn.turnId ∨
      turn.sequence ≠ prior.length + turnThrough state)
    .failedPrecondition "terminal turn history is not FIFO admission order"
  sessionErrorIf (∃ earlier ∈ prior, earlier.turnId = turn.turnId) .failedPrecondition
    "an admitted turn has more than one durable status"
  validatedIdentifier codec turn.turnId (field ++ ".turnId")
  validatedInteger turn.sequence (field ++ ".sequence") 0
  assertStoredPayload codec turn.input "input" "inputRef" field .failedPrecondition
  parseStoredCheckpoint codec turn.finalCheckpoint
  checkpointMatchesSession state turn.finalCheckpoint.metadata turn.turnId false
  validatedInteger turn.turnLeaseGeneration "terminal turn lease generation" 1
  validatedInteger turn.leaseExpiresAt "terminal turn lease expiry" 1
  sessionErrorIf (¬ (turn.abortRequested = true ↔ turn.abortReason ≠ none)) .failedPrecondition
    "terminal abortRequested and abortReason disagree"
  validatedOptionalIdentifier codec turn.abortReason "terminal turn abortReason"
  assertTerminalResult codec turn field

/-- The last terminal turn, hot or archived. -/
def latestTerminal : Option String :=
  match state.terminalTurns.getLast? with
  | some turn => some turn.turnId
  | none => state.history.bind (·.latestSettledTurnAtTurnThrough)

def assertTerminalTurns : Checked Unit := do
  forEachPrior (assertTerminalTurn codec state) state.terminalTurns
  sessionErrorIf (state.latestSettledTurn ≠ latestTerminal state) .failedPrecondition
    "latestSettledTurn does not match terminal history"
  validatedOptionalIdentifier codec state.latestSettledTurn "state.latestSettledTurn"

/-- The queued sequence before the first one is below every sequence. -/
def sequenceAfter (prior : List QueuedTurn) (sequence : Nat) : Prop :=
  ∀ previous ∈ prior.getLast?, previous.sequence < sequence
deriving Decidable

def assertQueuedTurn (prior : List QueuedTurn) (turn : QueuedTurn) : Checked Unit := do
  let field := entryField "state.queuedTurns" prior.length
  sessionErrorIf (turn.turnId ∉ state.knownTurnIds) .failedPrecondition
    ("queued turn " ++ turn.turnId ++ " is not known")
  sessionErrorIf ((∃ terminal ∈ state.terminalTurns, terminal.turnId = turn.turnId) ∨
      ∃ earlier ∈ prior, earlier.turnId = turn.turnId)
    .failedPrecondition "an admitted turn has more than one durable status"
  validatedIdentifier codec turn.turnId (field ++ ".turnId")
  validatedInteger turn.sequence (field ++ ".sequence") 0
  sessionErrorIf (¬ sequenceAfter prior turn.sequence) .failedPrecondition "queued turn sequence is not strict FIFO"
  sessionErrorIf (knownTurnAt state turn.sequence ≠ some turn.turnId) .failedPrecondition
    "queued turn sequence does not match admission order"
  parseStoredCheckpoint codec turn.checkpoint
  parseChainDigest turn.checkpoint turn.checkpointChainDigest
    ("queued turn " ++ turn.turnId ++ " checkpointChainDigest")
  checkpointMatchesSession state turn.checkpoint.metadata turn.turnId true
  sessionErrorIf (turn.checkpoint.metadata.kind ≠ .genesis ∨ turn.checkpoint.metadata.checkpointSequence ≠ 0)
    .failedPrecondition "a queued turn must retain its genesis checkpoint"
  assertStoredPayload codec turn.input "input" "inputRef" field .failedPrecondition
  validatedInteger turn.turnLeaseGeneration "queued turn lease generation" 1
  validatedInteger turn.leaseExpiresAt "queued turn lease expiry" 1

def assertQueuedTurns : Checked Unit :=
  forEachPrior (assertQueuedTurn codec state) state.queuedTurns

/-- A queue needs an active head, and a running session needs an active turn. -/
def assertNoActiveTurn : Checked Unit := do
  sessionErrorIf (state.status = .running) .failedPrecondition "a running session requires an active turn"
  sessionErrorIf (state.queuedTurns ≠ []) .failedPrecondition "a queued turn exists without an active FIFO head"

def assertActiveTurn (active : ActiveTurn) : Checked Unit := do
  sessionErrorIf (active.turnId ∉ state.knownTurnIds) .failedPrecondition "the active turn is not in knownTurnIds"
  sessionErrorIf (∃ turn ∈ state.queuedTurns, turn.turnId = active.turnId) .failedPrecondition
    "the active turn is also queued"
  sessionErrorIf (∃ turn ∈ state.terminalTurns, turn.turnId = active.turnId) .failedPrecondition
    "an admitted turn has more than one durable status"
  validatedIdentifier codec active.turnId "state.activeTurn.turnId"
  validatedInteger active.sequence "state.activeTurn.sequence" 0
  sessionErrorIf (knownTurnAt state active.sequence ≠ some active.turnId) .failedPrecondition
    "active turn sequence does not match admission order"
  sessionErrorIf (active.sequence ≠ turnThrough state + state.terminalTurns.length) .failedPrecondition
    "active turn does not follow terminal history"
  sessionErrorIf (∃ head ∈ state.queuedTurns.head?, head.sequence ≤ active.sequence) .failedPrecondition
    "active turn is not the FIFO head"
  parseStoredCheckpoint codec active.checkpoint
  parseChainDigest active.checkpoint active.checkpointChainDigest
    ("active turn " ++ active.turnId ++ " checkpointChainDigest")
  checkpointMatchesSession state active.checkpoint.metadata active.turnId true
  assertStoredPayload codec active.input "input" "inputRef" "state.activeTurn" .failedPrecondition
  sessionErrorIf (state.status ≠ .running) .failedPrecondition "an active turn requires running session status"
  sessionErrorIf (¬ (active.abortRequested = true ↔ active.abortReason ≠ none)) .failedPrecondition
    "abortRequested and abortReason disagree"
  validatedOptionalIdentifier codec active.activeEffectId "state.activeTurn.activeEffectId"
  validatedOptionalIdentifier codec active.abortReason "active turn abortReason"
  validatedInteger active.turnLeaseGeneration "active turn lease generation" 1
  validatedInteger active.leaseExpiresAt "active turn lease expiry" 1

def assertCurrentTurn : Checked Unit :=
  match state.activeTurn with
  | none => assertNoActiveTurn state
  | some active => assertActiveTurn codec state active

/-- The identities of all hot turns with a durable status. -/
def representedTurnIds : List String :=
  state.terminalTurns.map (·.turnId) ++ state.queuedTurns.map (·.turnId) ++ (state.activeTurn.map (·.turnId)).toList

def assertRepresented : Checked Unit :=
  sessionErrorIf ((representedTurnIds state).length ≠ state.knownTurnIds.length ∨
      ∃ turnId ∈ state.knownTurnIds, turnId ∉ representedTurnIds state)
    .failedPrecondition "every admitted turn must have exactly one durable status"

end Circulusd.Session
