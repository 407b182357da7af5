import Circulusd.Session.Core

/-
What a command changes in the turns and effects of a session.
-/

namespace Circulusd.Session

variable {first second third : SessionAggregateState}

open Checked Protocol List Option Prod

/-- The turns, effects and configuration of a session, without its journals and its broker. -/
def SessionAggregateState.records (state : SessionAggregateState) : SessionAggregateState :=
  { state with
    eventSequence := 0
    publicEventSequence := 0
    commandReceipts := []
    publicEvents := []
    turnAdmissionReceipts := []
    broker := none }

def SameRecords (first second : SessionAggregateState) : Prop := first.records = second.records

theorem SameRecords.trans (left : SameRecords first second)
    (right : SameRecords second third) : SameRecords first third := Eq.trans left right

/-- The state without its public journal and its admissions. -/
def SessionAggregateState.internal (state : SessionAggregateState) : SessionAggregateState :=
  { state with
    publicEventSequence := 0
    publicEvents := []
    turnAdmissionReceipts := [] }

def SameInternal (first second : SessionAggregateState) : Prop := first.internal = second.internal

theorem SameInternal.trans (left : SameInternal first second)
    (right : SameInternal second third) : SameInternal first third := Eq.trans left right

theorem SameInternal.records {first second : SessionAggregateState} (same : SameInternal first second) :
    SameRecords first second := by
  have equal : first.internal.records = second.internal.records := congrArg SessionAggregateState.records same
  exact equal

/-- The command journal and the public journal of a session. -/
def SessionAggregateState.journals (state : SessionAggregateState) :
    (List CommandReceipt × Nat) × List SessionPublicEvent × Nat :=
  ((state.commandReceipts, state.eventSequence), state.publicEvents, state.publicEventSequence)

/-- The public journal grows by events that continue its sequence. -/
def Appends (before after : SessionAggregateState) : Prop :=
  ∃ added : List SessionPublicEvent, after.publicEvents = before.publicEvents ++ added ∧
    added.map (·.sequence) = List.range' (before.publicEventSequence + 1) added.length ∧
    after.publicEventSequence = before.publicEventSequence + added.length

theorem Appends.of_journals {before after : SessionAggregateState} (same : after.journals = before.journals) :
    Appends before after := by
  simp only [SessionAggregateState.journals, mk.injEq] at same
  exact ⟨[], by simp [same], rfl, by simp [same]⟩

theorem Appends.trans (left : Appends first second) (right : Appends second third) : Appends first third := by
  obtain ⟨front, events, sequences, cursor⟩ := left
  obtain ⟨back, laterEvents, laterSequences, laterCursor⟩ := right
  refine ⟨front ++ back, by rw [laterEvents, events, append_assoc], ?_, ?_⟩
  · rw [map_append, sequences, laterSequences, cursor, length_append, ← range'_append_1,
      Nat.add_right_comm]
  · rw [laterCursor, cursor, length_append, Nat.add_assoc]

/-- Only the public journal and the admissions differ, and the journal only grew. -/
structure Publishes (before after : SessionAggregateState) : Prop where
  internal : SameInternal after before
  events : Appends before after

@[refl]
theorem Publishes.refl (state : SessionAggregateState) : Publishes state state := ⟨rfl, .of_journals rfl⟩

theorem Publishes.trans (left : Publishes first second) (right : Publishes second third) : Publishes first third :=
  ⟨right.internal.trans left.internal, left.events.trans right.events⟩

/-- The active turn names the effect. -/
structure ActiveEffect (state : SessionAggregateState) (active : ActiveTurn) (effect : SessionEffect) : Prop where
  present : state.activeTurn = some active
  named : active.activeEffectId = some effect.effectId
  found : effectById state effect.effectId = some effect

/-- A change of the active effect may also change the status of its turn. -/
def moveEffect (state : SessionAggregateState) (effectId : String) (change : SessionEffect → SessionEffect)
    (active : ActiveTurn) (turnStatus : ActiveTurnStatus) (status : SessionStatus) : SessionAggregateState :=
  { updateEffect state effectId change with
    activeTurn := some { active with status := turnStatus }
    status := status }

/-- A boundary consumes the settlement of the active effect, if there is one. -/
inductive Consumption (state : SessionAggregateState) (active : ActiveTurn)
    (change : SessionEffect → SessionEffect) : SessionAggregateState → Option String → Prop where
  | idle (absent : active.activeEffectId = none) : Consumption state active change state none
  | consumed (effect : SessionEffect) (effectActive : ActiveEffect state active effect)
      (settled : effect.phase = .settled) (unconsumed : effect.unconsumed = true) :
      Consumption state active change (updateEffect state effect.effectId change) (some effect.effectId)

def consumeAt (checkpointSequence : Nat) (effect : SessionEffect) : SessionEffect :=
  { effect with consumedAtCheckpointSequence := some checkpointSequence }

def consumeForAbort (effect : SessionEffect) : SessionEffect := { effect with consumedByAbort := true }

def SessionEffect.claimStart (effect : SessionEffect) (dispatch : EffectDispatchMetadata)
    (start : EffectDispatchStartMetadata) : SessionEffect :=
  { effect with lastDispatch := some { dispatch with start := some start } }

def SessionEffect.commitExternally (effect : SessionEffect) (externalCommitId : String)
    (resultRef : Option String) : SessionEffect :=
  { effect with
    phase := .externallyCommitted
    externalCommitId := some externalCommitId
    resultRef := resultRef }

def SessionEffect.settle (effect : SessionEffect) (settlement : StoredEffectSettlement) : SessionEffect :=
  { effect with phase := .settled, settlement := some settlement }

/-- The outcomes that start no work and move no turn, fence or runtime pointer. -/
def StoredSessionCommandOutcome.isQuiet : StoredSessionCommandOutcome → Bool
  | .brokerBoundary operation _ => operation ≠ .retry
  | .effectSettled _ _ => true
  | .effectRecoveredInterrupted _ => true
  | .effectRecoveredBlocked _ => true
  | .confirmationAbandoned _ => true
  | _ => false

/-- A runtime command moves the pointer; a switch waits until all admitted turns drain. -/
inductive RuntimeMove (state : SessionAggregateState) : StoredSessionCommandOutcome → RuntimePointer → Prop where
  | staged (candidate : Digest) : RuntimeMove state
        (.runtimeRevisionStaged state.runtimePointer.activeRevision candidate state.runtimePointer.switchGeneration)
        { state.runtimePointer with candidateRevision := some candidate }
  | discarded (candidate failure : Digest) : RuntimeMove state
        (.runtimeCandidateDiscarded state.runtimePointer.activeRevision candidate
          state.runtimePointer.switchGeneration failure)
        { state.runtimePointer with candidateRevision := none }
  | activated (revision health migration : Digest) (drained : state.activeTurn = none ∧ state.queuedTurns = []) :
      RuntimeMove state (.runtimeRevisionActivated revision state.runtimePointer.activeRevision
          (state.runtimePointer.switchGeneration + 1) health migration)
        (switchRuntime state revision).runtimePointer
  | rolledBack (revision failure : Digest) (drained : state.activeTurn = none ∧ state.queuedTurns = []) :
      RuntimeMove state (.runtimeRevisionRolledBack revision state.runtimePointer.activeRevision
          (state.runtimePointer.switchGeneration + 1) failure)
        (switchRuntime state revision).runtimePointer

/-- A checkpoint on the wire for a turn of the session, and its durable form. -/
structure Stores (codec : Codec) (state : SessionAggregateState) (turnId : String) (wire : AgentCheckpoint)
    (external : ExternalizedAgentCheckpoint) : Prop where
  validated : validateAgentCheckpoint codec wire = .ok ()
  admissible : checkpointMatchesSession state wire.toCheckpointMetadata turnId true = .ok ()
  externalized : externalizeAgentCheckpoint codec wire = .ok external

/-- An engine checkpoint continues the chain of the active turn. -/
structure Continues (codec : Codec) (state : SessionAggregateState) (active : ActiveTurn) (wire : AgentCheckpoint)
    (external : ExternalizedAgentCheckpoint) : Prop extends Stores codec state active.turnId wire external where
  sequence : wire.checkpointSequence = active.checkpoint.metadata.checkpointSequence + 1
  linked : wire.predecessorDigest = active.toTurnRecord.chainDigest? codec

/-- A turn after an engine step. -/
def ActiveTurn.step (active : ActiveTurn) (activeEffectId : Option String) (checkpoint : StoredSessionCheckpoint)
    (chain : Option Digest) : ActiveTurn :=
  { active with
    activeEffectId := activeEffectId
    checkpoint := checkpoint
    checkpointChainDigest := chain }

/-- The changes of a session at the time of a command, with the recorded outcome and the time of promotion. -/
inductive SessionChange (codec : Codec) (state : SessionAggregateState) (context : Option SessionApplyContext)
    (clock : Nat) :
    Option AgentCheckpoint → Option StoredSessionCommandOutcome → Option Nat → SessionAggregateState → Prop where
  | granted (active : ActiveTurn) (present : state.activeTurn = some active)
      (live : active.abortRequested = false) : SessionChange codec state context clock none none none state
  | reserved (active : ActiveTurn) (effect : SessionEffect) (effectActive : ActiveEffect state active effect)
      (live : active.abortRequested = false) (unstarted : effect.hasStart = false) :
      SessionChange codec state context clock none (some (.brokerBoundary .retry effect.effectId)) none state
  | runtime (outcome : StoredSessionCommandOutcome) (pointer : RuntimePointer) (revision : Digest)
      (move : RuntimeMove state outcome pointer) :
      SessionChange codec state context clock none (some outcome) none
        { state with runtimePointer := pointer, runtimeRevisionDigest := revision }
  | generationsRotated (placement sandbox authorization : Nat) (overlay : Digest)
      (placementGrows : state.placementGeneration ≤ placement) (sandboxGrows : state.sandboxGeneration ≤ sandbox)
      (authorizationGrows : state.authorizationGeneration ≤ authorization)
      (changed : ¬ (placement = state.placementGeneration ∧ sandbox = state.sandboxGeneration ∧
        authorization = state.authorizationGeneration)) :
      SessionChange codec state context clock none (some (.generationsRotated placement sandbox authorization overlay)) none
        { state with
          placementGeneration := placement
          sandboxGeneration := sandbox
          authorizationGeneration := authorization
          emergencyOverlayDigest := overlay }
  | admitted (turn : TurnRecord) (sequence : turn.sequence = state.nextTurnSequence)
      (fresh : assertNewTurn state turn.turnId (SessionApplyContext.witness? context) = .ok ())
      (wire : AgentCheckpoint) (genesis : wire.kind = .genesis) (external : ExternalizedAgentCheckpoint)
      (stores : Stores codec state turn.turnId wire external) (checkpoint : turn.checkpoint = .external external)
      (chain : turn.checkpointChainDigest = some (codec.validatedCheckpointDigest wire)) :
      SessionChange codec state context clock (some wire)
        (some (.turnEnqueued turn.turnId turn.sequence state.activeTurn.isNone)) none (admitTurn state turn)
  | leaseRotated (active : ActiveTurn) (present : state.activeTurn = some active) (expiresAt : Nat) :
      SessionChange codec state context clock none
        (some (.turnLeaseRotated active.turnId (active.turnLeaseGeneration + 1) expiresAt)) none
        { state with activeTurn := some { active with
          turnLeaseGeneration := active.turnLeaseGeneration + 1
          leaseExpiresAt := expiresAt } }
  | abortRequested (active : ActiveTurn) (present : state.activeTurn = some active) (reason : String)
      (pending : active.activeEffectId ≠ none) :
      SessionChange codec state context clock none (some (.abortRequested active.turnId active.status.aborted)) none
        { state with activeTurn := some { active with abortRequested := true, abortReason := some reason } }
  | abortedAtOnce (active : ActiveTurn) (present : state.activeTurn = some active) (reason : String)
      (idle : active.activeEffectId = none) :
      SessionChange codec state context clock none (some (.abortRequested active.turnId .aborted)) (some clock)
        (settleActiveTurn state (active.terminate active.checkpoint true (some reason) .aborted))
  | abortFinalized (active : ActiveTurn) (present : state.activeTurn = some active)
      (requested : active.abortRequested = true) (consumed : SessionAggregateState) (effectId : Option String)
      (consumption : Consumption state active consumeForAbort consumed effectId) :
      SessionChange codec state context clock none (some (.abortFinalized active.turnId)) (some clock)
        (settleActiveTurn consumed (active.terminate active.checkpoint true active.abortReason .aborted))
  | stepped (active : ActiveTurn) (present : state.activeTurn = some active)
      (live : active.abortRequested = false) (kind : EngineStepKind) (wire : AgentCheckpoint)
      (external : ExternalizedAgentCheckpoint) (continues : Continues codec state active wire external)
      (consumed : SessionAggregateState) (consumedId : Option String)
      (consumption : Consumption state active (consumeAt wire.checkpointSequence) consumed consumedId)
      (claim : Option (EffectClaim × StoredPayload))
      (claimed : ∀ entry ∈ claim, entry.1.turnId = active.turnId ∧
        assertNewEffect consumed ⟨entry.1.effectId, entry.1.invocationId⟩
          (SessionApplyContext.witness? context) = .ok ())
      (status : CommittedTurnStatus) :
      SessionChange codec state context clock (some wire)
        (some (.engineStepCommitted active.turnId kind wire.checkpointSequence consumedId
          (claim.map (·.1.effectId)) status)) none
        { consumed with
          activeTurn := some (active.step (claim.map (·.1.effectId)) (.external external)
            (some (codec.validatedCheckpointDigest wire)))
          effects := consumed.effects ++ (claim.map (fun entry => EffectClaim.prepare entry.1 entry.2)).toList }
  | finished (active : ActiveTurn) (present : state.activeTurn = some active)
      (live : active.abortRequested = false) (kind : EngineStepKind) (wire : AgentCheckpoint)
      (external : ExternalizedAgentCheckpoint) (continues : Continues codec state active wire external)
      (consumed : SessionAggregateState) (consumedId : Option String)
      (consumption : Consumption state active (consumeAt wire.checkpointSequence) consumed consumedId)
      (result : TerminalResult) (status : CommittedTurnStatus)
      (unaborted : result ≠ .aborted) :
      SessionChange codec state context clock (some wire)
        (some (.engineStepCommitted active.turnId kind wire.checkpointSequence consumedId none status)) (some clock)
        (settleActiveTurn consumed
          (active.terminate (.external external) active.abortRequested active.abortReason result))
  | dispatched (active : ActiveTurn) (effect : SessionEffect) (effectActive : ActiveEffect state active effect)
      (live : active.abortRequested = false) (dispatch : EffectDispatchMetadata)
      (phase : effect.phase = .prepared ∨ effect.phase = .dispatched ∨ effect.phase = .blocked)
      (unstarted : effect.hasStart = false) (fenced : dispatch.toSessionFence = fence state)
      (attempt : dispatch.dispatchAttempt = effect.dispatchAttempt + 1) (fresh : dispatch.start = none)
      (outcome : StoredSessionCommandOutcome)
      (issued : outcome.issuedPermit? = some (permitClaims effect.toEffectClaim dispatch))
      (turnStatus : ActiveTurnStatus) (status : SessionStatus) :
      SessionChange codec state context clock none (some outcome) none
        (moveEffect state effect.effectId (·.dispatch dispatch) active turnStatus status)
  | claimed (active : ActiveTurn) (effect : SessionEffect) (effectActive : ActiveEffect state active effect)
      (live : active.abortRequested = false) (dispatch : EffectDispatchMetadata)
      (phase : effect.phase = .dispatched) (last : effect.lastDispatch = some dispatch)
      (fresh : dispatch.start = none) (start : EffectDispatchStartMetadata) (permit : DispatchStartPermitClaims)
      (matching : PermitMatchesDispatch permit.dispatchPermitClaims effect dispatch) :
      SessionChange codec state context clock none (some (.dispatchStartClaimed effect.effectId true permit)) none
        (moveEffect state effect.effectId (·.claimStart dispatch start) active active.status state.status)
  | committed (active : ActiveTurn) (effect : SessionEffect) (effectActive : ActiveEffect state active effect)
      (phase : effect.phase = .dispatched ∨ effect.phase = .blocked) (externalCommitId : String)
      (resultRef : Option String) (turnStatus : ActiveTurnStatus) (status : SessionStatus) :
      SessionChange codec state context clock none (some (.externalCommitRecorded effect.effectId externalCommitId)) none
        (moveEffect state effect.effectId (·.commitExternally externalCommitId resultRef) active turnStatus status)
  | blocked (active : ActiveTurn) (effect : SessionEffect) (effectActive : ActiveEffect state active effect)
      (phase : effect.phase = .dispatched) (unstarted : effect.hasStart = false)
      (outcome : StoredSessionCommandOutcome) (quiet : outcome.isQuiet = true) :
      SessionChange codec state context clock none (some outcome) none
        (moveEffect state effect.effectId (fun current => { current with phase := .blocked }) active
          .needsConfirmation state.status)
  | settled (active : ActiveTurn) (effect : SessionEffect) (effectActive : ActiveEffect state active effect)
      (phase : effect.phase ≠ .settled) (settlement : StoredEffectSettlement)
      (outcome : StoredSessionCommandOutcome) (quiet : outcome.isQuiet = true) (turnStatus : ActiveTurnStatus)
      (status : SessionStatus) :
      SessionChange codec state context clock none (some outcome) none
        (moveEffect state effect.effectId (·.settle settlement) active turnStatus status)

section Refinement

variable {codec : Codec} {state : SessionAggregateState} {context : Option SessionApplyContext}
  {transition : Transition} {clock : Nat}

/-- The checkpoint on the wire that a command carries. -/
def CoreCommand.submitted? : CoreCommand → Option AgentCheckpoint
  | .enqueueTurn command => some command.genesisCheckpoint
  | .commitEngineStep command => some command.step.committed
  | _ => none

/-- The time that a command compares with the leases. -/
def CoreCommand.leaseTime (context : Option SessionApplyContext) : CoreCommand → Nat
  | .commitEngineStep command => verificationTime context command.transactionTime
  | .requestAbort command => verificationTime context command.transactionTime
  | .finalizeAbort command => verificationTime context command.transactionTime
  | _ => verificationTime context 0

/-- The transition of a command is one of the changes, up to the journals. -/
def Refines (codec : Codec) (state : SessionAggregateState) (context : Option SessionApplyContext) (clock : Nat)
    (submitted : Option AgentCheckpoint) (transition : Transition) : Prop :=
  ∃ next, SessionChange codec state context clock submitted (some transition.outcome) transition.turnPromotionTime next ∧
    Publishes next transition.next

section

variable {before after : SessionAggregateState}

theorem appendPublicEvent_publishes {turnId : String} {turnSequence : Nat} {body : SessionPublicEventBody}
    (ok : appendPublicEvent before turnId turnSequence body = .ok after) : Publishes before after := by
  simp only [appendPublicEvent, steps_ok] at ok
  obtain ⟨_, _, rfl⟩ := ok
  exact ⟨rfl, _, rfl, rfl, rfl⟩

theorem recordAdmission_publishes {turn : TurnRecord} {activated : Bool} {admission : PublicTurnAdmission}
    (ok : recordAdmission before turn activated admission = .ok after) : Publishes before after := by
  simp only [recordAdmission, steps_ok] at ok
  obtain ⟨appended, published, rfl⟩ := ok
  obtain ⟨internal, events⟩ := appendPublicEvent_publishes published
  exact ⟨internal, events⟩

end

theorem enqueueTurn_refines (command : EnqueueTurnCommand)
    (ok : enqueueTurn codec state command context = .ok transition) :
    Refines codec state context clock (some command.genesisCheckpoint) transition := by
  simp only [enqueueTurn, steps_ok, protocolFailureAs_ok_iff, sessionErrorIf_ok] at ok
  obtain ⟨_, _, _, fresh, _, _, _, _, _, _, validated, admissible, kind, genesis, externalized, stored, _, ok⟩ := ok
  let turn : TurnRecord := {
    turnId := command.turnId
    sequence := state.nextTurnSequence
    input := .reference stored.1
    inputDigest := command.inputDigest
    checkpoint := .external genesis
    checkpointChainDigest := some (codec.validatedCheckpointDigest command.genesisCheckpoint)
    turnLeaseGeneration := command.turnLeaseGeneration
    leaseExpiresAt := command.leaseExpiresAt }
  have change : SessionChange codec state context clock (some command.genesisCheckpoint)
      (some (.turnEnqueued turn.turnId turn.sequence state.activeTurn.isNone)) none (admitTurn state turn) :=
    .admitted turn rfl fresh _ kind genesis ⟨validated, admissible, externalized⟩ rfl rfl
  cases publicAdmission : command.publicAdmission with
  | none =>
    simp only [publicAdmission, ok_bind, pure_ok] at ok
    subst ok
    exact ⟨admitTurn state turn, change, .refl _⟩
  | some admission =>
    simp only [publicAdmission, steps_ok] at ok
    obtain ⟨next, recorded, rfl⟩ := ok
    exact ⟨admitTurn state turn, change, recordAdmission_publishes recorded⟩

theorem consumeSettlement_consumption (active : ActiveTurn) (named : Option String) (sequence : Nat)
    (consumed : SessionAggregateState) (consumedId : Option String) (present : state.activeTurn = some active)
    (ok : consumeSettlement state active named sequence = .ok (consumed, consumedId)) :
    Consumption state active (consumeAt sequence) consumed consumedId := by
  unfold consumeSettlement at ok
  split at ok
  · next idle =>
      simp only [bind_ok, pure_ok, mk.injEq] at ok
      obtain ⟨_, _, rfl, rfl⟩ := ok
      exact .idle idle
  · next effectId active_eq =>
      simp only [bind_ok, exists_unit, require_ok, filter_eq_some_iff, decide_eq_true_eq,
        sessionErrorIf_ok, Bool.not_eq_false, pure_ok, mk.injEq] at ok
      obtain ⟨effect, ⟨found, settled⟩, _, unconsumed, rfl, rfl⟩ := ok
      have same : effect.effectId = effectId := by simpa using find?_some found
      subst same
      exact .consumed effect ⟨present, active_eq, found⟩ settled unconsumed

theorem consumeByAbort_consumption (active : ActiveTurn) (consumed : SessionAggregateState)
    (present : state.activeTurn = some active) (ok : consumeByAbort state active = .ok consumed) :
    ∃ effectId, Consumption state active consumeForAbort consumed effectId := by
  unfold consumeByAbort at ok
  split at ok
  · next idle => exact Except.ok.inj ok ▸ ⟨none, .idle idle⟩
  · next effectId active_eq =>
      simp only [steps_ok, filter_eq_some_iff, decide_eq_true_eq, sessionErrorIf_ok, Bool.not_eq_false] at ok
      obtain ⟨effect, ⟨found, settled⟩, unconsumed, rfl⟩ := ok
      have same : effect.effectId = effectId := by simpa using find?_some found
      subst same
      exact ⟨_, .consumed effect ⟨present, active_eq, found⟩ settled unconsumed⟩

/-- Only an effect request prepares an effect, and its identity is new. -/
theorem stepEffect_claim (turnId : String) (identity : Option EffectIdentity) (step : EngineStepResult)
    (witness : Option SessionHistoryWitness) (prepared : Option SessionEffect) (blobs : BlobMap)
    (ok : stepEffect codec state turnId identity step witness = .ok (prepared, blobs)) :
    ∃ claim : Option (EffectClaim × StoredPayload),
      prepared = claim.map (fun entry => EffectClaim.prepare entry.1 entry.2) ∧
      (∀ entry ∈ claim, entry.1.turnId = turnId ∧
        assertNewEffect state ⟨entry.1.effectId, entry.1.invocationId⟩ witness = .ok ()) ∧
      (step.kind ≠ .effectRequest → claim = none) := by
  unfold stepEffect at ok
  split at ok
  · next committed request =>
      simp only [prepareEffect, bind_ok, exists_unit, pure_ok, require_ok, mk.injEq] at ok
      obtain ⟨_, ⟨named, _, _, _, _, fresh, _, stored, _, rfl⟩, rfl, rfl⟩ := ok
      refine ⟨some (requestedClaim state turnId named request, .reference stored.1), ?_, ?_, ?_⟩
      · rfl
      · intro entry member
        obtain rfl := mem_some.mp member
        exact ⟨rfl, fresh⟩
      · intro other
        exact absurd rfl other
  · simp only [bind_ok, pure_ok, mk.injEq] at ok
    obtain ⟨_, _, rfl, rfl⟩ := ok
    exact ⟨none, rfl, by simp, fun _ => rfl⟩

/-- Only a completed turn or an error of the engine is terminal. -/
theorem storeTerminalResult_ok (step : EngineStepResult) (blobs stored : BlobMap) (result : Option TerminalResult)
    (ok : storeTerminalResult codec step blobs = .ok (result, stored)) :
    ∀ terminal ∈ result, terminal ≠ .aborted ∧ step.kind ≠ .effectRequest := by
  intro terminal member
  obtain rfl := mem_def.mp member
  cases step with
  | turnComplete committed value =>
    simp only [storeTerminalResult, steps_ok, some.injEq] at ok
    obtain ⟨_, _, rfl, _⟩ := ok
    exact ⟨by simp, by simp [EngineStepResult.kind]⟩
  | turnError committed error =>
    refine ⟨?_, by simp [EngineStepResult.kind]⟩
    cases details : error.details with
    | none =>
      simp only [storeTerminalResult, details, pure_ok, mk.injEq, some.injEq] at ok
      simp [← ok.1]
    | some value =>
      simp only [storeTerminalResult, details, steps_ok, some.injEq] at ok
      obtain ⟨_, _, rfl, _⟩ := ok
      simp
  | checkpoint committed => simp [storeTerminalResult] at ok
  | effectRequest committed request => simp [storeTerminalResult] at ok

/-- The parser of a step keeps its checkpoint. -/
theorem validatedStep_committed (step parsed : EngineStepResult) (ok : validatedStep codec step = .ok parsed) :
    step.committed = parsed.committed ∧ validateAgentCheckpoint codec parsed.committed = .ok () := by
  simp only [validatedStep, steps_ok, protocolFailureAs_ok_iff] at ok
  obtain ⟨_, parse, validated, _, rfl⟩ := ok
  refine ⟨?_, validated⟩
  cases step <;> simp only [parseEngineStepResult, steps_ok] at parse
  · exact parse.2 ▸ rfl
  · obtain ⟨_, _, _, _, _, rfl⟩ := parse
    rfl
  · obtain ⟨_, _, _, rfl⟩ := parse
    rfl
  · obtain ⟨_, _, _, rfl⟩ := parse
    rfl

theorem commitEngineStep_refines (command : CommitEngineStepCommand)
    (ok : commitEngineStep codec state command context = .ok transition) :
    Refines codec state context (verificationTime context command.transactionTime)
      (some command.step.committed) transition := by
  simp only [commitEngineStep, steps_ok, requireActiveTurn_ok_iff, sessionErrorIf_ok, Bool.not_eq_true] at ok
  obtain ⟨active, ⟨present, _⟩, _, _, live, step, parsed, admissible, _, sequence, linked, ⟨consumed, consumedId⟩,
    consume, ⟨prepared, blobs⟩, prepare, external, externalized, ⟨result, stored⟩, terminal, ok⟩ := ok
  obtain ⟨same, validated⟩ := validatedStep_committed _ step parsed
  rw [same]
  have continues : Continues codec state active step.committed external :=
    ⟨⟨validated, admissible, externalized⟩, sequence, linked⟩
  have consumption := consumeSettlement_consumption active _ _ _ _ present consume
  obtain ⟨claim, rfl, claimed, request⟩ := stepEffect_claim _ _ _ _ _ _ prepare
  have preparedId : (claim.map (fun entry => EffectClaim.prepare entry.1 entry.2)).map (·.effectId) =
      claim.map (·.1.effectId) := by cases claim <;> rfl
  have results := storeTerminalResult_ok _ _ _ _ terminal
  cases result with
  | none =>
    simp only [pure_ok, preparedId] at ok
    subst ok
    exact ⟨_, .stepped active present live step.kind _ external continues consumed consumedId consumption claim
      claimed (expectedStatus step.kind), .refl _⟩
  | some result =>
    obtain ⟨unaborted, other⟩ := results result rfl
    obtain rfl := request other
    simp only [pure_ok] at ok
    subst ok
    refine ⟨_, .finished active present live step.kind _ external continues consumed consumedId consumption
      result (expectedStatus step.kind) unaborted, ?_⟩
    simpa [settleActiveTurn, TurnRecord.terminate] using Publishes.refl _

theorem ActiveEffect.of_required (command : EffectCommandBase) (active : ActiveTurn) (effect : SessionEffect)
    (required : state.activeTurn = some active ∧ effectById state command.effectId = some effect ∧
      active.activeEffectId = some command.effectId ∧ effect.turnId = command.turnId) :
    ActiveEffect state active effect := by
  obtain ⟨present, found, named, _⟩ := required
  have same : effect.effectId = command.effectId := by simpa using find?_some found
  exact ⟨present, by rw [named, same], by rw [same, found]⟩

/-- A change of an effect alone keeps the active turn. -/
theorem updateEffect_eq_moveEffect (effectId : String) (change : SessionEffect → SessionEffect)
    (active : ActiveTurn) (present : state.activeTurn = some active) :
    updateEffect state effectId change = moveEffect state effectId change active active.status state.status := by
  simp [updateEffect, moveEffect, present]

theorem issueDispatch_ok (effect : SessionEffect) (deadline : Nat) (route : Digest)
    (providerRequestId : Option String) (dispatch : EffectDispatchMetadata) (claims : DispatchPermitClaims)
    (ok : issueDispatch codec state effect deadline route providerRequestId = .ok (dispatch, claims)) :
    dispatch.toSessionFence = fence state ∧ dispatch.dispatchAttempt = effect.dispatchAttempt + 1 ∧
      dispatch.start = none ∧ claims = permitClaims effect.toEffectClaim dispatch := by
  simp only [issueDispatch, steps_ok] at ok
  obtain ⟨_, _, _, rfl, rfl⟩ := ok
  exact ⟨rfl, rfl, rfl, rfl⟩

theorem ActiveEffect.member {active : ActiveTurn} {effect : SessionEffect}
    (effectActive : ActiveEffect state active effect) : effect ∈ state.effects :=
  mem_of_find?_eq_some effectActive.found

theorem dispatchEffect_refines (command : DispatchEffectCommand) (valid : ValidEffects state)
    (ok : dispatchEffect codec state command context = .ok transition) :
    Refines codec state context clock none transition := by
  simp only [dispatchEffect, steps_ok, Prod.exists, requireActiveEffect_ok_iff, sessionErrorIf_ok, Bool.not_eq_true] at ok
  obtain ⟨active, effect, required, live, _, prepared, _, _, _, dispatch, claims, issued, rfl⟩ := ok
  have effectActive := ActiveEffect.of_required _ active effect required
  obtain ⟨fenced, attempt, fresh, rfl⟩ := issueDispatch_ok effect _ _ _ dispatch claims issued
  refine ⟨_, .dispatched active effect effectActive live dispatch (.inl prepared)
    (valid.unstarted effect effectActive.member prepared) fenced attempt fresh _ rfl
    active.status state.status, ?_⟩
  rw [updateEffect_eq_moveEffect _ _ active effectActive.present]

theorem claimDispatchStart_refines (command : ClaimDispatchStartCommand)
    (ok : claimDispatchStart codec state command context = .ok transition) :
    Refines codec state context clock none transition := by
  simp only [claimDispatchStart, steps_ok, Prod.exists, requireActiveEffect_ok_iff, sessionErrorIf_ok,
    Bool.not_eq_true] at ok
  obtain ⟨active, effect, required, live, _, _, _, phase, dispatch, last, fresh, _, _, _, _, _, _, _, _,
    matching, _, rfl⟩ := ok
  have effectActive := ActiveEffect.of_required _ active effect required
  refine ⟨_, .claimed active effect effectActive live dispatch phase last fresh
    (startMetadata dispatch command.commandDigest (state.eventSequence + 1)) _ matching.permit, ?_⟩
  rw [updateEffect_eq_moveEffect _ _ active effectActive.present]
  rfl

/-- A turn that resumes has its status set and runs again. -/
theorem resumeTurn_eq_moveEffect (effectId : String) (change : SessionEffect → SessionEffect) (active : ActiveTurn) :
    resumeTurn (updateEffect state effectId change) active =
      moveEffect state effectId change active .active .running := rfl

theorem recordExternalCommit_refines (command : RecordExternalCommitCommand)
    (ok : recordExternalCommit codec state command = .ok transition) :
    Refines codec state context clock none transition := by
  simp only [recordExternalCommit, steps_ok, Prod.exists, requireActiveEffect_ok_iff, sessionErrorIf_ok, not_and_or] at ok
  obtain ⟨active, effect, required, _, _, _, phase, _, _, rfl⟩ := ok
  have effectActive := ActiveEffect.of_required _ active effect required
  by_cases confirming : active.status = .needsConfirmation
  · refine ⟨_, .committed active effect effectActive phase command.externalCommitId command.resultRef
      .active .running, ?_⟩
    rw [if_pos confirming, resumeTurn_eq_moveEffect]
    rfl
  · refine ⟨_, .committed active effect effectActive phase command.externalCommitId command.resultRef
      active.status state.status, ?_⟩
    rw [if_neg confirming, updateEffect_eq_moveEffect _ _ active effectActive.present]
    rfl

theorem settleEffect_refines (command : SettleEffectCommand) (ok : settleEffect codec state command = .ok transition) :
    Refines codec state context clock none transition := by
  simp only [settleEffect, steps_ok, Prod.exists, requireActiveEffect_ok_iff, sessionErrorIf_ok, not_or] at ok
  obtain ⟨active, effect, required, _, _, ⟨unsettled, _⟩, _, _, settlement, blobs, _, rfl⟩ := ok
  have effectActive := ActiveEffect.of_required _ active effect required
  by_cases aborting : active.abortRequested = true
  · refine ⟨_, .settled active effect effectActive unsettled settlement _ rfl active.status state.status, ?_⟩
    rw [if_pos aborting, updateEffect_eq_moveEffect _ _ active effectActive.present]
    rfl
  · refine ⟨_, .settled active effect effectActive unsettled settlement _ rfl .active .running, ?_⟩
    rw [if_neg aborting, resumeTurn_eq_moveEffect]
    rfl

theorem hasStart_eq_false_iff (effect : SessionEffect) (attempted : effect.lastDispatch.map (·.start) = some none) :
    effect.hasStart = false := by
  cases last : effect.lastDispatch with
  | none => simp [last] at attempted
  | some dispatch => simp_all [SessionEffect.hasStart]

theorem recoverEffect_refines (command : RecoverEffectCommand)
    (ok : recoverEffect codec state command = .ok transition) :
    Refines codec state context clock none transition := by
  simp only [recoverEffect, steps_ok, Prod.exists, requireActiveEffect_ok_iff, sessionErrorIf_ok] at ok
  obtain ⟨active, effect, required, _, phase, attempted, ok⟩ := ok
  have effectActive := ActiveEffect.of_required _ active effect required
  have unstarted := hasStart_eq_false_iff effect attempted
  have unsettled : effect.phase ≠ .settled := by rw [phase]; decide
  have blocks : Refines codec state context clock none
      ⟨blockEffect state active effect.effectId, .effectRecoveredBlocked effect.effectId, none, []⟩ :=
    ⟨_, .blocked active effect effectActive phase unstarted _ rfl, .refl _⟩
  have interrupts : ∀ reason, Refines codec state context clock none
      ⟨interruptEffect state effect.effectId reason, .effectRecoveredInterrupted effect.effectId, none, []⟩ := by
    intro reason
    refine ⟨_, .settled active effect effectActive unsettled (.interruptedUnknown reason) _ rfl
      active.status state.status, ?_⟩
    rw [interruptEffect, updateEffect_eq_moveEffect _ _ active effectActive.present]
    rfl
  by_cases aborting : active.abortRequested = true
  · rw [if_pos aborting] at ok
    split at ok
    · exact (pure_ok ..).mp ok ▸ blocks
    · exact (pure_ok ..).mp ok ▸ interrupts _
  · rw [if_neg aborting] at ok
    simp only [steps_ok] at ok
    obtain ⟨_, _, _, ok⟩ := ok
    split at ok
    · exact (pure_ok ..).mp ok ▸ interrupts _
    · exact (pure_ok ..).mp ok ▸ blocks
    · simp only [steps_ok, Prod.exists] at ok
      obtain ⟨route, _, dispatch, claims, issued, rfl⟩ := ok
      obtain ⟨fenced, attempt, fresh, rfl⟩ := issueDispatch_ok effect _ _ _ dispatch claims issued
      refine ⟨_, .dispatched active effect effectActive (by simpa using aborting) dispatch (.inr (.inl phase))
        unstarted fenced attempt fresh _ rfl active.status state.status, ?_⟩
      rw [updateEffect_eq_moveEffect _ _ active effectActive.present]

theorem resolveConfirmation_refines (command : ResolveConfirmationCommand)
    (ok : resolveConfirmation codec state command = .ok transition) :
    Refines codec state context clock none transition := by
  simp only [resolveConfirmation, steps_ok, Prod.exists, requireActiveEffect_ok_iff, sessionErrorIf_ok, not_or] at ok
  obtain ⟨active, effect, required, _, ⟨phase, _⟩, ok⟩ := ok
  have effectActive := ActiveEffect.of_required _ active effect required
  split at ok
  · simp only [retryConfirmed, steps_ok, Prod.exists, sessionErrorIf_ok, Bool.not_eq_true] at ok
    obtain ⟨live, _, _, deadline, _, _, attempted, route, _, dispatch, claims, issued, rfl⟩ := ok
    obtain ⟨fenced, attempt, fresh, rfl⟩ := issueDispatch_ok effect _ _ _ dispatch claims issued
    exact ⟨_, .dispatched active effect effectActive live dispatch (.inr (.inr phase))
      (hasStart_eq_false_iff effect attempted) fenced attempt fresh _ rfl .active .running, .refl _⟩
  · simp only [steps_ok] at ok
    obtain ⟨_, rfl⟩ := ok
    exact ⟨_, .settled active effect effectActive (by rw [phase]; decide) _ _ rfl .active .running, .refl _⟩

theorem requestAbort_refines (command : RequestAbortCommand)
    (ok : requestAbort codec state command context = .ok transition) :
    Refines codec state context (verificationTime context command.transactionTime) none transition := by
  simp only [requestAbort, steps_ok, requireActiveTurn_ok_iff] at ok
  obtain ⟨active, ⟨present, _⟩, _, _, ok⟩ := ok
  split at ok
  · next idle =>
      obtain rfl := (pure_ok ..).mp ok
      exact ⟨_, .abortedAtOnce active present command.reason idle, .refl _⟩
  · next effectId pending =>
      obtain rfl := (pure_ok ..).mp ok
      exact ⟨_, .abortRequested active present command.reason (by simp [pending]), .refl _⟩

theorem finalizeAbort_refines (command : FinalizeAbortCommand)
    (ok : finalizeAbort state command context = .ok transition) :
    Refines codec state context (verificationTime context command.transactionTime) none transition := by
  simp only [finalizeAbort, steps_ok, requireActiveTurn_ok_iff, sessionErrorIf_ok, Bool.not_eq_false] at ok
  obtain ⟨active, ⟨present, _⟩, requested, _, _, consumed, consume, rfl⟩ := ok
  obtain ⟨effectId, consumption⟩ := consumeByAbort_consumption active consumed present consume
  exact ⟨_, .abortFinalized active present requested consumed effectId consumption, .refl _⟩

theorem rotateTurnLease_refines (command : RotateTurnLeaseCommand)
    (ok : rotateTurnLease state command context = .ok transition) :
    Refines codec state context clock none transition := by
  simp only [rotateTurnLease, steps_ok, requireActiveTurn_ok_iff, sessionErrorIf_ok] at ok
  obtain ⟨active, ⟨present, _⟩, _, _, generation, _, _, rfl⟩ := ok
  rw [generation]
  exact ⟨_, .leaseRotated active present command.nextLeaseExpiresAt, .refl _⟩

theorem rotateGenerations_refines (command : RotateGenerationsCommand)
    (ok : rotateGenerations state command = .ok transition) :
    Refines codec state context clock none transition := by
  simp only [rotateGenerations, steps_ok, validatedInteger_ok_iff, sessionErrorIf_ok] at ok
  obtain ⟨placement, sandbox, authorization, _, changed, rfl⟩ := ok
  exact ⟨_, .generationsRotated _ _ _ command.nextEmergencyOverlayDigest placement.1 sandbox.1 authorization.1
    changed, .refl _⟩

theorem stageRuntimeRevision_refines (command : StageRuntimeRevisionCommand)
    (ok : stageRuntimeRevision state command = .ok transition) :
    Refines codec state context clock none transition := by
  simp only [stageRuntimeRevision, steps_ok] at ok
  obtain ⟨_, _, rfl⟩ := ok
  exact ⟨_, .runtime _ _ state.runtimeRevisionDigest (.staged _), .refl _⟩

theorem discardRuntimeCandidate_refines (command : DiscardRuntimeCandidateCommand)
    (ok : discardRuntimeCandidate state command = .ok transition) :
    Refines codec state context clock none transition := by
  simp only [discardRuntimeCandidate, steps_ok] at ok
  obtain ⟨_, rfl⟩ := ok
  exact ⟨_, .runtime _ _ state.runtimeRevisionDigest (.discarded _ _), .refl _⟩

theorem assertDrained_ok (operation : String) (ok : assertDrained state operation = .ok ()) :
    state.activeTurn = none ∧ state.queuedTurns = [] := by
  simp only [assertDrained, steps_ok, sessionErrorIf_ok, not_or] at ok
  exact ok.1

theorem activateRuntimeRevision_refines (command : ActivateRuntimeRevisionCommand)
    (ok : activateRuntimeRevision state command = .ok transition) :
    Refines codec state context clock none transition := by
  simp only [activateRuntimeRevision, steps_ok] at ok
  obtain ⟨_, _, drained, rfl⟩ := ok
  exact ⟨_, .runtime _ _ command.expectedCandidateRevision (.activated _ _ _ (assertDrained_ok _ drained)), .refl _⟩

theorem rollbackRuntimeRevision_refines (command : RollbackRuntimeRevisionCommand)
    (ok : rollbackRuntimeRevision state command = .ok transition) :
    Refines codec state context clock none transition := by
  simp only [rollbackRuntimeRevision, steps_ok, sessionErrorIf_ok, not_or] at ok
  obtain ⟨_, ⟨active, _⟩, _, drained, rfl⟩ := ok
  rw [← active]
  exact ⟨_, .runtime _ _ command.expectedPreviousRevision (.rolledBack _ _ (assertDrained_ok _ drained)), .refl _⟩

/-- Every core command makes one of the changes. -/
theorem coreTransition_refines (command : CoreCommand) (valid : ValidEffects state)
    (ok : coreTransition codec state command context = .ok transition) :
    Refines codec state context (command.leaseTime context) command.submitted? transition := by
  cases command with
  | enqueueTurn command => exact enqueueTurn_refines command ok
  | commitEngineStep command => exact commitEngineStep_refines command ok
  | dispatchEffect command => exact dispatchEffect_refines command valid ok
  | claimDispatchStart command => exact claimDispatchStart_refines command ok
  | recordExternalCommit command => exact recordExternalCommit_refines command ok
  | settleEffect command => exact settleEffect_refines command ok
  | recoverEffect command => exact recoverEffect_refines command ok
  | resolveConfirmation command => exact resolveConfirmation_refines command ok
  | requestAbort command => exact requestAbort_refines command ok
  | finalizeAbort command => exact finalizeAbort_refines command ok
  | rotateTurnLease command => exact rotateTurnLease_refines command ok
  | rotateGenerations command => exact rotateGenerations_refines command ok
  | stageRuntimeRevision command => exact stageRuntimeRevision_refines command ok
  | discardRuntimeCandidate command => exact discardRuntimeCandidate_refines command ok
  | activateRuntimeRevision command => exact activateRuntimeRevision_refines command ok
  | rollbackRuntimeRevision command => exact rollbackRuntimeRevision_refines command ok

end Refinement

end Circulusd.Session
