import Circulusd.Mcp.Machine

/-
What an accepted event does to an effect, in one inversion for the whole machine.
-/

namespace Circulusd.Mcp

open Checked Effect Event Platform Transition List

variable {gateway : Gateway} {effect next : Effect} {event : Event} {attempt : AttemptRecord} {transition : Transition}
variable {failure : FailureClass} {reason : String}

theorem Effect.attempts_of_current (current : effect.currentAttempt = some attempt) :
    effect.attempts = effect.attempts.dropLast ++ [attempt] := by
  obtain ⟨earlier, split⟩ := getLast?_eq_some_iff.mp current
  rw [split, dropLast_concat]

@[simp]
theorem Effect.currentAttempt_withAttempt (effect : Effect) (attempt : AttemptRecord) :
    (effect.withAttempt attempt).currentAttempt = some attempt := by
  simp [withAttempt, currentAttempt]

@[simp]
theorem Effect.dropLast_withAttempt (effect : Effect) (attempt : AttemptRecord) :
    (effect.withAttempt attempt).attempts.dropLast = effect.attempts.dropLast := by
  simp [withAttempt]

/-- An absent or unknown outcome that the replay policy of the effect decides. -/
structure Effect.Undecided (effect : Effect) (attempt : AttemptRecord) (failure : FailureClass) : Prop where
  state : effect.state.unresolvable = true
  unrequested : effect.cancellationRequested = false
  evidence : failure = .ledgerAbsent ∧ ¬ (effect.state = .failed ∧ attempt.failure = .unknown) ∨
    failure = .unknown ∧ (attempt.hadOutput = true → effect.supportsInvocationLedger = true)

theorem Effect.Undecided.not_streamed (undecided : effect.Undecided attempt failure) :
    ¬ (failure = .unknown ∧ attempt.hadOutput = true ∧ ¬ effect.supportsInvocationLedger = true) := by
  rintro ⟨rfl, streamed, unledgered⟩
  rcases undecided.evidence with ⟨absent, -⟩ | ⟨-, ledgered⟩
  · simp at absent
  · exact unledgered (ledgered streamed)

/-- The moves of `applyFailure`, one constructor for each branch. -/
inductive Classified (effect : Effect) (attempt : AttemptRecord) (reason : String) : FailureClass → Effect → Prop where
  | notSent (state : effect.state = .dispatching) (unidentified : attempt.providerRequestId = "")
      (silent : attempt.hadOutput = false) :
      Classified effect attempt reason .definitelyNotSent
        ((effect.classified attempt .definitelyNotSent reason).retryOr .failed)
  | rejected (state : effect.state = .dispatching ∨ effect.state = .dispatched) (silent : attempt.hadOutput = false) :
      Classified effect attempt reason .rejected ((effect.classified attempt .rejected reason).moveTo .failed)
  | absentRequested (state : effect.state.unresolvable = true) (requested : effect.cancellationRequested = true) :
      Classified effect attempt reason .ledgerAbsent
        { effect.classified attempt .ledgerAbsent reason with state := .cancelled, failureReason := "" }
  | unknownRequested (state : effect.state.unresolvable = true) (requested : effect.cancellationRequested = true) :
      Classified effect attempt reason .unknown (effect.classified attempt .unknown reason).held
  | absentFailed (state : effect.state = .failed) (unknown : attempt.failure = .unknown)
      (unrequested : effect.cancellationRequested = false) :
      Classified effect attempt reason .ledgerAbsent ((effect.classified attempt .ledgerAbsent reason).moveTo .failed)
  | unknownStreamed (state : effect.state.unresolvable = true)
      (unrequested : effect.cancellationRequested = false) (streamed : attempt.hadOutput = true)
      (unledgered : effect.supportsInvocationLedger = false) :
      Classified effect attempt reason .unknown (effect.classified attempt .unknown reason).held
  | replayable {failure : FailureClass} (undecided : effect.Undecided attempt failure)
      (policy : effect.replayPolicy = .safe ∨
        effect.replayPolicy = .idempotencyKey ∧ effect.supportsIdempotencyKey = true) :
      Classified effect attempt reason failure ((effect.classified attempt failure reason).retryOr
          (if failure = .ledgerAbsent ∨ effect.replayPolicy = .safe then .failed else .uncertain))
  | unreplayable {failure : FailureClass} (undecided : effect.Undecided attempt failure)
      (policy : effect.replayPolicy = .never) :
      Classified effect attempt reason failure ((effect.classified attempt failure reason).moveTo
          (if failure = .ledgerAbsent then .failed else .uncertain))
  | confirmable {failure : FailureClass} (undecided : effect.Undecided attempt failure)
      (policy : effect.replayPolicy = .confirm) :
      Classified effect attempt reason failure ((effect.classified attempt failure reason).moveTo .needsConfirmation)

theorem Effect.applyUnresolved_classified (outcome : failure = .ledgerAbsent ∨ failure = .unknown)
    (ok : effect.applyUnresolved attempt failure reason = .ok next) :
    Classified effect attempt reason failure next := by
  simp only [applyUnresolved, steps_ok, Bool.not_eq_false] at ok
  obtain ⟨state, ok⟩ := ok
  by_cases requested : effect.cancellationRequested = true
  · rw [if_pos requested] at ok
    rcases outcome with rfl | rfl
    · simp only [if_true, pure_ok] at ok
      exact ok ▸ .absentRequested state requested
    · simp only [reduceCtorEq, if_false, pure_ok] at ok
      exact ok ▸ .unknownRequested state requested
  have unrequested : effect.cancellationRequested = false := by simpa using requested
  rw [if_neg requested] at ok
  by_cases final : failure = .ledgerAbsent ∧ effect.state = .failed ∧ attempt.failure = .unknown
  · rw [if_pos final, pure_ok] at ok
    obtain ⟨rfl, failed, unknown⟩ := final
    exact ok ▸ .absentFailed failed unknown unrequested
  rw [if_neg final] at ok
  by_cases streamed : failure = .unknown ∧ attempt.hadOutput = true ∧ ¬ effect.supportsInvocationLedger = true
  · rw [if_pos streamed, pure_ok] at ok
    obtain ⟨rfl, output, unledgered⟩ := streamed
    exact ok ▸ .unknownStreamed state unrequested output (by simpa using unledgered)
  rw [if_neg streamed] at ok
  have undecided : effect.Undecided attempt failure := by
    refine ⟨state, unrequested, ?_⟩
    rcases outcome with rfl | rfl
    · exact .inl ⟨rfl, fun failed => final ⟨rfl, failed⟩⟩
    · exact .inr ⟨rfl, fun output => by_contra fun unledgered => streamed ⟨rfl, output, unledgered⟩⟩
  cases policy : effect.replayPolicy with
  | other text => simp [policy] at ok
  | safe =>
    simp only [policy, pure_ok] at ok
    have replayed : Classified effect attempt reason failure _ := .replayable undecided (.inl policy)
    simpa [policy, ok] using replayed
  | idempotencyKey =>
    simp only [policy, steps_ok, Bool.not_eq_false] at ok
    have replayed : Classified effect attempt reason failure _ :=
      .replayable undecided (.inr ⟨policy, ok.1⟩)
    simpa [policy, ok.2] using replayed
  | never =>
    simp only [policy, pure_ok] at ok
    exact ok ▸ .unreplayable undecided policy
  | confirm =>
    simp only [policy, pure_ok] at ok
    exact ok ▸ .confirmable undecided policy

theorem Effect.applyFailure_classified (ok : effect.applyFailure failure reason = .ok next) :
    ∃ attempt, effect.currentAttempt = some attempt ∧ Classified effect attempt reason failure next := by
  simp only [applyFailure, steps_ok] at ok
  obtain ⟨attempt, current, ok⟩ := ok
  refine ⟨attempt, current, ?_⟩
  cases failure with
  | none | externalFailed | other => simp at ok
  | definitelyNotSent =>
    simp only [steps_ok, not_or, Bool.not_eq_true] at ok
    obtain ⟨⟨state, unidentified, silent⟩, rfl⟩ := ok
    exact .notSent state unidentified silent
  | rejected =>
    simp only [steps_ok, not_or, not_and_or, Bool.not_eq_true] at ok
    obtain ⟨⟨state, silent⟩, rfl⟩ := ok
    exact .rejected state silent
  | ledgerAbsent => exact applyUnresolved_classified (.inl rfl) ok
  | unknown => exact applyUnresolved_classified (.inr rfl) ok

/-- The class and the reason that an event gives to `applyFailure`. -/
def Event.classification (event : Event) : Option (FailureClass × String) :=
  match event.kind with
  | .dispatchFailed => some (event.failure, event.reason)
  | .recoveryObserved =>
    match event.ledger.status with
    | .absent => some (.ledgerAbsent, ledgerAbsentReason)
    | .unknown => some (.unknown, ledgerUnknownReason)
    | _ => none
  | _ => none

theorem Event.classification_cases (verdict : event.classification = some (failure, reason)) :
    event.kind = .dispatchFailed ∧ event.failure = failure ∧ event.reason = reason ∨ event.kind = .recoveryObserved ∧
        (event.ledger.status = .absent ∧ failure = .ledgerAbsent ∧ reason = ledgerAbsentReason ∨
          event.ledger.status = .unknown ∧ failure = .unknown ∧ reason = ledgerUnknownReason) := by
  unfold classification at verdict
  split at verdict
  · next kind =>
      obtain ⟨rfl, rfl⟩ := Prod.mk.inj (Option.some.inj verdict)
      exact .inl ⟨kind, rfl, rfl⟩
  · next kind =>
      refine .inr ⟨kind, ?_⟩
      split at verdict
      · next status =>
          obtain ⟨rfl, rfl⟩ := Prod.mk.inj (Option.some.inj verdict)
          exact .inl ⟨status, rfl, rfl⟩
      · next status =>
          obtain ⟨rfl, rfl⟩ := Prod.mk.inj (Option.some.inj verdict)
          exact .inr ⟨status, rfl, rfl⟩
      · cases verdict
  · cases verdict

/-- An event that carries a committed ledger record: a late answer to a cancellation or a recovery. -/
def Event.Commits (event : Event) (effect : Effect) : Prop :=
  event.kind = .cancellationResolved ∧ event.cancellation = .committed ∧ effect.state = .cancellationPending ∨
    event.kind = .recoveryObserved ∧ effect.observable = true

/-- The provider request id that an attempt has after a ledger record reported one. -/
def AttemptRecord.learn (attempt : AttemptRecord) (record : LedgerRecord) : AttemptRecord :=
  { attempt with providerRequestId :=
      if attempt.providerRequestId = "" then record.providerRequestId else attempt.providerRequestId }

/-- A record names no other provider request than the attempt. -/
def AttemptRecord.Agrees (attempt : AttemptRecord) (record : LedgerRecord) : Prop :=
  record.providerRequestId = "" ∨ attempt.providerRequestId = "" ∨ attempt.providerRequestId = record.providerRequestId

/-- The states in which a cancellation goes to the provider. -/
def Effect.Cancellable (effect : Effect) : Prop :=
  effect.state = .dispatching ∨ effect.state = .dispatched ∨ effect.state = .streaming ∨
    effect.state = .uncertain ∨ effect.state = .needsConfirmation ∨
    (∃ attempt, effect.currentAttempt = some attempt ∧ effect.state = .retryPending ∧
      attempt.failure ≠ .definitelyNotSent ∧ attempt.failure ≠ .ledgerAbsent) ∨
    ∃ attempt, effect.currentAttempt = some attempt ∧ effect.state = .failed ∧ attempt.failure = .unknown

/-- The moves of the machine, one constructor for each branch. -/
inductive Moved (gateway : Gateway) (effect : Effect) (event : Event) : Transition → Prop where
  | dispatched (kind : event.kind = .beginDispatch) (state : effect.state = .admitted ∨ effect.state = .retryPending)
      (unrequested : effect.cancellationRequested = false)
      (room : effect.attempts.length < effect.allowedAttempts) :
      Moved gateway effect event
        { effect := { effect with
            attempts := effect.attempts ++ [.fresh (effect.attempts.length + 1)]
            state := .dispatching, failureReason := "" }
          dispatch := some (effect.dispatchCommand (effect.attempts.length + 1)), cancel := none }
  | negotiated {attempt : AttemptRecord} (kind : event.kind = .negotiationRecorded)
      (current : effect.currentAttempt = some attempt) (state : effect.state = .dispatching)
      (first : attempt.negotiation = .zero)
      (valid : ValidNegotiationReceipt event.negotiation effect.toEffectIdentity attempt.attempt) :
      Moved gateway effect event (.quiet (effect.withAttempt { attempt with negotiation := event.negotiation }))
  | accepted {attempt : AttemptRecord} (kind : event.kind = .providerAccepted)
      (current : effect.currentAttempt = some attempt) (state : effect.state = .dispatching)
      (valid : ValidNegotiationReceipt attempt.negotiation effect.toEffectIdentity attempt.attempt) :
      Moved gateway effect event
        (.quiet { effect.withAttempt { attempt with providerRequestId := event.providerRequestId } with
          state := .dispatched })
  | streamed {attempt : AttemptRecord} (kind : event.kind = .outputChunk)
      (current : effect.currentAttempt = some attempt)
      (state : effect.state = .dispatched ∨ effect.state = .streaming)
      (bytes : event.chunk.length ≤ gateway.bounds.maxOutputBytes - effect.streamBytes)
      (count : effect.chunkCount < gateway.bounds.maxChunks) :
      Moved gateway effect event
        (.quiet { effect.withAttempt { attempt with hadOutput := true } with
          chunkCount := effect.chunkCount + 1
          streamBytes := effect.streamBytes + event.chunk.length
          state := .streaming })
  | committed {attempt : AttemptRecord} (kind : event.kind = .callCommitted)
      (current : effect.currentAttempt = some attempt)
      (state : effect.state ∈ [State.dispatched, State.streaming, State.cancellationPending,
        State.uncertain, State.needsConfirmation, State.failed])
      (late : effect.state = .failed → attempt.failure = .unknown)
      (identified : ¬ (attempt.providerRequestId = "" ∧ event.externalCommitId = "")) :
      Moved gateway effect event
        (.quiet { effect with
          output := event.output, externalCommitId := event.externalCommitId, failureReason := ""
          state := .externallyCommitted })
  | settled (kind : event.kind = .settlementCompleted) (state : effect.state = .externallyCommitted)
      (output : effect.output ≠ []) :
      Moved gateway effect event (.quiet { effect with state := .completed })
  | classified {attempt : AttemptRecord} {failure : FailureClass} {reason : String} {next : Effect}
      (verdict : event.classification = some (failure, reason))
      (observable : event.kind = .recoveryObserved → effect.observable = true)
      (current : effect.currentAttempt = some attempt)
      (outcome : Classified effect attempt reason failure next) :
      Moved gateway effect event (.quiet next)
  | cancelledAtOnce (kind : event.kind = .cancelRequested) (unsent : effect.state = .admitted ∨
        effect.state = .retryPending ∧ ∃ attempt, effect.currentAttempt = some attempt ∧
          (attempt.failure = .definitelyNotSent ∨ attempt.failure = .ledgerAbsent)) :
      Moved gateway effect event
        (.quiet { effect with cancellationRequested := true, state := .cancelled, failureReason := "" })
  | cancelSent (kind : event.kind = .cancelRequested) (state : effect.Cancellable) : Moved gateway effect event
        { effect := { effect with cancellationRequested := true, state := .cancellationPending }
          dispatch := none
          cancel := some (effect.cancelCommand effect.latestAttempt) }
  | cancelConfirmed {attempt : AttemptRecord} (kind : event.kind = .cancellationResolved)
      (current : effect.currentAttempt = some attempt) (state : effect.state = .cancellationPending)
      (answer : event.cancellation = .absent ∨ event.cancellation = .prevented ∧
        attempt.providerRequestId = "" ∧ attempt.hadOutput = false) :
      Moved gateway effect event (.quiet { effect with state := .cancelled, failureReason := "" })
  | cancelUnknown {attempt : AttemptRecord} (kind : event.kind = .cancellationResolved)
      (current : effect.currentAttempt = some attempt) (state : effect.state = .cancellationPending)
      (answer : event.cancellation = .unknown) :
      Moved gateway effect event (.quiet (effect.classified attempt .unknown cancellationUnknownReason).held)
  | recordCommitted {attempt : AttemptRecord} (commits : event.Commits effect)
      (current : effect.currentAttempt = some attempt)
      (valid : gateway.ValidLedgerRecord event.ledger false) (status : event.ledger.status = .committed)
      (agrees : attempt.Agrees event.ledger) :
      Moved gateway effect event
        (.quiet { effect.withAttempt (attempt.learn event.ledger) with
          output := event.ledger.output, externalCommitId := event.ledger.externalCommitId
          failureReason := "", state := .externallyCommitted })
  | resumed {attempt : AttemptRecord} (kind : event.kind = .recoveryObserved)
      (status : event.ledger.status = .inflight) (observable : effect.observable = true)
      (current : effect.currentAttempt = some attempt)
      (state : effect.state = .dispatching ∨ effect.state = .uncertain ∨
        effect.state = .needsConfirmation ∨ effect.state = .failed)
      (named : event.ledger.providerRequestId ≠ "") (agrees : attempt.Agrees event.ledger) :
      Moved gateway effect event
        (.quiet (effect.resume { attempt with providerRequestId := event.ledger.providerRequestId }))
  | identified {attempt : AttemptRecord} (kind : event.kind = .recoveryObserved)
      (status : event.ledger.status = .inflight)
      (current : effect.currentAttempt = some attempt)
      (state : effect.state = .dispatched ∨ effect.state = .streaming ∨ effect.state = .cancellationPending)
      (named : event.ledger.providerRequestId ≠ "") (agrees : attempt.Agrees event.ledger) :
      Moved gateway effect event
        (.quiet (effect.withAttempt { attempt with providerRequestId := event.ledger.providerRequestId }))
  | failedExternally {attempt : AttemptRecord} (kind : event.kind = .recoveryObserved)
      (status : event.ledger.status = .failed) (observable : effect.observable = true)
      (current : effect.currentAttempt = some attempt) (agrees : attempt.Agrees event.ledger) :
      Moved gateway effect event
        (.quiet { effect.withAttempt { attempt.learn event.ledger with failure := .externalFailed } with
          state := .failed, failureReason := externalFailedReason })
  | confirmed (kind : event.kind = .confirmationDecided) (decision : event.decision = .retry)
      (state : effect.state = .needsConfirmation) (policy : effect.replayPolicy = .confirm)
      (room : effect.confirmationRetriesUsed < effect.maxConfirmationRetries) :
      Moved gateway effect event
        (.quiet { effect with
          confirmationRetriesUsed := effect.confirmationRetriesUsed + 1
          cancellationRequested := false, state := .retryPending
          failureReason := confirmationRetryReason })
  | abandoned (kind : event.kind = .confirmationDecided) (decision : event.decision = .abandon)
      (state : effect.state = .needsConfirmation) (policy : effect.replayPolicy = .confirm) :
      Moved gateway effect event
        (.quiet { effect with
          state := if effect.cancellationRequested then .uncertain else .failed
          failureReason := if effect.cancellationRequested then confirmationAbandonUnknownReason
            else confirmationDeclinedReason })

section Inversion

theorem Effect.beginDispatch_moved (kind : event.kind = .beginDispatch)
    (ok : effect.beginDispatch = .ok transition) : Moved gateway effect event transition := by
  simp only [beginDispatch, steps_ok, not_or, not_and_or, Bool.not_eq_true, not_le] at ok
  obtain ⟨⟨state, unrequested⟩, room, rfl⟩ := ok
  exact .dispatched kind state unrequested room

theorem Effect.recordNegotiation_moved (kind : event.kind = .negotiationRecorded)
    (ok : effect.recordNegotiation event = .ok next) :
    Moved gateway effect event (.quiet next) := by
  simp only [recordNegotiation, steps_ok] at ok
  obtain ⟨attempt, current, ⟨state, -, -, -, first, valid⟩, rfl⟩ := ok
  exact .negotiated kind current state first valid

theorem Effect.acceptProvider_moved (kind : event.kind = .providerAccepted)
    (ok : effect.acceptProvider event = .ok next) :
    Moved gateway effect event (.quiet next) := by
  simp only [acceptProvider, steps_ok] at ok
  obtain ⟨attempt, current, ⟨state, -, -, -, valid⟩, rfl⟩ := ok
  exact .accepted kind current state valid

theorem Gateway.appendChunk_moved (kind : event.kind = .outputChunk)
    (ok : gateway.appendChunk effect event = .ok next) :
    Moved gateway effect event (.quiet next) := by
  simp only [appendChunk, steps_ok, not_or, not_lt, not_le] at ok
  obtain ⟨attempt, current, ⟨state, -⟩, ⟨bytes, count⟩, rfl⟩ := ok
  exact .streamed kind current state bytes count

theorem Effect.commitCall_moved (kind : event.kind = .callCommitted)
    (ok : effect.commitCall event = .ok next) : Moved gateway effect event (.quiet next) := by
  simp only [commitCall, steps_ok] at ok
  obtain ⟨state, attempt, current, late, identified, rfl⟩ := ok
  exact .committed kind current state (fun failed => by_contra fun known => late ⟨failed, known⟩) identified

theorem Effect.completeSettlement_moved (kind : event.kind = .settlementCompleted)
    (ok : effect.completeSettlement = .ok next) : Moved gateway effect event (.quiet next) := by
  simp only [completeSettlement, steps_ok, not_or] at ok
  obtain ⟨⟨state, output⟩, rfl⟩ := ok
  exact .settled kind state output

theorem Effect.latestAttempt_of_current (current : effect.currentAttempt = some attempt) :
    effect.latestAttempt = attempt := by
  simp [latestAttempt, current]

theorem Effect.requestCancel_moved (kind : event.kind = .cancelRequested)
    (ok : effect.requestCancel = .ok transition) : Moved gateway effect event transition := by
  unfold requestCancel at ok
  -- The states that send the command to the provider differ only in their guard.
  have sent (state : effect.Cancellable) {latest : AttemptRecord} (same : latest = effect.latestAttempt) :
      Moved gateway effect event
        { effect := { effect with cancellationRequested := true, state := .cancellationPending }
          dispatch := none, cancel := some (effect.cancelCommand latest) } :=
    same ▸ .cancelSent kind state
  cases state : effect.state with
  | cancellationPending | externallyCommitted | completed | cancelled | other =>
    simp [state] at ok
  | admitted =>
    simp only [state, pure_ok] at ok
    exact ok ▸ .cancelledAtOnce kind (.inl state)
  | dispatching | dispatched | streaming | uncertain | needsConfirmation =>
    simp only [state, pure_ok] at ok
    exact ok ▸ sent (by simp [Cancellable, state]) rfl
  | retryPending =>
    simp only [state, steps_ok] at ok
    obtain ⟨attempt, current, ok⟩ := ok
    split at ok
    next unsent =>
      rw [pure_ok] at ok
      exact ok ▸ .cancelledAtOnce kind (.inr ⟨state, attempt, current, unsent⟩)
    next possiblySent =>
      rw [pure_ok] at ok
      have cancellable : effect.Cancellable := by
        simp [Cancellable, state, current, not_or.mp possiblySent]
      exact ok ▸ sent cancellable (latestAttempt_of_current current).symm
  | failed =>
    simp only [state, steps_ok] at ok
    obtain ⟨attempt, current, unknown, rfl⟩ := ok
    have cancellable : effect.Cancellable := by simp [Cancellable, state, current, unknown]
    exact sent cancellable (latestAttempt_of_current current).symm

theorem agrees_of_not {attempt : AttemptRecord} {record : LedgerRecord}
    (checked : ¬ (record.providerRequestId ≠ "" ∧ attempt.providerRequestId ≠ "" ∧
      attempt.providerRequestId ≠ record.providerRequestId)) : attempt.Agrees record := by
  unfold AttemptRecord.Agrees
  tauto

theorem Gateway.applyCommittedRecord_moved (commits : event.Commits effect)
    (ok : gateway.applyCommittedRecord effect event.ledger = .ok next) :
    Moved gateway effect event (.quiet next) := by
  simp only [applyCommittedRecord, bind_ok, exists_unit, require_ok, refuseIf_ok, pure_ok] at ok
  obtain ⟨matched, attempt, current, same, rfl⟩ := ok
  obtain ⟨valid, -, -, status⟩ := not_not.mp matched
  exact .recordCommitted commits current valid status (agrees_of_not same)

theorem Gateway.resolveCancellation_moved (kind : event.kind = .cancellationResolved)
    (status : event.cancellation = .prevented ∨ event.cancellation = .absent ∨
      event.cancellation = .committed ∨ event.cancellation = .unknown)
    (ok : gateway.resolveCancellation effect event = .ok next) :
    Moved gateway effect event (.quiet next) := by
  simp only [resolveCancellation, steps_ok] at ok
  obtain ⟨state, attempt, current, ok⟩ := ok
  rcases status with answer | answer | answer | answer
  · simp only [answer, steps_ok, not_or, Bool.not_eq_true] at ok
    obtain ⟨⟨unidentified, silent⟩, rfl⟩ := ok
    exact .cancelConfirmed kind current state (.inr ⟨answer, unidentified, silent⟩)
  · simp only [answer, pure_ok] at ok
    exact ok ▸ .cancelConfirmed kind current state (.inl answer)
  · simp only [answer] at ok
    exact gateway.applyCommittedRecord_moved (.inl ⟨kind, answer, state⟩) ok
  · simp only [answer, pure_ok] at ok
    exact ok ▸ .cancelUnknown kind current state answer

theorem Effect.observeInflight_moved (kind : event.kind = .recoveryObserved)
    (status : event.ledger.status = .inflight) (observable : effect.observable = true)
    (ok : effect.observeInflight event.ledger = .ok next) :
    Moved gateway effect event (.quiet next) := by
  simp only [observeInflight, steps_ok, not_or] at ok
  obtain ⟨attempt, current, ⟨named, same⟩, ok⟩ := ok
  have agrees : attempt.Agrees event.ledger := agrees_of_not fun differ => same differ.2
  cases state : effect.state with
  | dispatching | uncertain | needsConfirmation | failed =>
    simp only [state, pure_ok] at ok
    exact ok ▸ .resumed kind status observable current (by simp [state]) named agrees
  | dispatched | streaming | cancellationPending =>
    simp only [state, pure_ok] at ok
    exact ok ▸ .identified kind status current (by simp [state]) named agrees
  | _ =>
    simp [state, Effect.observable] at observable

theorem Effect.observeFailed_moved (kind : event.kind = .recoveryObserved)
    (status : event.ledger.status = .failed) (observable : effect.observable = true)
    (ok : effect.observeFailed event.ledger = .ok next) :
    Moved gateway effect event (.quiet next) := by
  simp only [observeFailed, steps_ok] at ok
  obtain ⟨attempt, current, same, rfl⟩ := ok
  exact .failedExternally kind status observable current (agrees_of_not same)

theorem Gateway.observeRecovery_moved (kind : event.kind = .recoveryObserved)
    (ok : gateway.observeRecovery effect event.ledger = .ok next) :
    Moved gateway effect event (.quiet next) := by
  simp only [observeRecovery, steps_ok, Bool.not_eq_false] at ok
  obtain ⟨observable, -, ok⟩ := ok
  cases status : event.ledger.status with
  | none | other => simp [status] at ok
  | inflight =>
    simp only [status] at ok
    exact effect.observeInflight_moved kind status observable ok
  | committed =>
    simp only [status] at ok
    exact gateway.applyCommittedRecord_moved (.inr ⟨kind, observable⟩) ok
  | failed =>
    simp only [status] at ok
    exact effect.observeFailed_moved kind status observable ok
  | absent | unknown =>
    simp only [status] at ok
    obtain ⟨attempt, current, outcome⟩ := effect.applyFailure_classified ok
    exact .classified (by simp [classification, kind, status]) (fun _ => observable) current outcome

theorem Effect.decideConfirmation_moved (kind : event.kind = .confirmationDecided)
    (decided : event.decision = .retry ∨ event.decision = .abandon)
    (ok : effect.decideConfirmation event.decision = .ok next) :
    Moved gateway effect event (.quiet next) := by
  simp only [decideConfirmation, steps_ok, not_or] at ok
  obtain ⟨⟨state, policy⟩, ok⟩ := ok
  rcases decided with decision | decision
  · simp only [decision, steps_ok, not_le] at ok
    obtain ⟨room, rfl⟩ := ok
    exact .confirmed kind decision state policy room
  · have abandoned : Moved gateway effect event _ := .abandoned kind decision state policy
    cases requested : effect.cancellationRequested <;>
      simp only [decision, requested, if_true, Bool.false_eq_true, if_false, pure_ok] at ok <;>
      simpa [requested, ← ok] using abandoned

end Inversion

/-- The reason that the machine itself writes for an event. -/
def Event.recordedReason (event : Event) (effect : Effect) : String :=
  match event.kind with
  | .cancellationResolved =>
    if event.cancellation = .unknown then cancellationUnknownReason else ""
  | .recoveryObserved =>
    match event.ledger.status with
    | .failed => externalFailedReason
    | .absent => ledgerAbsentReason
    | .unknown => ledgerUnknownReason
    | _ => ""
  | .confirmationDecided =>
    if event.decision = .retry then confirmationRetryReason
    else if effect.cancellationRequested then confirmationAbandonUnknownReason
    else confirmationDeclinedReason
  | _ => ""

/-- The bytes of everything that an event carries, with the reason that it makes the machine write. -/
def Event.size (event : Event) (effect : Effect) : Nat :=
  event.providerRequestId.utf8ByteSize + event.chunk.length + event.output.length +
    event.externalCommitId.utf8ByteSize + event.reason.utf8ByteSize + ledgerEventBytes event.ledger +
    negotiationEventBytes event.negotiation + (event.recordedReason effect).utf8ByteSize

@[simp]
theorem negotiationEventBytes_zero : negotiationEventBytes .zero = 0 := by
  simp [negotiationEventBytes]

@[simp]
theorem ledgerEventBytes_zero : ledgerEventBytes .zero = 0 := rfl

/-- What an accepted event of each kind carries. -/
structure Gateway.ValidEvent (gateway : Gateway) (event : Event) : Prop where
  providerRequestId : event.kind = .providerAccepted →
    ValidBoundedText event.providerRequestId gateway.bounds.maxProviderRequestIdBytes
  chunk : event.kind = .outputChunk → event.chunk ≠ []
  output : event.kind = .callCommitted → event.output ≠ [] ∧ event.output.length ≤ gateway.bounds.maxOutputBytes ∧
      OptionalText event.externalCommitId gateway.bounds.maxExternalCommitIdBytes
  failure : event.kind = .dispatchFailed →
    event = { event.bare with failure := event.failure, reason := event.reason } ∧
      ValidBoundedText event.reason gateway.bounds.maxFailureBytes
  cancellation : event.kind = .cancellationResolved → event.cancellation = .prevented ∨ event.cancellation = .absent ∨
      event.cancellation = .committed ∨ event.cancellation = .unknown
  ledger : event.kind = .recoveryObserved → gateway.ValidLedgerRecord event.ledger true
  decision : event.kind = .confirmationDecided → event.decision = .retry ∨ event.decision = .abandon
  known (text : String) : event.kind ≠ .other text

theorem Gateway.validateEvent_valid {eventBytes : Nat} (ok : gateway.validateEvent effect event = .ok eventBytes) :
    gateway.ValidEvent event ∧ eventBytes = event.size effect := by
  unfold validateEvent at ok
  cases kind : event.kind with
    simp only [kind, steps_ok, not_lt] at ok
  | other => simp at ok
  | beginDispatch | settlementCompleted | cancelRequested =>
    obtain ⟨only, rfl⟩ := ok
    refine ⟨by constructor <;> simp [kind], ?_⟩
    simp only [size, recordedReason, kind]
    rw [only]
    rfl
  | providerAccepted =>
    obtain ⟨⟨only, valid⟩, rfl⟩ := ok
    refine ⟨by constructor <;> simp [kind, valid], ?_⟩
    simp only [size, recordedReason, kind]
    rw [only]
    simp [bare, plain]
  | outputChunk =>
    obtain ⟨-, ⟨only, present⟩, rfl⟩ := ok
    refine ⟨by constructor <;> simp [kind, present], ?_⟩
    simp only [size, recordedReason, kind]
    rw [only]
    simp [bare, plain]
  | callCommitted =>
    obtain ⟨bounded, ⟨only, present, named⟩, rfl⟩ := ok
    refine ⟨by constructor <;> simp [kind, present, bounded, named], ?_⟩
    simp only [size, recordedReason, kind]
    rw [only]
    simp [bare, plain]
  | dispatchFailed =>
    obtain ⟨-, ⟨only, reason⟩, rfl⟩ := ok
    refine ⟨by constructor <;> simp [kind, reason, ← only], ?_⟩
    simp only [size, recordedReason, kind]
    rw [only]
    simp [bare, plain]
  | negotiationRecorded =>
    obtain ⟨attempt, -, ⟨only, -, -⟩, rfl⟩ := ok
    refine ⟨by constructor <;> simp [kind], ?_⟩
    simp only [size, recordedReason, kind]
    rw [only]
    simp [bare, plain]
  | cancellationResolved =>
    obtain ⟨answer, only, rfl⟩ := ok
    have status : event.cancellation = .prevented ∨ event.cancellation = .absent ∨
        event.cancellation = .committed ∨ event.cancellation = .unknown := by
      cases given : event.cancellation <;> simp [validateCancellation, given] at answer ⊢
    refine ⟨by constructor <;> simp [kind, status], ?_⟩
    simp only [size, recordedReason, kind]
    rw [only]
    by_cases unknown : event.cancellation = .unknown <;> simp [bare, plain, unknown]
  | recoveryObserved =>
    obtain ⟨⟨only, -⟩, valid, rfl⟩ := ok
    refine ⟨by constructor <;> simp [kind, valid], ?_⟩
    simp only [size, recordedReason, kind]
    rw [only]
    cases event.ledger.status <;> simp [bare, plain]
  | confirmationDecided =>
    obtain ⟨decided, only, rfl⟩ := ok
    refine ⟨by constructor <;> simp [kind]; tauto, ?_⟩
    simp only [size, recordedReason, kind]
    rw [only]
    cases event.decision <;> cases effect.cancellationRequested <;> simp [bare, plain]

/-- The switch does only what one of the moves says. -/
theorem Gateway.move_moved (valid : gateway.ValidEvent event)
    (ok : gateway.move effect event = .ok transition) : Moved gateway effect event transition := by
  -- Most events only move the effect and issue no command.
  have quietly {moved : Except Refusal Effect} (ok : quiet <$> moved = .ok transition)
      (moves : ∀ {next}, moved = .ok next → Moved gateway effect event (.quiet next)) :
      Moved gateway effect event transition := by
    obtain ⟨next, moved, rfl⟩ := (map_ok_iff _ _ _).mp ok
    exact moves moved
  cases kind : event.kind with simp only [move, kind] at ok
  | other text => exact absurd kind (valid.known text)
  | beginDispatch => exact effect.beginDispatch_moved kind ok
  | cancelRequested => exact effect.requestCancel_moved kind ok
  | negotiationRecorded => exact quietly ok (effect.recordNegotiation_moved kind)
  | providerAccepted => exact quietly ok (effect.acceptProvider_moved kind)
  | outputChunk => exact quietly ok (gateway.appendChunk_moved kind)
  | callCommitted => exact quietly ok (effect.commitCall_moved kind)
  | settlementCompleted => exact quietly ok (effect.completeSettlement_moved kind)
  | dispatchFailed =>
    refine quietly ok fun moved => ?_
    obtain ⟨attempt, current, outcome⟩ := effect.applyFailure_classified moved
    exact .classified (by simp [classification, kind]) (by simp [kind]) current outcome
  | cancellationResolved =>
    exact quietly ok (gateway.resolveCancellation_moved kind (valid.cancellation kind))
  | recoveryObserved => exact quietly ok (gateway.observeRecovery_moved kind)
  | confirmationDecided =>
    exact quietly ok (effect.decideConfirmation_moved kind (valid.decision kind))

/-- An accepted event: the checks that it passed, its move, and the counters. -/
structure Applied (gateway : Gateway) (effect : Effect) (event : Event) (transition : Transition) : Prop where
  accepted : gateway.validateEffect effect = .ok ()
  checked : gateway.ValidEvent event
  revision : event.expectedRevision = effect.revision
  moved : ∃ moved, Moved gateway effect event moved ∧
    moved.effect.eventCount + 1 + moved.effect.minimumRemainingEvents ≤ gateway.bounds.maxEvents ∧
    transition = { moved with effect := moved.effect.counted (event.size effect) }

theorem Gateway.apply_applied (ok : gateway.apply effect event = .ok transition) :
    Applied gateway effect event transition := by
  simp only [apply, steps_ok, not_lt] at ok
  obtain ⟨validated, revision, -, eventBytes, checked, -, moved, move, reserve, rfl⟩ := ok
  obtain ⟨valid, rfl⟩ := gateway.validateEvent_valid checked
  exact ⟨validated, valid, revision, moved, gateway.move_moved valid move, reserve, rfl⟩

section Frame

variable {failure : FailureClass} {reason : String}

theorem Effect.retryOr_eq (effect : Effect) (exhausted : State) :
    effect.maxAutomaticRetries ≤ effect.automaticRetriesUsed ∧ effect.retryOr exhausted = effect.moveTo exhausted ∨
      effect.automaticRetriesUsed < effect.maxAutomaticRetries ∧
        effect.retryOr exhausted = effect.spendRetry.moveTo .retryPending := by
  unfold retryOr
  split
  next room => exact .inr ⟨room, rfl⟩
  next spent => exact .inl ⟨not_lt.mp spent, rfl⟩

theorem Effect.resume_state (effect : Effect) (attempt : AttemptRecord) :
    (effect.resume attempt).state = .cancellationPending ∨ (effect.resume attempt).state = .streaming ∨
      (effect.resume attempt).state = .dispatched := by
  simp only [resume]
  split
  · exact .inl rfl
  · split
    · exact .inr (.inl rfl)
    · exact .inr (.inr rfl)

theorem Effect.held_state (effect : Effect) :
    effect.held.state = .needsConfirmation ∨ effect.held.state = .uncertain := by
  simp only [held, moveTo]
  split
  · exact .inl rfl
  · exact .inr rfl

section

variable (outcome : Classified effect attempt reason failure next)
include outcome

/-- A classified effect is cancelled, waits for a retry or stops in another state. -/
theorem Classified.moves : (failure = .ledgerAbsent ∧ effect.cancellationRequested = true ∧
        next = { effect.classified attempt failure reason with state := .cancelled, failureReason := "" }) ∨
      (effect.automaticRetriesUsed < effect.maxAutomaticRetries ∧
        (failure = .definitelyNotSent ∨ effect.replayPolicy = .safe ∨ effect.replayPolicy = .idempotencyKey) ∧
        next = (effect.classified attempt failure reason).spendRetry.moveTo .retryPending) ∨
      ∃ state ∈ [State.failed, .uncertain, .needsConfirmation],
        next = (effect.classified attempt failure reason).moveTo state := by
  cases outcome with
  | absentRequested _ requested => exact .inl ⟨rfl, requested, rfl⟩
  | notSent =>
    rcases (effect.classified attempt .definitelyNotSent reason).retryOr_eq .failed with
      ⟨-, equal⟩ | ⟨room, equal⟩
    · exact .inr (.inr ⟨_, by simp, equal⟩)
    · exact .inr (.inl ⟨room, .inl rfl, equal⟩)
  | replayable undecided policy =>
    rcases (effect.classified attempt failure reason).retryOr_eq _ with ⟨-, equal⟩ | ⟨room, equal⟩
    · refine .inr (.inr ⟨_, ?_, equal⟩)
      split <;> simp
    · exact .inr (.inl ⟨room, .inr (policy.imp_right And.left), equal⟩)
  | unknownRequested | unknownStreamed | unreplayable =>
    refine .inr (.inr ⟨_, ?_, rfl⟩)
    split <;> simp
  | rejected | absentFailed | confirmable => exact .inr (.inr ⟨_, by simp, rfl⟩)

theorem Classified.classes :
    failure = .definitelyNotSent ∨ failure = .rejected ∨ failure = .ledgerAbsent ∨ failure = .unknown := by
  cases outcome with
  | notSent => exact .inl rfl
  | rejected => exact .inr (.inl rfl)
  | absentRequested | absentFailed => exact .inr (.inr (.inl rfl))
  | unknownRequested | unknownStreamed => exact .inr (.inr (.inr rfl))
  | replayable undecided | unreplayable undecided | confirmable undecided =>
    exact .inr (.inr (undecided.evidence.imp And.left And.left))

/-- A classification touches the latest attempt, the state, the reason and the automatic retries. -/
theorem Classified.shape : next = { effect.classified attempt failure reason with
      state := next.state, failureReason := next.failureReason
      automaticRetriesUsed := next.automaticRetriesUsed } := by
  rcases outcome.moves with ⟨-, -, rfl⟩ | ⟨-, -, rfl⟩ | ⟨state, -, rfl⟩ <;> rfl

theorem Classified.attempts : next.attempts = (effect.withAttempt { attempt with failure }).attempts := by
  rw [outcome.shape]
  rfl

theorem Classified.current : next.currentAttempt = some { attempt with failure } := by
  rw [outcome.shape]
  exact effect.currentAttempt_withAttempt _

/-- The states that a classification leads to. -/
theorem Classified.states : next.state = .cancelled ∨ next.state = .retryPending ∨ next.state = .failed ∨
      next.state = .uncertain ∨ next.state = .needsConfirmation := by
  rcases outcome.moves with ⟨-, -, rfl⟩ | ⟨-, -, rfl⟩ | ⟨state, member, rfl⟩
  · exact .inl rfl
  · exact .inr (.inl rfl)
  · exact .inr (.inr (by simpa [moveTo] using member))

/-- A classification that leads to a retry spends one, and only where the policy replays. -/
theorem Classified.retried : next.automaticRetriesUsed = effect.automaticRetriesUsed ∧ next.state ≠ .retryPending ∨
      next.automaticRetriesUsed = effect.automaticRetriesUsed + 1 ∧ next.state = .retryPending ∧
        effect.automaticRetriesUsed < effect.maxAutomaticRetries ∧
        (failure = .definitelyNotSent ∨ effect.replayPolicy = .safe ∨ effect.replayPolicy = .idempotencyKey) := by
  rcases outcome.moves with ⟨-, -, rfl⟩ | ⟨room, policy, rfl⟩ | ⟨state, member, rfl⟩
  · exact .inl ⟨rfl, by simp⟩
  · exact .inr ⟨rfl, rfl, room, policy⟩
  · exact .inl ⟨rfl, fun equal => by simp [show state = .retryPending from equal] at member⟩

end

/-- No move touches what the admission fixed. -/
theorem Moved.identity (moved : Moved gateway effect event transition) :
    transition.effect.toEffectIdentity = effect.toEffectIdentity := by
  cases moved with
  | classified _ _ _ outcome =>
    rw [quiet, outcome.shape]
    rfl
  | _ => rfl

theorem Effect.length_withAttempt (current : effect.currentAttempt = some attempt)
    (other : AttemptRecord) : (effect.withAttempt other).attempts.length = effect.attempts.length := by
  conv_rhs => rw [effect.attempts_of_current current]
  simp [withAttempt]

/-- A move that sends the effect to the provider. -/
structure Effect.Dispatches (effect : Effect) (transition : Transition) : Prop where
  source : effect.state = .admitted ∨ effect.state = .retryPending
  unrequested : effect.cancellationRequested = false
  command : transition.dispatch = some (effect.dispatchCommand (effect.attempts.length + 1))
  attempts : transition.effect.attempts = effect.attempts ++ [.fresh (effect.attempts.length + 1)]
  target : transition.effect.state = .dispatching
  kept : transition.effect.cancellationRequested = effect.cancellationRequested

/-- Only a dispatch adds an attempt, and no move touches an attempt before the latest. -/
theorem Moved.attempts (moved : Moved gateway effect event transition) :
    transition.dispatch = none ∧ transition.effect.attempts.dropLast = effect.attempts.dropLast ∧
        transition.effect.attempts.length = effect.attempts.length ∨
      event.kind = .beginDispatch ∧ effect.Dispatches transition := by
  cases moved with
  | dispatched kind state unrequested => exact .inr ⟨kind, state, unrequested, rfl, rfl, rfl, rfl⟩
  | classified _ _ current outcome =>
    refine .inl ⟨rfl, ?_⟩
    rw [quiet, outcome.shape]
    exact ⟨effect.dropLast_withAttempt _, length_withAttempt current _⟩
  | negotiated _ current | accepted _ current | streamed _ current | cancelUnknown _ current
  | recordCommitted _ current | resumed _ _ _ current | identified _ _ current
  | failedExternally _ _ _ current =>
    exact .inl ⟨rfl, effect.dropLast_withAttempt _, length_withAttempt current _⟩
  | _ =>
    exact .inl ⟨rfl, rfl, rfl⟩

/-- The retries used stay within the retries allowed, and pay for every attempt. -/
structure Effect.Funded (effect : Effect) : Prop where
  automatic : effect.automaticRetriesUsed ≤ effect.maxAutomaticRetries
  confirmation : effect.confirmationRetriesUsed ≤ effect.maxConfirmationRetries
  attempts : effect.attempts.length ≤ effect.allowedAttempts

theorem Moved.funded (moved : Moved gateway effect event transition) (funded : effect.Funded) :
    transition.effect.Funded := by
  obtain ⟨automatic, confirmation, attempts⟩ := funded
  cases moved with
  | dispatched _ _ _ room => exact ⟨automatic, confirmation, by simpa [allowedAttempts] using room⟩
  | confirmed _ _ _ _ room =>
    exact ⟨automatic, room, attempts.trans (by simp only [allowedAttempts, quiet]; omega)⟩
  | @classified attempt failure reason next _ _ current outcome =>
    have length : (effect.classified attempt failure reason).attempts.length = effect.attempts.length :=
      length_withAttempt current _
    rw [quiet, outcome.shape]
    refine ⟨?_, confirmation, ?_⟩
    · rcases outcome.retried with ⟨used, -⟩ | ⟨used, -, room, -⟩
      · exact used.trans_le automatic
      · exact used.trans_le room
    · have kept : (effect.classified attempt failure reason).confirmationRetriesUsed =
        effect.confirmationRetriesUsed := rfl
      refine (length.trans_le attempts).trans ?_
      simp only [allowedAttempts, kept]
      rcases outcome.retried with ⟨used, -⟩ | ⟨used, -, -, -⟩
      · rw [used]
      · rw [used]
        omega
  | negotiated _ current | accepted _ current | streamed _ current | cancelUnknown _ current
  | recordCommitted _ current | resumed _ _ _ current | identified _ _ current
  | failedExternally _ _ _ current =>
    exact ⟨automatic, confirmation, (length_withAttempt current _).trans_le attempts⟩
  | _ =>
    exact ⟨automatic, confirmation, attempts⟩

/-- The events that leave an effect ready for another attempt. -/
theorem Moved.retryPending (moved : Moved gateway effect event transition)
    (pending : transition.effect.state = .retryPending) :
    event.kind = .confirmationDecided ∧ event.decision = .retry ∧ effect.replayPolicy = .confirm ∨
      (∃ attempt, transition.effect.currentAttempt = some attempt ∧ attempt.failure = .definitelyNotSent) ∨
      effect.replayPolicy = .safe ∨ effect.replayPolicy = .idempotencyKey := by
  cases moved with
  | confirmed kind decision _ policy => exact .inl ⟨kind, decision, policy⟩
  | @classified attempt failure reason next _ _ _ outcome =>
    rcases outcome.retried with ⟨-, other⟩ | ⟨-, -, -, rfl | policy⟩
    · exact absurd pending other
    · exact .inr (.inl ⟨_, outcome.current, rfl⟩)
    · exact .inr (.inr policy)
  | negotiated _ _ state => simp [withAttempt, state] at pending
  | identified _ _ _ state =>
    rcases state with state | state | state <;> simp [withAttempt, state] at pending
  | @resumed attempt =>
    rcases effect.resume_state { attempt with providerRequestId := event.ledger.providerRequestId } with
      state | state | state <;> simp [state] at pending
  | @cancelUnknown attempt =>
    rcases (effect.classified attempt .unknown cancellationUnknownReason).held_state with
      state | state <;> simp [state] at pending
  | abandoned =>
    simp only [quiet] at pending
    split at pending <;> simp at pending
  | _ => simp at pending

end Frame

end Circulusd.Mcp
