import Circulusd.Mcp.Runs

/-
When the effect that an accepted event leaves is again one that the gateway accepts.
-/

namespace Circulusd.Mcp

open AttemptRecord Effect Event Platform Transition List Option

variable {gateway : Gateway} {effect next : Effect} {event : Event} {attempt : AttemptRecord}
  {transition : Transition} {failure : FailureClass} {reason : String}

/-- The moves to a state whose attempt must have a negotiation receipt. -/
def Effect.NeedsReceipt (effect : Effect) (event : Event) : Prop :=
  event.kind = .callCommitted ∨ event.kind = .cancellationResolved ∧ event.cancellation = .committed ∨
    event.kind = .recoveryObserved ∧ event.ledger.status = .committed ∨
    event.kind = .recoveryObserved ∧ event.ledger.status = .inflight ∧ effect.cancellationRequested = false ∧
      (effect.state = .dispatching ∨ effect.state = .uncertain ∨ effect.state = .needsConfirmation ∨
        effect.state = .failed)

/-- The moves of a dispatched effect to the cancelled state. -/
def Effect.Cancels (effect : Effect) (event : Event) : Prop :=
  event.kind = .cancelRequested ∧ effect.state = .retryPending ∧
      (effect.latestAttempt.failure = .definitelyNotSent ∨ effect.latestAttempt.failure = .ledgerAbsent) ∨
    event.kind = .cancellationResolved ∧ (event.cancellation = .prevented ∨ event.cancellation = .absent) ∨
    effect.cancellationRequested = true ∧ (event.kind = .dispatchFailed ∧ event.failure = .ledgerAbsent ∨
        event.kind = .recoveryObserved ∧ event.ledger.status = .absent)

/-- What the effect must hold so that the move of the event fits the state it leads to. -/
@[mk_iff]
structure Effect.Fits (effect : Effect) (gateway : Gateway) (event : Event) : Prop where
  /-- The reason that the machine writes itself is within the bound, unless the move clears it. -/
  reason : ¬ effect.Cancels event → (event.recordedReason effect).utf8ByteSize ≤ gateway.bounds.maxFailureBytes
  receipt : effect.NeedsReceipt event → effect.latestAttempt.negotiation ≠ .zero
  uncommitted : effect.Cancels event → effect.externalCommitId = ""
  attempted : event.kind = .cancelRequested →
    effect.state = .uncertain ∨ effect.state = .needsConfirmation → effect.attempts ≠ []
  streamed : event.kind = .recoveryObserved → event.ledger.status = .inflight →
    effect.state = .uncertain ∨ effect.state = .needsConfirmation ∨ effect.state = .failed →
    effect.cancellationRequested = false → effect.latestAttempt.hadOutput = true →
      effect.chunkCount ≠ 0 ∧ effect.streamBytes ≠ 0
  failed : event.kind = .confirmationDecided → event.decision = .retry → effect.latestAttempt.failure ≠ .none

/-- What an event needs so that the effect it leaves is valid: room in the account of bytes, and an
effect that fits the move. -/
def Closes (gateway : Gateway) (effect : Effect) (event : Event) : Prop :=
  effect.eventBytes + event.size effect ≤ gateway.maximumEventBytes ∧ effect.Fits gateway event

theorem Gateway.ValidEffect.withAttempt (valid : gateway.ValidEffect effect)
    (current : effect.currentAttempt = some attempt) {other : AttemptRecord}
    (kept : ∀ index, gateway.ValidAttempt effect.toEffectIdentity index attempt →
      gateway.ValidAttempt effect.toEffectIdentity index other) :
    gateway.ValidAttempts effect.toEffectIdentity 0 (effect.withAttempt other).attempts := by
  have attempts := valid.attempts
  rw [effect.attempts_of_current current, validAttempts_concat] at attempts
  exact (gateway.validAttempts_concat _ _ _ _).mpr ⟨attempts.1, kept _ attempts.2⟩

theorem Effect.attemptBytes_withAttempt (current : effect.currentAttempt = some attempt) (other : AttemptRecord) :
    attemptBytes (effect.withAttempt other).attempts + attempt.bytes = attemptBytes effect.attempts + other.bytes := by
  conv_rhs => rw [effect.attempts_of_current current]
  simp only [withAttempt, attemptBytes_append, attemptBytes_singleton]
  omega

/-- The latest attempt of a valid effect is valid at its position. -/
theorem Gateway.ValidEffect.latest (valid : gateway.ValidEffect effect)
    (current : effect.currentAttempt = some attempt) :
    gateway.ValidAttempt effect.toEffectIdentity effect.attempts.dropLast.length attempt := by
  have attempts := valid.attempts
  rw [effect.attempts_of_current current, validAttempts_concat, Nat.zero_add] at attempts
  exact attempts.2

section Kept

/-- The reason of a classified effect is the given one, unless the move cancels the effect. -/
theorem Classified.reason_cases (outcome : Classified effect attempt reason failure next) :
    next.failureReason = reason ∧ next.state ≠ .cancelled ∨
      next.failureReason = "" ∧ next.state = .cancelled ∧ failure = .ledgerAbsent ∧
        effect.cancellationRequested = true := by
  rcases outcome.moves with ⟨absent, requested, rfl⟩ | ⟨-, -, rfl⟩ | ⟨state, member, rfl⟩
  · exact .inr ⟨rfl, rfl, absent, requested⟩
  · exact .inl ⟨rfl, by simp⟩
  · exact .inl ⟨rfl, fun equal => by simp [show state = .cancelled from equal] at member⟩

theorem Classified.ownBytes (outcome : Classified effect attempt reason failure next) :
    next.ownBytes + effect.failureReason.utf8ByteSize = effect.ownBytes + next.failureReason.utf8ByteSize := by
  have streamBytes : next.streamBytes = effect.streamBytes := by rw [outcome.shape]; rfl
  have output : next.output = effect.output := by rw [outcome.shape]; rfl
  have commit : next.externalCommitId = effect.externalCommitId := by rw [outcome.shape]; rfl
  simp only [Effect.ownBytes, streamBytes, output, commit]
  omega

theorem Event.classification_size (given : event.classification = some (failure, reason)) :
    reason.utf8ByteSize ≤ event.size effect := by
  rcases event.classification_cases given with
    ⟨kind, -, rfl⟩ | ⟨kind, ⟨status, -, rfl⟩ | ⟨status, -, rfl⟩⟩
  · simp only [size]
    omega
  all_goals
    simp only [size, recordedReason, kind, status]
    omega

theorem AttemptRecord.learn_bytes (attempt : AttemptRecord) (record : LedgerRecord) :
    (attempt.learn record).bytes ≤ attempt.bytes + record.providerRequestId.utf8ByteSize := by
  simp only [learn, bytes]
  split <;> omega

/-- What a move adds to the account of the effect is carried by the event. -/
theorem Moved.account (moved : Moved gateway effect event transition) :
    transition.effect.ownBytes + attemptBytes transition.effect.attempts ≤
      effect.ownBytes + attemptBytes effect.attempts + event.size effect := by
  -- An update of the latest attempt moves the account by the difference of its bytes.
  have update {attempt other : AttemptRecord} {reached : Effect} (current : effect.currentAttempt = some attempt)
      (attempts : reached.attempts = (effect.withAttempt other).attempts)
      (bounded : reached.ownBytes + other.bytes ≤ effect.ownBytes + attempt.bytes + event.size effect) :
      reached.ownBytes + attemptBytes reached.attempts ≤
        effect.ownBytes + attemptBytes effect.attempts + event.size effect := by
    have swap := effect.attemptBytes_withAttempt current other
    rw [attempts]
    omega
  have size := Event.size.eq_1 event effect
  rw [ledgerEventBytes] at size
  cases moved with
  | dispatched =>
    have fresh : (AttemptRecord.fresh (effect.attempts.length + 1)).bytes = 0 := rfl
    simp only [ownBytes, attemptBytes_append, attemptBytes_singleton, fresh]
    exact (Nat.add_le_add_right (Nat.add_le_add_left (Nat.zero_le _) _) _).trans (Nat.le_add_right _ _)
  | negotiated _ current | accepted _ current | streamed _ current | identified _ _ current =>
    refine update current rfl ?_
    simp only [quiet, ownBytes, withAttempt, AttemptRecord.bytes]
    omega
  | settled | cancelSent => exact Nat.le_add_right _ _
  | @classified attempt failure reason next given _ current outcome =>
    have carried : reason.utf8ByteSize ≤ event.size effect := classification_size given
    have bounded : next.failureReason.utf8ByteSize ≤ reason.utf8ByteSize := by
      rcases outcome.reason_cases with ⟨same, -⟩ | ⟨cleared, -⟩
      · rw [same]
      · simp [cleared]
    have own := outcome.ownBytes
    refine update current outcome.attempts ?_
    simp only [quiet, AttemptRecord.bytes]
    omega
  | committed | cancelledAtOnce | cancelConfirmed =>
    simp only [quiet, ownBytes, String.utf8ByteSize_empty]
    omega
  | cancelUnknown kind current _ answer =>
    refine update current rfl ?_
    have same : event.recordedReason effect = cancellationUnknownReason := by
      simp [recordedReason, kind, answer]
    rw [same] at size
    simp only [quiet, held, moveTo, ownBytes, Effect.classified, withAttempt, AttemptRecord.bytes]
    omega
  | @recordCommitted attempt _ current =>
    refine update current rfl ?_
    have learned := attempt.learn_bytes event.ledger
    simp only [quiet, ownBytes, withAttempt, String.utf8ByteSize_empty]
    omega
  | resumed _ _ _ current =>
    refine update current rfl ?_
    simp only [quiet, resume, ownBytes, withAttempt, AttemptRecord.bytes, String.utf8ByteSize_empty]
    omega
  | @failedExternally attempt kind status _ current =>
    refine update current rfl ?_
    have same : event.recordedReason effect = externalFailedReason := by
      simp [recordedReason, kind, status]
    have learned := attempt.learn_bytes event.ledger
    rw [same] at size
    simp only [quiet, ownBytes, withAttempt, AttemptRecord.bytes] at *
    omega
  | confirmed kind decision =>
    have same : event.recordedReason effect = confirmationRetryReason := by
      simp [recordedReason, kind, decision]
    rw [same] at size
    simp only [quiet, ownBytes]
    omega
  | abandoned kind decision =>
    have same : event.recordedReason effect = if effect.cancellationRequested then confirmationAbandonUnknownReason
        else confirmationDeclinedReason := by
      simp [recordedReason, kind, decision]
    rw [same] at size
    simp only [quiet, ownBytes]
    omega

/-- The counters wait for the end of the step, and the bounds of the stream and the result hold. -/
structure Effect.Within (gateway : Gateway) (before after : Effect) : Prop where
  revision : after.revision = before.revision
  eventCount : after.eventCount = before.eventCount
  eventBytes : after.eventBytes = before.eventBytes
  chunkCount : after.chunkCount ≤ gateway.bounds.maxChunks
  streamBytes : after.streamBytes ≤ gateway.bounds.maxOutputBytes
  output : after.output.length ≤ gateway.bounds.maxOutputBytes
  commit : OptionalText after.externalCommitId gateway.bounds.maxExternalCommitIdBytes

theorem Moved.within (moved : Moved gateway effect event transition)
    (valid : gateway.ValidEffect effect) (checked : gateway.ValidEvent event) :
    Effect.Within gateway effect transition.effect := by
  obtain ⟨-, -, -, -, -, -, chunkCount, streamBytes, -, output, commit, -⟩ := valid.progress
  cases moved with
  | streamed _ _ _ bytes count =>
    refine ⟨rfl, rfl, rfl, count, ?_, output, commit⟩
    simp only [quiet]
    omega
  | committed kind =>
    obtain ⟨-, bounded, named⟩ := checked.output kind
    exact ⟨rfl, rfl, rfl, chunkCount, streamBytes, bounded, named⟩
  | recordCommitted _ _ record =>
    obtain ⟨-, -, -, named, bounded, -⟩ := record
    exact ⟨rfl, rfl, rfl, chunkCount, streamBytes, bounded, named⟩
  | classified _ _ _ outcome =>
    rw [quiet, outcome.shape]
    exact ⟨rfl, rfl, rfl, chunkCount, streamBytes, output, commit⟩
  | _ =>
    exact ⟨rfl, rfl, rfl, chunkCount, streamBytes, output, commit⟩

/-- A provider request id that a record reported leaves a valid attempt. -/
theorem Gateway.ValidAttempt.learn {identity : EffectIdentity} {index : Nat} {record : LedgerRecord}
    (valid : gateway.ValidAttempt identity index attempt)
    (named : OptionalText record.providerRequestId gateway.bounds.maxProviderRequestIdBytes) :
    gateway.ValidAttempt identity index (attempt.learn record) := by
  obtain ⟨position, text, output, receipt, failure⟩ := valid
  unfold AttemptRecord.learn
  split
  next unnamed =>
    exact ⟨position, named, fun streamed => absurd unnamed (output streamed), receipt, failure⟩
  next => exact ⟨position, text, output, receipt, failure⟩

theorem Moved.validAttempts (moved : Moved gateway effect event transition)
    (valid : gateway.ValidEffect effect) (checked : gateway.ValidEvent event) :
    gateway.ValidAttempts effect.toEffectIdentity 0 transition.effect.attempts := by
  cases moved with
  | dispatched =>
    refine (gateway.validAttempts_concat _ _ _ _).mpr ⟨valid.attempts, ?_⟩
    exact ⟨by simp [fresh], .inl rfl, by simp [fresh], .inl rfl, by simp [fresh]⟩
  | negotiated _ current _ _ receipt =>
    refine valid.withAttempt current ?_
    rintro index ⟨position, text, output, -, failure⟩
    exact ⟨position, text, output, .inr receipt, failure⟩
  | accepted kind current =>
    have named := checked.providerRequestId kind
    refine valid.withAttempt current ?_
    rintro index ⟨position, -, -, receipt, failure⟩
    exact ⟨position, named.optional, fun _ => named.1, receipt, failure⟩
  | streamed _ current state =>
    have named : ∃ latest, effect.currentAttempt = some latest ∧ latest.providerRequestId ≠ "" := by
      have shape := valid.shape
      rcases state with state | state <;> rw [state] at shape <;>
        obtain ⟨latest, found, named, -⟩ := shape <;> exact ⟨latest, found, named⟩
    obtain ⟨latest, found, named⟩ := named
    cases current.symm.trans found
    refine valid.withAttempt current ?_
    rintro index ⟨position, text, -, receipt, failure⟩
    exact ⟨position, text, fun _ => named, receipt, failure⟩
  | @classified attempt failure reason next _ _ current outcome =>
    simp only [quiet, outcome.attempts]
    refine valid.withAttempt current ?_
    rintro index ⟨position, text, output, receipt, -⟩
    exact ⟨position, text, output, receipt, by rcases outcome.classes with rfl | rfl | rfl | rfl <;> simp⟩
  | cancelUnknown _ current =>
    refine valid.withAttempt current ?_
    rintro index ⟨position, text, output, receipt, -⟩
    exact ⟨position, text, output, receipt, by simp⟩
  | recordCommitted _ current record =>
    exact valid.withAttempt current fun index before => before.learn record.2.2.1
  | resumed kind _ _ current _ named =>
    have text := (checked.ledger kind).2.2.1
    refine valid.withAttempt current ?_
    rintro index ⟨position, -, -, receipt, -⟩
    exact ⟨position, text, fun _ => named, receipt, by simp⟩
  | identified kind _ current _ named =>
    have text := (checked.ledger kind).2.2.1
    refine valid.withAttempt current ?_
    rintro index ⟨position, -, -, receipt, failure⟩
    exact ⟨position, text, fun _ => named, receipt, failure⟩
  | failedExternally kind _ _ current =>
    refine valid.withAttempt current fun index before => ?_
    obtain ⟨position, text, output, receipt, -⟩ := before.learn (checked.ledger kind).2.2.1
    exact ⟨position, text, output, receipt, by simp⟩
  | _ =>
    exact valid.attempts

end Kept

/-- The parts of validity that a move can lose. -/
def Effect.Shaped (effect : Effect) (gateway : Gateway) : Prop :=
  OptionalText effect.failureReason gateway.bounds.maxFailureBytes ∧ effect.ShapeOf effect.state

theorem Moved.not_admitted (moved : Moved gateway effect event transition) : transition.effect.state ≠ .admitted := by
  cases moved with
  | classified _ _ _ outcome =>
    rcases outcome.states with state | state | state | state | state <;> simp [state]
  | negotiated _ _ state => simp [withAttempt, state]
  | identified _ _ _ state =>
    rcases state with state | state | state <;> simp [withAttempt, state]
  | @resumed attempt =>
    rcases effect.resume_state { attempt with providerRequestId := event.ledger.providerRequestId } with
      state | state | state <;> simp [state]
  | @cancelUnknown attempt =>
    rcases (effect.classified attempt .unknown cancellationUnknownReason).held_state with
      state | state <;> simp [state]
  | abandoned =>
    simp only [quiet]
    split <;> simp
  | _ => simp

theorem Effect.shapeOf_counted (effect : Effect) (state : State) (notAdmitted : state ≠ .admitted) (bytes : Nat) :
    (effect.counted bytes).ShapeOf state ↔ effect.ShapeOf state := by
  cases state with
  | admitted => exact absurd rfl notAdmitted
  | _ => exact Iff.rfl

/-- The step keeps every other part of validity. -/
theorem Moved.valid_iff (moved : Moved gateway effect event transition)
    (valid : gateway.ValidEffect effect) (checked : gateway.ValidEvent event)
    (reserve : transition.effect.eventCount + 1 + transition.effect.minimumRemainingEvents ≤ gateway.bounds.maxEvents) :
    gateway.ValidEffect (transition.effect.counted (event.size effect)) ↔
      effect.eventBytes + event.size effect ≤ gateway.maximumEventBytes ∧ transition.effect.Shaped gateway := by
  have within := moved.within valid checked
  have shape := transition.effect.shapeOf_counted _ moved.not_admitted (event.size effect)
  constructor
  · intro after
    obtain ⟨-, -, -, -, -, -, -, -, bytes, -, -, reason⟩ := after.progress
    refine ⟨?_, reason, shape.mp after.shape⟩
    rwa [← within.eventBytes]
  · rintro ⟨bytes, reason, shaped⟩
    obtain ⟨automatic, confirmation, attempts⟩ := moved.funded
      ⟨valid.progress.2.2.2.1, valid.progress.2.2.2.2.1, valid.progress.2.2.2.2.2.1⟩
    have revision := valid.progress.2.1
    have account := moved.account
    have accounted := valid.accounted
    refine ⟨?_, ?_, ⟨?_, ?_, ?_, automatic, confirmation, attempts, within.chunkCount,
      within.streamBytes, ?_, within.output, within.commit, reason⟩, ?_, ?_, shape.mpr shaped⟩
    · exact moved.identity ▸ valid.admission
    · exact moved.identity ▸ valid.registration
    · exact Nat.succ_ne_zero _
    · simp only [counted, within.revision, within.eventCount, revision]
    · simp only [counted]
      omega
    · simpa only [counted, within.eventBytes] using bytes
    · exact moved.identity ▸ moved.validAttempts valid checked
    · have kept : (transition.effect.counted (event.size effect)).eventBytes =
          effect.eventBytes + event.size effect := by
        simp only [counted, within.eventBytes]
      rw [kept]
      exact account.trans (Nat.add_le_add_right accounted _)

section Shape

theorem optionalText_iff {value : String} {maximum : Nat} (printable : value.toList.any isControl = false) :
    OptionalText value maximum ↔ value.utf8ByteSize ≤ maximum := by
  refine ⟨OptionalText.size, fun bounded => ?_⟩
  by_cases absent : value = ""
  · exact .inl absent
  · exact .inr ⟨absent, bounded, printable⟩

/-- The machine's own reasons are printable, so only their length matters. -/
theorem Event.recordedReason_optional (event : Event) (effect : Effect) (maximum : Nat) :
    OptionalText (event.recordedReason effect) maximum ↔ (event.recordedReason effect).utf8ByteSize ≤ maximum := by
  apply optionalText_iff
  unfold recordedReason
  split
  · split <;> decide +kernel
  · split <;> decide +kernel
  · split
    · decide +kernel
    · split <;> decide +kernel
  · decide +kernel

/-- Only a committed result has an output. -/
theorem Gateway.ValidEffect.output_nil (valid : gateway.ValidEffect effect)
    (uncommitted : effect.state ≠ .externallyCommitted) (unsettled : effect.state ≠ .completed) :
    effect.output = [] := by
  have shape := valid.shape
  cases state : effect.state with
  | externallyCommitted => exact absurd state uncommitted
  | completed => exact absurd state unsettled
  | other => simp [state, ShapeOf] at shape
  | admitted => rw [state] at shape; exact shape.2.2.2.2.1
  | cancellationPending => rw [state] at shape; exact shape.2.1
  | needsConfirmation | failed | uncertain => rw [state] at shape; exact shape.2
  | cancelled => rw [state] at shape; exact shape.1
  | dispatching | dispatched | streaming | retryPending =>
    rw [state] at shape
    obtain ⟨_, -, rest⟩ := shape
    simp_all

theorem validReceipt_ne_zero {receipt : StartNegotiationReceipt} {identity : EffectIdentity} {number : Nat}
    (valid : ValidNegotiationReceipt receipt identity number) : receipt ≠ .zero := by
  rintro rfl
  exact absurd valid.1 (by decide)

/-- The events of an undisturbed call fit every effect. -/
theorem Effect.fits_of_kind (plain : event.kind = .beginDispatch ∨ event.kind = .negotiationRecorded ∨
    event.kind = .providerAccepted ∨ event.kind = .outputChunk ∨ event.kind = .settlementCompleted) :
    effect.Fits gateway event := by
  rcases plain with kind | kind | kind | kind | kind <;>
    simp [fits_iff, recordedReason, NeedsReceipt, Cancels, kind]

theorem Event.classification_cancels (given : event.classification = some (failure, reason)) :
    effect.Cancels event ↔ failure = .ledgerAbsent ∧ effect.cancellationRequested = true := by
  rcases event.classification_cases given with
    ⟨kind, rfl, -⟩ | ⟨kind, ⟨status, rfl, -⟩ | ⟨status, rfl, -⟩⟩ <;>
    simp [Cancels, and_comm, *]

section

variable (outcome : Classified effect attempt reason failure next)
include outcome

theorem Classified.cancelled_iff :
    next.state = .cancelled ↔ failure = .ledgerAbsent ∧ effect.cancellationRequested = true := by
  constructor
  · intro state
    rcases outcome.reason_cases with ⟨-, other⟩ | ⟨-, -, absent, requested⟩
    · exact absurd state other
    · exact ⟨absent, requested⟩
  · rintro ⟨rfl, requested⟩
    cases outcome with
    | absentRequested => rfl
    | absentFailed _ _ unrequested => simp [requested] at unrequested
    | replayable undecided | unreplayable undecided | confirmable undecided =>
      simpa [requested] using undecided.unrequested

/-- A classified effect has the shape of its state, as far as its reason is valid. -/
theorem Classified.shaped_iff (present : reason ≠ "") (output : effect.output = [])
    (uncancelled : next.state ≠ .cancelled)
    (unrequested : next.state = .retryPending → effect.cancellationRequested = false) :
    next.Shaped gateway ↔ OptionalText reason gateway.bounds.maxFailureBytes := by
  have reasonKept : next.failureReason = reason := by
    rcases outcome.reason_cases with ⟨same, -⟩ | ⟨-, cancelled, -⟩
    · exact same
    · exact absurd cancelled uncancelled
  have outputKept : next.output = [] := by
    rw [outcome.shape]
    exact output
  have requestKept : next.cancellationRequested = effect.cancellationRequested := by
    rw [outcome.shape]
    rfl
  have failed : failure ≠ .none := by rcases outcome.classes with rfl | rfl | rfl | rfl <;> simp
  have shape : next.ShapeOf next.state := by
    rcases outcome.states with state | state | state | state | state
    · exact absurd state uncancelled
    · rw [state]
      exact ⟨_, outcome.current, failed, reasonKept ▸ present, outputKept, requestKept.trans (unrequested state)⟩
    all_goals
      rw [state]
      exact ⟨reasonKept ▸ present, outputKept⟩
  rw [Shaped, reasonKept]
  exact and_iff_left shape

/-- A retry is granted only while no cancellation is requested. -/
theorem Classified.unrequested (valid : gateway.ValidEffect effect) (retried : next.state = .retryPending) :
    effect.cancellationRequested = false := by
  cases outcome with
  | notSent state =>
    have shape := valid.shape
    rw [state] at shape
    obtain ⟨_, -, -, -, -, -, -, unrequested⟩ := shape
    exact unrequested
  | unknownRequested =>
    rcases (effect.classified attempt .unknown reason).held_state with state | state <;> simp [state] at retried
  | rejected | absentRequested => simp at retried
  | absentFailed _ _ unrequested | unknownStreamed _ unrequested => exact unrequested
  | replayable undecided | unreplayable undecided | confirmable undecided => exact undecided.unrequested

end

theorem Event.classification_text (effect : Effect)
    (given : event.classification = some (failure, reason)) (checked : gateway.ValidEvent event) :
    reason ≠ "" ∧ (OptionalText reason gateway.bounds.maxFailureBytes ↔
      OptionalText (event.recordedReason effect) gateway.bounds.maxFailureBytes) := by
  rcases event.classification_cases given with
    ⟨kind, -, rfl⟩ | ⟨kind, ⟨status, -, rfl⟩ | ⟨status, -, rfl⟩⟩
  · obtain ⟨-, text⟩ := checked.failure kind
    refine ⟨text.1, iff_of_true (.inr text) ?_⟩
    simp [recordedReason, kind, OptionalText]
  · exact ⟨by decide, by simp [recordedReason, kind, status]⟩
  · exact ⟨by decide, by simp [recordedReason, kind, status]⟩

theorem Classified.fits_iff (outcome : Classified effect attempt reason failure next)
    (given : event.classification = some (failure, reason))
    (valid : gateway.ValidEffect effect) (checked : gateway.ValidEvent event) (output : effect.output = []) :
    next.Shaped gateway ↔ effect.Fits gateway event := by
  have cancels : effect.Cancels event ↔ next.state = .cancelled :=
    (classification_cancels given).trans outcome.cancelled_iff.symm
  have fits : effect.Fits gateway event ↔
      (next.state ≠ .cancelled → OptionalText (event.recordedReason effect) gateway.bounds.maxFailureBytes) ∧
        (next.state = .cancelled → effect.externalCommitId = "") := by
    rw [Effect.fits_iff, cancels, recordedReason_optional]
    rcases event.classification_cases given with
      ⟨kind, -, -⟩ | ⟨kind, ⟨status, -, -⟩ | ⟨status, -, -⟩⟩ <;> simp [NeedsReceipt, *]
  by_cases cancelled : next.state = .cancelled
  · simp only [fits, cancelled, ne_eq, not_true, false_imp_iff, true_imp_iff, true_and]
    obtain ⟨rfl, requested⟩ := outcome.cancelled_iff.mp cancelled
    rcases outcome.reason_cases with ⟨-, differs⟩ | ⟨cleared, -⟩
    · exact absurd cancelled differs
    · rw [Shaped, cancelled, cleared, outcome.shape]
      exact ⟨fun shaped => shaped.2.2.1, fun uncommitted =>
        ⟨.inl rfl, output, uncommitted, cleared, requested⟩⟩
  · obtain ⟨present, same⟩ := classification_text effect given checked
    simp only [fits, cancelled, ne_eq, not_false_eq_true, true_imp_iff, false_imp_iff, and_true, ← same]
    exact outcome.shaped_iff present output cancelled (outcome.unrequested valid)

/-- The moves of an undisturbed call lead to an effect of the shape of its state. -/
theorem Moved.shaped_of_call (moved : Moved gateway effect event transition)
    (valid : gateway.ValidEffect effect) (checked : gateway.ValidEvent event)
    (plain : event.kind = .beginDispatch ∨ event.kind = .negotiationRecorded ∨
      event.kind = .providerAccepted ∨ event.kind = .outputChunk ∨ event.kind = .settlementCompleted) :
    transition.effect.Shaped gateway := by
  have reason : OptionalText effect.failureReason gateway.bounds.maxFailureBytes :=
    valid.progress.2.2.2.2.2.2.2.2.2.2.2
  have shape := valid.shape
  cases moved with
  | dispatched _ state unrequested =>
    have output := valid.output_nil (by rcases state with state | state <;> simp [state])
      (by rcases state with state | state <;> simp [state])
    exact ⟨.inl rfl, .fresh (effect.attempts.length + 1), by simp [currentAttempt], rfl, rfl, rfl, rfl, output, unrequested⟩
  | negotiated _ current state _ receipt =>
    rw [state] at shape
    obtain ⟨_, found, rest⟩ := shape
    cases found.symm.trans current
    refine ⟨reason, ?_⟩
    simp only [quiet, withAttempt, state]
    exact ⟨_, effect.currentAttempt_withAttempt _, rest⟩
  | accepted kind current state receipt =>
    rw [state] at shape
    obtain ⟨_, found, -, silent, unfailed, -, output, unrequested⟩ := shape
    cases found.symm.trans current
    exact ⟨reason, _, effect.currentAttempt_withAttempt _, (checked.providerRequestId kind).1, silent,
      unfailed, validReceipt_ne_zero receipt, output, unrequested⟩
  | streamed kind current state =>
    have longer : effect.streamBytes + event.chunk.length ≠ 0 := by
      have present := length_pos_iff.mpr (checked.chunk kind)
      omega
    rcases state with state | state
    · rw [state] at shape
      obtain ⟨_, found, named, -, unfailed, receipt, output, unrequested⟩ := shape
      cases found.symm.trans current
      exact ⟨reason, _, effect.currentAttempt_withAttempt _, named, rfl, unfailed, receipt,
        Nat.succ_ne_zero _, longer, output, unrequested⟩
    · rw [state] at shape
      obtain ⟨_, found, named, -, unfailed, receipt, -, -, output, unrequested⟩ := shape
      cases found.symm.trans current
      exact ⟨reason, _, effect.currentAttempt_withAttempt _, named, rfl, unfailed, receipt,
        Nat.succ_ne_zero _, longer, output, unrequested⟩
  | settled _ state =>
    rw [state] at shape
    exact ⟨reason, shape⟩
  | classified given =>
    rcases event.classification_cases given with ⟨kind, -⟩ | ⟨kind, -⟩ <;> simp [kind] at plain
  | recordCommitted commits =>
    rcases commits with ⟨kind, -⟩ | ⟨kind, -⟩ <;> simp [kind] at plain
  | committed kind | cancelledAtOnce kind | cancelSent kind | cancelConfirmed kind | cancelUnknown kind
  | resumed kind | identified kind | failedExternally kind | confirmed kind | abandoned kind =>
    simp [kind] at plain

/-- A call that the recovery found in flight fits as far as its attempt was negotiated and, when it
had output, the output is accounted for. -/
theorem Effect.resume_fits_iff (valid : gateway.ValidEffect effect)
    (kind : event.kind = .recoveryObserved) (status : event.ledger.status = .inflight)
    (current : effect.currentAttempt = some attempt) (output : effect.output = [])
    (state : effect.state = .dispatching ∨ effect.state = .uncertain ∨
      effect.state = .needsConfirmation ∨ effect.state = .failed)
    (named : event.ledger.providerRequestId ≠ "") :
    (effect.resume { attempt with providerRequestId := event.ledger.providerRequestId }).Shaped gateway ↔
      effect.Fits gateway event := by
  have recorded : event.recordedReason effect = "" := by simp [recordedReason, kind, status]
  have uncancelled : ¬ effect.Cancels event := by simp [Cancels, kind, status]
  have latest : effect.latestAttempt = attempt := latestAttempt_of_current current
  generalize identity : { attempt with providerRequestId := event.ledger.providerRequestId } = identified
  have resumed : (effect.resume identified).currentAttempt = some { identified with failure := .none } :=
    effect.currentAttempt_withAttempt _
  have known : identified.providerRequestId ≠ "" := identity ▸ named
  have sameOutput : identified.hadOutput = attempt.hadOutput := identity ▸ rfl
  have sameReceipt : identified.negotiation = attempt.negotiation := identity ▸ rfl
  by_cases requested : effect.cancellationRequested = true
  · -- A requested cancellation goes on, whatever the attempt holds.
    have target : (effect.resume identified).state = .cancellationPending := by simp [resume, requested]
    refine iff_of_true ⟨.inl rfl, ?_⟩ ?_
    · rw [target]
      exact ⟨isSome_iff_exists.mpr ⟨_, resumed⟩, output, requested⟩
    · simp [fits_iff, recorded, uncancelled, NeedsReceipt, kind, status, requested]
  have unrequested : effect.cancellationRequested = false := by simpa using requested
  have fits : effect.Fits gateway event ↔ identified.negotiation ≠ .zero ∧ (effect.state ≠ .dispatching →
      attempt.hadOutput = true → effect.chunkCount ≠ 0 ∧ effect.streamBytes ≠ 0) := by
    rw [fits_iff, recorded, latest, sameReceipt]
    rcases state with state | state | state | state <;>
      simp [uncancelled, NeedsReceipt, kind, status, state, unrequested]
  by_cases streamed : attempt.hadOutput = true
  · have late : effect.state ≠ .dispatching := by
      intro dispatching
      have shape := valid.shape
      rw [dispatching] at shape
      obtain ⟨_, found, -, silent, -⟩ := shape
      cases found.symm.trans current
      simp [streamed] at silent
    have target : (effect.resume identified).state = .streaming := by
      simp [resume, unrequested, sameOutput, streamed]
    rw [Shaped, target, fits]
    constructor
    · rintro ⟨-, _, found, -, -, -, receipt, chunks, bytes, -⟩
      cases found.symm.trans resumed
      exact ⟨receipt, fun _ _ => ⟨chunks, bytes⟩⟩
    · rintro ⟨receipt, accounted⟩
      obtain ⟨chunks, bytes⟩ := accounted late streamed
      exact ⟨.inl rfl, _, resumed, known, sameOutput.trans streamed, rfl, receipt, chunks, bytes, output, unrequested⟩
  · have silent : attempt.hadOutput = false := by simpa using streamed
    have target : (effect.resume identified).state = .dispatched := by
      simp [resume, unrequested, sameOutput, silent]
    rw [Shaped, target, fits]
    constructor
    · rintro ⟨-, _, found, -, -, -, receipt, -⟩
      cases found.symm.trans resumed
      exact ⟨receipt, fun _ output => absurd output streamed⟩
    · rintro ⟨receipt, -⟩
      exact ⟨.inl rfl, _, resumed, known, sameOutput.trans silent, rfl, receipt, output, unrequested⟩

theorem Effect.isSome_currentAttempt (effect : Effect) :
    effect.currentAttempt.isSome = true ↔ effect.attempts ≠ [] := by
  simp [currentAttempt]

/-- A cancellation that goes to the provider needs an attempt to cancel. -/
theorem Effect.cancelSent_fits_iff (valid : gateway.ValidEffect effect)
    (kind : event.kind = .cancelRequested) (cancellable : effect.Cancellable)
    (output : effect.output = []) :
    Effect.Shaped { effect with cancellationRequested := true, state := .cancellationPending } gateway ↔
      effect.Fits gateway event := by
  have reason := valid.progress.2.2.2.2.2.2.2.2.2.2.2
  have shape := valid.shape
  have uncancelled : ¬ effect.Cancels event := by
    rintro (⟨-, state, failure⟩ | ⟨other, -⟩ | ⟨-, ⟨other, -⟩ | ⟨other, -⟩⟩)
    · simp only [Cancellable, state, reduceCtorEq, false_or, and_false, false_and, or_false,
        exists_false, true_and] at cancellable
      obtain ⟨attempt, current, sent, present⟩ := cancellable
      rw [latestAttempt_of_current current] at failure
      exact failure.elim sent present
    all_goals simp [kind] at other
  have attempted : effect.attempts ≠ [] ∨ effect.state = .uncertain ∨ effect.state = .needsConfirmation := by
    rw [← effect.isSome_currentAttempt, isSome_iff_exists]
    rcases cancellable with state | state | state | state | state | ⟨attempt, current, -⟩ | ⟨attempt, current, -⟩
    · rw [state] at shape
      exact .inl ⟨shape.choose, shape.choose_spec.1⟩
    · rw [state] at shape
      exact .inl ⟨shape.choose, shape.choose_spec.1⟩
    · rw [state] at shape
      exact .inl ⟨shape.choose, shape.choose_spec.1⟩
    · exact .inr (.inl state)
    · exact .inr (.inr state)
    · exact .inl ⟨attempt, current⟩
    · exact .inl ⟨attempt, current⟩
  constructor
  · rintro ⟨-, some, -, -⟩
    have present : effect.attempts ≠ [] := effect.isSome_currentAttempt.mp some
    simp [fits_iff, recordedReason, NeedsReceipt, uncancelled, kind, present]
  · intro fits
    refine ⟨reason, effect.isSome_currentAttempt.mpr ?_, output, rfl⟩
    exact attempted.elim id (fits.attempted kind)

theorem Classified.unresolved
    (outcome : Classified effect attempt reason failure next) : effect.state.unresolvable = true := by
  cases outcome with
  | notSent state => simp [state, State.unresolvable]
  | rejected state => rcases state with state | state <;> simp [state, State.unresolvable]
  | absentFailed state => simp [state, State.unresolvable]
  | absentRequested state | unknownRequested state | unknownStreamed state => exact state
  | replayable undecided | unreplayable undecided | confirmable undecided => exact undecided.state

theorem Effect.observable_unresolved (observable : effect.observable = true) : effect.state.unresolvable = true := by
  cases state : effect.state <;> simp_all [Effect.observable, State.unresolvable]

/-- Apart from the settlement, every move starts where no result is committed. -/
theorem Moved.output_nil (moved : Moved gateway effect event transition)
    (valid : gateway.ValidEffect effect) (unsettled : event.kind ≠ .settlementCompleted) :
    effect.output = [] := by
  have unresolved (state : effect.state.unresolvable = true) : effect.output = [] := by
    apply valid.output_nil <;> rintro other <;> simp [other, State.unresolvable] at state
  cases moved with
  | settled kind => exact absurd kind unsettled
  | classified _ _ _ outcome => exact unresolved outcome.unresolved
  | resumed _ _ observable | failedExternally _ _ observable =>
    exact unresolved (observable_unresolved observable)
  | recordCommitted commits =>
    rcases commits with ⟨-, -, state⟩ | ⟨-, observable⟩
    · exact unresolved (by simp [state, State.unresolvable])
    · exact unresolved (observable_unresolved observable)
  | cancelSent _ cancellable =>
    apply valid.output_nil <;> intro other <;> simp [Cancellable, other] at cancellable
  | dispatched _ state | cancelledAtOnce _ state | identified _ _ _ state | negotiated _ _ state
  | accepted _ _ state | streamed _ _ state | committed _ _ state | cancelConfirmed _ _ state
  | cancelUnknown _ _ state | confirmed _ _ state | abandoned _ _ state =>
    apply valid.output_nil <;> intro other <;> simp [other] at state

/-- A move leads to an effect of the shape of its state exactly when the effect fits the event. -/
theorem Moved.shaped_iff (moved : Moved gateway effect event transition)
    (valid : gateway.ValidEffect effect) (checked : gateway.ValidEvent event) :
    transition.effect.Shaped gateway ↔ effect.Fits gateway event := by
  by_cases plain : event.kind = .beginDispatch ∨ event.kind = .negotiationRecorded ∨
    event.kind = .providerAccepted ∨ event.kind = .outputChunk ∨ event.kind = .settlementCompleted
  · exact iff_of_true (moved.shaped_of_call valid checked plain) (fits_of_kind plain)
  have output : effect.output = [] := moved.output_nil valid fun kind => plain (by simp [kind])
  -- A reason that the machine writes is printable, so it fits when it is short enough.
  have written (reason : String) (recorded : event.recordedReason effect = reason)
      (fits : effect.Fits gateway event ↔ (event.recordedReason effect).utf8ByteSize ≤ gateway.bounds.maxFailureBytes) :
      effect.Fits gateway event ↔ OptionalText reason gateway.bounds.maxFailureBytes := by
    rw [fits, ← recorded, recordedReason_optional]
  cases moved with
  | dispatched kind | negotiated kind | accepted kind | streamed kind | settled kind =>
    exact absurd (by simp [kind]) plain
  | classified given _ _ outcome => exact outcome.fits_iff given valid checked output
  | @committed attempt kind current state late identified =>
    have fits : effect.Fits gateway event ↔ attempt.negotiation ≠ .zero := by
      simp [fits_iff, recordedReason, NeedsReceipt, Cancels, kind, latestAttempt_of_current current]
    rw [fits]
    constructor
    · rintro ⟨-, _, found, -, -, receipt, -⟩
      cases found.symm.trans current
      exact receipt
    · exact fun receipt => ⟨.inl rfl, _, current, (checked.output kind).1, rfl, receipt, identified⟩
  | @recordCommitted attempt commits current record status =>
    have fits : effect.Fits gateway event ↔ attempt.negotiation ≠ .zero := by
      rcases commits with ⟨kind, answer, -⟩ | ⟨kind, -⟩ <;>
        simp [fits_iff, recordedReason, NeedsReceipt, Cancels, latestAttempt_of_current current, *]
    rw [fits]
    have learned := effect.currentAttempt_withAttempt (attempt.learn event.ledger)
    constructor
    · rintro ⟨-, _, found, -, -, receipt, -⟩
      cases found.symm.trans learned
      exact receipt
    · intro receipt
      obtain ⟨-, -, -, -, -, -, shape⟩ := record
      rw [status] at shape
      obtain ⟨present, -, named⟩ := shape
      refine ⟨.inl rfl, _, learned, present, rfl, receipt, ?_⟩
      rintro ⟨unnamed, uncommitted⟩
      refine named ⟨?_, uncommitted⟩
      by_contra known
      simp only [learn] at unnamed
      split at unnamed
      · exact known unnamed
      next other => exact other unnamed
  | cancelledAtOnce kind unsent =>
    rcases unsent with state | ⟨state, attempt, current, evidence⟩
    · have shape := valid.shape
      rw [state] at shape
      refine iff_of_true ⟨.inl rfl, output, shape.2.2.2.2.2.1, rfl, rfl⟩ ?_
      simp [fits_iff, recordedReason, NeedsReceipt, Cancels, kind, state]
    · have fits : effect.Fits gateway event ↔ effect.externalCommitId = "" := by
        simp [fits_iff, recordedReason, NeedsReceipt, Cancels, kind, state, latestAttempt_of_current current, evidence]
      rw [fits]
      exact ⟨fun shaped => shaped.2.2.1, fun uncommitted => ⟨.inl rfl, output, uncommitted, rfl, rfl⟩⟩
  | cancelSent kind cancellable => exact cancelSent_fits_iff valid kind cancellable output
  | cancelConfirmed kind _ state answer =>
    have shape := valid.shape
    rw [state] at shape
    have fits : effect.Fits gateway event ↔ effect.externalCommitId = "" := by
      rcases answer with answer | ⟨answer, -⟩ <;>
        simp [fits_iff, recordedReason, NeedsReceipt, Cancels, kind, answer]
    rw [fits]
    exact ⟨fun shaped => shaped.2.2.1, fun uncommitted => ⟨.inl rfl, output, uncommitted, rfl, shape.2.2⟩⟩
  | @cancelUnknown attempt kind current state answer =>
    rw [written cancellationUnknownReason (by simp [recordedReason, kind, answer])
      (by simp [fits_iff, NeedsReceipt, Cancels, kind, answer])]
    have present : cancellationUnknownReason ≠ "" := by decide
    refine and_iff_left ?_
    rcases (effect.classified attempt .unknown cancellationUnknownReason).held_state with next | next <;>
      simp only [quiet, next] <;> exact ⟨present, output⟩
  | resumed kind status _ current state named =>
    exact resume_fits_iff valid kind status current output state named
  | @identified attempt kind status current state named =>
    refine iff_of_true ⟨valid.progress.2.2.2.2.2.2.2.2.2.2.2, ?_⟩ ?_
    · have shape := valid.shape
      have learned := effect.currentAttempt_withAttempt
        { attempt with providerRequestId := event.ledger.providerRequestId }
      rcases state with state | state | state <;> rw [state] at shape <;> simp only [quiet, withAttempt, state]
      · obtain ⟨_, found, -, rest⟩ := shape
        cases found.symm.trans current
        exact ⟨_, learned, named, rest⟩
      · obtain ⟨_, found, -, rest⟩ := shape
        cases found.symm.trans current
        exact ⟨_, learned, named, rest⟩
      · exact ⟨isSome_iff_exists.mpr ⟨_, learned⟩, shape.2⟩
    · rcases state with state | state | state <;>
        simp [fits_iff, recordedReason, NeedsReceipt, Cancels, kind, status, state]
  | failedExternally kind status observable current =>
    rw [written externalFailedReason (by simp [recordedReason, kind, status])
      (by simp [fits_iff, NeedsReceipt, Cancels, kind, status])]
    have present : externalFailedReason ≠ "" := by decide
    exact and_iff_left ⟨present, output⟩
  | confirmed kind decision state policy room =>
    have present : confirmationRetryReason ≠ "" := by decide
    have fits : effect.Fits gateway event ↔ OptionalText confirmationRetryReason gateway.bounds.maxFailureBytes ∧
        effect.latestAttempt.failure ≠ .none := by
      rw [optionalText_iff (by decide +kernel)]
      simp [fits_iff, recordedReason, NeedsReceipt, Cancels, kind, decision]
    rw [fits]
    refine and_congr_right fun _ => ⟨?_, fun failed => ?_⟩
    · rintro ⟨attempt, current, failed, -⟩
      have latest : effect.latestAttempt = attempt := latestAttempt_of_current current
      rwa [latest]
    · cases current : effect.currentAttempt with
      | none => simp [latestAttempt, current, fresh] at failed
      | some attempt =>
        rw [latestAttempt_of_current current] at failed
        exact ⟨attempt, current, failed, present, output, rfl⟩
  | abandoned kind decision state policy =>
    have unknown : confirmationAbandonUnknownReason ≠ "" := by decide
    have declined : confirmationDeclinedReason ≠ "" := by decide
    rw [written _ rfl (by simp [fits_iff, NeedsReceipt, Cancels, kind, decision])]
    cases requested : effect.cancellationRequested <;> simp only [recordedReason, kind, decision, requested]
    · exact and_iff_left ⟨declined, output⟩
    · exact and_iff_left ⟨unknown, output⟩

end Shape

/-- The effect that an accepted event leaves is accepted again exactly when the event closes. -/
theorem apply_closed_iff {digestCanonicalCall : CallDigest} {configuration : Configuration}
    {dependencies : Dependencies} {verifiedProduction : Bool}
    (built : newGateway digestCanonicalCall configuration dependencies verifiedProduction = .ok gateway)
    (accepted : gateway.apply effect event = .ok transition) :
    gateway.validateEffect transition.effect = .ok () ↔ Closes gateway effect event := by
  obtain ⟨validated, checked, -, moved, move, reserve, rfl⟩ := gateway.apply_applied accepted
  have valid := gateway.validateEffect_valid validated
  rw [(newGateway_configured built).validateEffect_ok_iff, move.valid_iff valid checked reserve,
    move.shaped_iff valid checked]
  rfl

/-- The ledger of the sample server has the call in flight. -/
def inflightReport (revision : Nat) : Event :=
  { Event.plain revision .recoveryObserved with
    ledger := { LedgerRecord.zero with
      invocationId := sampleScope.invocationId, requestDigest := 1, status := .inflight
      providerRequestId := "x" } }

/-- The recovery of a dispatch whose negotiation was never recorded. -/
def unnegotiatedRun : List Application × Effect :=
  sampleRun (sampleBounds 64 4 64) (sampleTool .never 0 0) true [.plain 1 .beginDispatch, inflightReport 2]

/-- A recovery before the negotiation strands the effect: it is dispatched without a receipt. -/
theorem recovery_strands : newGateway sampleDigest (sampleConfiguration (sampleBounds 64 4 64) (sampleTool .never 0 0))
        sampleDependencies false = .ok (sampleGateway (sampleBounds 64 4 64) (sampleTool .never 0 0)) ∧
      (sampleGateway (sampleBounds 64 4 64) (sampleTool .never 0 0)).Run
        (sampleEffect (sampleTool .never 0 0) true) unnegotiatedRun.1 unnegotiatedRun.2 ∧
      unnegotiatedRun.2.state = .dispatched ∧
      (sampleGateway (sampleBounds 64 4 64) (sampleTool .never 0 0)).validateEffect unnegotiatedRun.2 =
        .error ↑GatewayError.invalidRequest := by
  refine ⟨rfl, sampleRun_run ?_, ?_, ?_⟩
  · decide +kernel
  · decide +kernel
  · decide +kernel

/-- The first dispatch of the sample call closes. -/
theorem apply_closed_iff_begin :
    (sampleGateway (sampleBounds 64 4 64) (sampleTool .never 0 0)).validateEffect
        (sampleRun (sampleBounds 64 4 64) (sampleTool .never 0 0) true [.plain 1 .beginDispatch]).2 = .ok () ∧
      Closes (sampleGateway (sampleBounds 64 4 64) (sampleTool .never 0 0))
        (sampleEffect (sampleTool .never 0 0) true) (.plain 1 .beginDispatch) :=
  have closed := apply_closed_iff
    (show newGateway sampleDigest (sampleConfiguration (sampleBounds 64 4 64) (sampleTool .never 0 0))
      sampleDependencies false = .ok (sampleGateway (sampleBounds 64 4 64) (sampleTool .never 0 0)) from rfl)
    (show (sampleGateway (sampleBounds 64 4 64) (sampleTool .never 0 0)).apply
        (sampleEffect (sampleTool .never 0 0) true) (.plain 1 .beginDispatch) =
      .ok ⟨(sampleRun (sampleBounds 64 4 64) (sampleTool .never 0 0) true [.plain 1 .beginDispatch]).2,
        some ((sampleEffect (sampleTool .never 0 0) true).dispatchCommand 1), none⟩ by decide +kernel)
  ⟨by decide +kernel, closed.mp (by decide +kernel)⟩

end Circulusd.Mcp
