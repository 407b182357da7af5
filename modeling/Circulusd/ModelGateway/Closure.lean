import Circulusd.ModelGateway.Moves

/-
When the effect that an accepted event leaves is again one that the gateway accepts.
-/

namespace Circulusd.ModelGateway

open Checked Effect Gateway Platform List Option

variable {gateway : Gateway} {codec : Codec} {effect next : Effect} {event : Event} {eventBytes : Nat}

/-- The events after which the gateway still accepts the effect: no permit of a cancellation is held,
an uncertain effect that is observed again has its provider request, a recovered effect is neither
cancelled nor sent back for a retry, and a prevented dispatch left no failure behind. -/
structure Closes (effect : Effect) (event : Event) : Prop where
  unpermitted : effect.cancellationPermit = default
  identified : effect.state = .uncertain → event.kind = .delta ∨ event.kind = .responseCompleted →
    effect.providerRequestId ≠ ""
  unrecovered : event.kind = .cancelRequested → effect.recoveryPermit = default
  unretried : event.kind = .dispatchFailed → event.failure = .preDispatch → event.Recovers →
    effect.maxPreDispatchRetries < effect.attempt
  clean : event.kind = .cancellationResolved → event.cancellation.dispatchPrevented = true → effect.failureReason = ""

/-- Only a cancelled or uncertain effect holds the permit of a cancellation. -/
theorem Effect.ShapeOf.unpermitted {state : State} (shape : effect.ShapeOf state)
    (open_ : state ≠ .cancelled) (known : state ≠ .uncertain) : effect.cancellationPermit = default := by
  cases state <;> simp_all [ShapeOf]

/-- A move leaves what admission fixed and the counts. -/
theorem Moved.frame (moved : Moved gateway codec effect event eventBytes next) :
    next.toEffectIdentity = effect.toEffectIdentity ∧ next.revision = effect.revision ∧
      next.eventCount = effect.eventCount ∧ next.eventBytes = effect.eventBytes := by
  cases moved <;> exact ⟨rfl, rfl, rfl, rfl⟩

section

variable (observing : effect.Observing event) (shape : effect.ShapeOf effect.state)
include observing shape

/-- An observed effect is not cancelled, and it is uncertain only under a recovery. -/
theorem Effect.Observing.cases :
    effect.cancellationPermit = default ∧ effect.providerRequestId ≠ "" ∧ effect.failureReason = "" ∧
        effect.outcome = .none ∨
      effect.state = .uncertain ∧ event.Recovers := by
  rcases observing with state | state | uncertain
  · rw [state] at shape
    obtain ⟨outcome, -, request, -, reason, -, permit, -⟩ := shape
    exact .inl ⟨permit, request, reason, outcome⟩
  · rw [state] at shape
    obtain ⟨outcome, -, request, -, reason, -, permit⟩ := shape
    exact .inl ⟨permit, request, reason, outcome⟩
  · exact .inr uncertain

theorem Effect.Observing.attempted : effect.attempt ≠ 0 := by
  rcases observing with state | state | ⟨state, -⟩ <;> rw [state] at shape <;> exact shape.2.1

theorem Effect.Observing.identified (found : effect.state = .uncertain → effect.providerRequestId ≠ "") :
    effect.providerRequestId ≠ "" := by
  rcases observing.cases shape with ⟨-, request, -⟩ | ⟨state, -⟩
  · exact request
  · exact found state

theorem Effect.Observing.reopened : (effect.recovered event).outcome = .none := by
  change (if event.Recovers then .none else effect.outcome) = Outcome.none
  rcases observing.cases shape with ⟨-, -, -, outcome⟩ | ⟨-, recovers⟩
  · rw [outcome, ite_self]
  · rw [if_pos recovers]

theorem Effect.Observing.cleared : (effect.recovered event).failureReason = "" := by
  change (if event.Recovers then "" else effect.failureReason) = ""
  rcases observing.cases shape with ⟨-, -, reason, -⟩ | ⟨-, recovers⟩
  · rw [reason, ite_self]
  · rw [if_pos recovers]

end

theorem Effect.failing_recovered (recovers : event.Recovers) :
    (effect.failing (gateway.reported event)).recoveryPermit ≠ default := by
  change (if event.Recovers then event.recovery else effect.recoveryPermit) ≠ default
  rw [if_pos recovers]
  exact recovers

section Necessary

variable (moved : Moved gateway codec effect event eventBytes next) (shaped : next.ShapeOf next.state)

include moved shaped

theorem Moved.unpermitted (shape : effect.ShapeOf effect.state) : effect.cancellationPermit = default := by
  cases moved with
  | begun _ state | withdrawn _ state =>
    rcases state with state | state <;> exact shape.unpermitted (by simp [state]) (by simp [state])
  | accepted _ state | retried _ _ state | prevented _ state | unresolved _ state =>
    exact shape.unpermitted (by simp [state]) (by simp [state])
  | cancelling _ state =>
    rcases state with state | state | state <;> exact shape.unpermitted (by simp [state]) (by simp [state])
  | streamed => exact shaped.2.2.2.2.2.2
  | completed => exact shaped.2.2.2.2.2
  | failed => exact shaped.2.2.2.2.2
  | lost _ _ state =>
    obtain ⟨-, -, -, -, -, single⟩ := shaped
    rcases state with state | observing
    · exact shape.unpermitted (by simp [state]) (by simp [state])
    · rcases observing.cases shape with ⟨permit, -⟩ | ⟨-, recovers⟩
      · exact permit
      · exact single.resolve_right (failing_recovered recovers)

theorem Moved.identified (observed : event.kind = .delta ∨ event.kind = .responseCompleted) :
    effect.providerRequestId ≠ "" := by
  cases moved with
  | streamed => exact shaped.2.2.1
  | completed => exact shaped.2.2.1
  | begun kind | accepted kind | retried kind | failed kind | lost kind | withdrawn kind | cancelling kind
  | prevented kind | unresolved kind => simp [kind] at observed

theorem Moved.unrecovered (cancelled : event.kind = .cancelRequested) : effect.recoveryPermit = default := by
  cases moved with
  | withdrawn => exact shaped.2.2.2.2.2.1
  | cancelling => exact shaped.2.2.2.2.2
  | begun kind | accepted kind | streamed kind | completed kind | retried kind | failed kind | lost kind
  | prevented kind | unresolved kind => simp [kind] at cancelled

theorem Moved.unretried (kind : event.kind = .dispatchFailed) (failure : event.failure = .preDispatch)
    (recovers : event.Recovers) : effect.maxPreDispatchRetries < effect.attempt := by
  cases moved with
  | retried =>
    obtain ⟨-, -, -, -, -, -, -, unrecovered⟩ := shaped
    exact absurd unrecovered (failing_recovered recovers)
  | failed _ _ _ _ spent => exact spent failure
  | lost _ other => simp [failure] at other
  | begun other | accepted other | streamed other | completed other | withdrawn other | cancelling other
  | prevented other | unresolved other => simp [kind] at other

theorem Moved.clean (kind : event.kind = .cancellationResolved)
    (proven : event.cancellation.dispatchPrevented = true) : effect.failureReason = "" := by
  cases moved with
  | prevented => exact shaped.2.2.2.1
  | unresolved _ _ _ unproven => simp [proven] at unproven
  | begun other | accepted other | streamed other | completed other | retried other | failed other
  | lost other | withdrawn other | cancelling other => simp [kind] at other

/-- A move that leaves an effect in the shape of its state closes. -/
theorem Moved.closes (shape : effect.ShapeOf effect.state) : Closes effect event where
  unpermitted := moved.unpermitted shaped shape
  identified _ observed := moved.identified shaped observed
  unrecovered kind := moved.unrecovered shaped kind
  unretried kind failure recovers := moved.unretried shaped kind failure recovers
  clean kind proven := moved.clean shaped kind proven

end Necessary

/-- No state that moves is an admitted one afterwards, so its shape does not count events. -/
theorem Moved.shape_counted (moved : Moved gateway codec effect event eventBytes next) :
    (next.counted eventBytes).ShapeOf next.state ↔ next.ShapeOf next.state := by
  cases moved <;> exact Iff.rfl

theorem utf8ByteSize_replicate_question (count : Nat) :
    (String.ofList (List.replicate count '?')).utf8ByteSize = count := by
  induction count with
  | zero => rfl
  | succ count ih =>
    rw [replicate_succ, String.ofList_cons, String.utf8ByteSize_append,
      String.utf8ByteSize_singleton, ih, Nat.add_comm]
    rfl

/-- A reason that the gateway writes itself is within its bound. -/
theorem Gateway.normalizedFailureReason_text (bounds : gateway.bounds.Valid) (failure : FailureClass) :
    ValidBoundedText (gateway.normalizedFailureReason failure) gateway.bounds.maxReasonBytes := by
  obtain ⟨-, -, -, -, -, -, -, ⟨events, -⟩, -, -, -, ⟨reasons, -⟩, -⟩ := bounds
  unfold normalizedFailureReason
  dsimp only
  split
  case isTrue =>
    refine ⟨fun empty => ?_, ?_, ?_⟩
    · have size := utf8ByteSize_replicate_question (min gateway.bounds.maxReasonBytes gateway.bounds.maxEventBytes)
      rw [empty, show ("" : String).utf8ByteSize = 0 from rfl] at size
      omega
    · rw [utf8ByteSize_replicate_question]
      exact min_le_left _ _
    · rw [String.toList_ofList, any_replicate]
      split <;> decide
  case isFalse short =>
    refine ⟨?_, by omega, ?_⟩ <;> cases failure <;> simp only [FailureClass.reason] <;> decide

theorem Gateway.normalizedFailureReason_valid (bounds : gateway.bounds.Valid) (known : event.failure ∈ failureClasses) :
    gateway.ValidFailureReason (gateway.normalizedFailureReason event.failure) :=
  ⟨(gateway.normalizedFailureReason_text bounds _).optional, .inr ⟨event.failure, known, rfl⟩⟩

theorem Gateway.validFailureReason_empty : gateway.ValidFailureReason "" :=
  ⟨.inl rfl, .inl rfl⟩

theorem ValidCancellationPermit.carried {permit : CancellationPermit} (valid : ValidCancellationPermit effect permit)
    (unpermitted : effect.cancellationPermit = default) (held : next.cancellationPermit = permit)
    (present : permit ≠ default) (identity : next.toEffectIdentity = effect.toEffectIdentity)
    (request : next.providerRequestId = effect.providerRequestId) (attempt : next.attempt = effect.attempt)
    (revision : next.revision = effect.revision) : ValidCancellationPermit (next.counted eventBytes) permit := by
  -- Both effects are about the same identity, so the checks on it are the same.
  rcases effect with ⟨base⟩
  rcases next with ⟨other⟩
  obtain rfl : other = base := identity
  obtain ⟨durable, proof, effectId, invocation, digest, provider, sent, tried, bound, scope, set⟩ := valid
  have current := bound.resolve_right fun other => other.1 unpermitted
  refine ⟨durable, proof, effectId, invocation, digest, provider, sent.trans request.symm, tried.trans attempt.symm,
    .inr ⟨fun none => present (held.symm.trans none), held.symm, ?_, ?_⟩, scope, set⟩
  · exact Nat.lt_succ_of_le (current.trans revision.symm).le
  · exact congrArg (· + 1) (current.trans revision.symm)

theorem ValidResumePermit.carried {permit : ResumePermit} (valid : ValidResumePermit effect permit)
    (held : next.recoveryPermit = permit) (present : permit ≠ default)
    (identity : next.toEffectIdentity = effect.toEffectIdentity)
    (request : next.providerRequestId = effect.providerRequestId) (attempt : next.attempt = effect.attempt) :
    ValidResumePermit (next.counted eventBytes) permit := by
  rcases effect with ⟨base⟩
  rcases next with ⟨other⟩
  obtain rfl : other = base := identity
  obtain ⟨durable, proof, origin, effectId, invocation, digest, provider, sent, tried, -, scope, set⟩ := valid
  exact ⟨durable, proof, origin, effectId, invocation, digest, provider, sent.trans request.symm,
    tried.trans attempt.symm, .inr ⟨fun none => present (held.symm.trans none), held.symm⟩, scope, set⟩

/-- The permit of a cancellation is the event's, or there is none. -/
theorem Effect.resolving_permit (unpermitted : effect.cancellationPermit = default) :
    (effect.resolving event).cancellationPermit = event.cancellation := by
  change (if event.cancellation ≠ default then event.cancellation else effect.cancellationPermit) = _
  split
  case isTrue => rfl
  case isFalse absent => rw [unpermitted, not_not.mp absent]

section Sufficient

variable (step : gateway.Stepped codec effect event eventBytes next)

include step

theorem Gateway.Stepped.progress : gateway.ValidProgress (next.counted eventBytes) := by
  obtain ⟨-, revision, -, bytes, streamed, attempt⟩ := step.accepts.progress
  obtain ⟨identity, sameRevision, sameCount, sameBytes⟩ := step.moved.frame
  have room := step.room
  have size := step.size
  have stream : next.streamBytes ≤ gateway.bounds.maxStreamBytes := by
    cases step.moved with
    | streamed _ _ _ room =>
      change effect.streamBytes + event.delta.utf8ByteSize ≤ gateway.bounds.maxStreamBytes
      omega
    | _ => exact streamed
  have limited : next.attempt ≤ next.attemptLimit := by
    cases step.moved with
    | begun _ _ attempt => exact attempt
    | _ => exact attempt
  refine ⟨Nat.succ_ne_zero _, ?_, ?_, ?_, stream, limited⟩
  · change next.revision + 1 = next.eventCount + 1 + 1
    omega
  · change next.eventCount + 1 ≤ gateway.bounds.maxEvents
    omega
  · change next.eventBytes + eventBytes ≤ (next.eventCount + 1) * gateway.bounds.maxEventBytes
    rw [sameBytes, sameCount, Nat.succ_mul]
    omega

theorem Gateway.Stepped.headroom (bounds : gateway.bounds.Valid) :
    (next.counted eventBytes).eventBytes ≤ maxUint64 - gateway.bounds.maxEventBytes := by
  obtain ⟨-, -, count, bytes, -⟩ := step.progress
  obtain ⟨-, -, -, -, -, -, -, ⟨-, eventCeiling⟩, ⟨-, countCeiling⟩, -⟩ := bounds
  have total : (next.counted eventBytes).eventCount * gateway.bounds.maxEventBytes ≤
      hardMaxEvents * hardMaxEventBytes := Nat.mul_le_mul (count.trans countCeiling) eventCeiling
  have fits : hardMaxEvents * hardMaxEventBytes + hardMaxEventBytes ≤ maxUint64 := by decide
  omega

theorem Gateway.Stepped.providerRequest : OptionalText next.providerRequestId gateway.bounds.maxProviderRequestIdBytes ∧
      next.providerRequestId.utf8ByteSize ≤ gateway.bounds.maxEventBytes := by
  have held := step.accepts.providerRequest
  have size := step.size
  cases step.moved with
  | accepted _ _ text => exact ⟨text.optional, size⟩
  | _ => exact held

theorem Gateway.Stepped.streamed : next.partialOutput = true ↔ next.streamBytes ≠ 0 := by
  have held := step.accepts.streamed
  cases step.moved with
  | streamed _ _ delta =>
    have present : event.delta.utf8ByteSize ≠ 0 := by simpa using delta
    refine ⟨fun _ => ?_, fun _ => rfl⟩
    change effect.streamBytes + event.delta.utf8ByteSize ≠ 0
    omega
  | _ => exact held

theorem Gateway.Stepped.failure (bounds : gateway.bounds.Valid) : gateway.ValidFailureReason next.failureReason := by
  have held := step.accepts.failure
  cases step.moved with
  | begun | withdrawn => exact gateway.validFailureReason_empty
  | retried _ failure =>
    exact gateway.normalizedFailureReason_valid bounds (by simp [failure, failureClasses])
  | failed _ failure => exact gateway.normalizedFailureReason_valid bounds failure
  | lost _ failure =>
    refine gateway.normalizedFailureReason_valid bounds ?_
    rcases failure with failure | failure <;> simp [failure, failureClasses]
  | streamed | completed =>
    change gateway.ValidFailureReason (if event.Recovers then "" else effect.failureReason)
    split
    case isTrue => exact gateway.validFailureReason_empty
    case isFalse => exact held
  | accepted | cancelling | prevented | unresolved => exact held

/-- The permit of a recovery is the event's, or there is none. -/
theorem Gateway.Stepped.recovery_of_observed (observes : event.kind.observes = true)
    (held : next.recoveryPermit = if event.Recovers then event.recovery else effect.recoveryPermit)
    (request : next.providerRequestId = effect.providerRequestId) (attempt : next.attempt = effect.attempt)
    (present : next.recoveryPermit ≠ default) :
    ValidResumePermit (next.counted eventBytes) next.recoveryPermit := by
  by_cases recovers : event.Recovers
  · rw [if_pos recovers] at held
    rw [held]
    exact (step.resumed recovers).carried held recovers step.moved.frame.1 request attempt
  · rw [if_neg recovers] at held
    exact absurd (step.continued (held ▸ present) observes) recovers

theorem Gateway.Stepped.recovery (closes : Closes effect event) (present : next.recoveryPermit ≠ default) :
    ValidResumePermit (next.counted eventBytes) next.recoveryPermit := by
  have shape := step.accepts.shape
  have observed := step.recovery_of_observed
  cases step.moved with
  | streamed kind | completed kind | retried kind | failed kind | lost kind =>
    exact observed (by rw [kind]; rfl) rfl rfl rfl present
  | withdrawn kind | cancelling kind => exact absurd (closes.unrecovered kind) present
  | begun _ state =>
    rcases state with state | state <;> rw [state] at shape
    · exact absurd shape.2.2.2.2.2.2.2.2 present
    · exact absurd shape.2.2.2.2.2.2.2 present
  | accepted _ state =>
    rw [state] at shape
    exact absurd shape.2.2.2.2.2.2.2 present
  | prevented _ state | unresolved _ state =>
    rw [state] at shape
    exact absurd shape.2.2.2.2.2 present

theorem Gateway.Stepped.cancellation (closes : Closes effect event) (present : next.cancellationPermit ≠ default) :
    ValidCancellationPermit (next.counted eventBytes) next.cancellationPermit := by
  have permit := @Effect.resolving_permit effect event closes.unpermitted
  cases step.moved with
  | prevented _ _ valid =>
    change (effect.resolving event).cancellationPermit ≠ default at present
    change ValidCancellationPermit _ (effect.resolving event).cancellationPermit
    rw [permit] at present ⊢
    exact valid.carried closes.unpermitted permit present rfl rfl rfl rfl
  | unresolved _ _ valid =>
    change (effect.resolving event).cancellationPermit ≠ default at present
    change ValidCancellationPermit _ (effect.resolving event).cancellationPermit
    rw [permit] at present ⊢
    exact (valid present).carried closes.unpermitted permit present rfl rfl rfl rfl
  | _ =>
    exact absurd closes.unpermitted present

/-- No effect that moves has its response yet. -/
theorem Gateway.Stepped.unanswered : effect.response = none := by
  have shape := step.accepts.shape
  have unfinished : effect.state ≠ .completed := by
    cases step.moved with
    | begun _ state | withdrawn _ state => rcases state with state | state <;> simp [state]
    | cancelling _ state => rcases state with state | state | state <;> simp [state]
    | accepted _ state | retried _ _ state | prevented _ state | unresolved _ state => simp [state]
    | streamed _ state | completed _ state | failed _ _ state =>
      rcases state with state | state | ⟨state, -⟩ <;> simp [state]
    | lost _ _ state => rcases state with state | state | state | ⟨state, -⟩ <;> simp [state]
  cases state : effect.state <;> simp_all [ShapeOf]

theorem Gateway.Stepped.textBytes_le : effect.textBytes ≤ effect.eventBytes := by
  obtain ⟨responseBytes, answered, bytes⟩ := step.accepts.accounted
  omega

/-- A response that an event completed passes the checks of a restored one. -/
theorem Gateway.Stepped.validateResponse_completed {response : ModelResponse} {calls : List ToolCall}
    {toolCallBytes textBytes : Nat} (admissible : gateway.Admissible codec response calls toolCallBytes)
    (bytes : response.bytes + toolCallBytes ≤ gateway.bounds.maxEventBytes)
    (bounds : gateway.bounds.Valid) (texts : textBytes ≤ effect.textBytes) :
    gateway.validateResponse codec effect.toEffectIdentity textBytes
      { response with
        toolCalls := calls
        usage := ⟨effect.contextTokens, effect.requestedOutputTokens⟩ } =
      .ok (response.bytes + toolCallBytes) := by
  obtain ⟨inContext, inTotal, output⟩ := validateIdentity_tokens step.accepts.identity
  have headroom := step.accepts.headroom
  have accounted := step.textBytes_le
  obtain ⟨-, -, -, -, -, -, -, ⟨-, eventCeiling⟩, -⟩ := bounds
  have fits : hardMaxEventBytes ≤ maxUint64 := by decide
  obtain ⟨text, finish, normalized, size⟩ := admissible
  have again := normalizeToolCalls_normalized normalized
  have valid : gateway.ValidResponse effect.toEffectIdentity { response with
      toolCalls := calls
      usage := ⟨effect.contextTokens, effect.requestedOutputTokens⟩ } :=
    ⟨text, finish.1, finish.2, rfl, inContext, le_refl _, inTotal, output⟩
  simp only [validateResponse, again, steps_ok, not_lt, not_true_eq_false, not_false_eq_true, true_and, not_or]
  refine ⟨le_refl _, valid, ?_, rfl⟩
  change toolCallBytes ≤ maxUint64 - response.bytes ∧ response.bytes + toolCallBytes ≤ gateway.bounds.maxResponseBytes ∧
    response.bytes + toolCallBytes ≤ maxUint64 - textBytes
  omega

theorem Gateway.Stepped.accounted (bounds : gateway.bounds.Valid) :
    ∃ responseBytes, gateway.accountResponse codec (next.counted eventBytes) = .ok responseBytes ∧
      next.textBytes + responseBytes ≤ effect.eventBytes + eventBytes := by
  have unanswered := step.unanswered
  have texts := step.textBytes_le
  have answer (same : next.response = effect.response) (bytes : next.textBytes ≤ effect.textBytes + eventBytes) :
      ∃ responseBytes, gateway.accountResponse codec (next.counted eventBytes) = .ok responseBytes ∧
        next.textBytes + responseBytes ≤ effect.eventBytes + eventBytes := by
    refine ⟨0, ?_, by omega⟩
    unfold accountResponse
    rw [show (next.counted eventBytes).response = none from same.trans unanswered]
    rfl
  -- An observation may clear the failure reason, so the texts shrink.
  have cleared : (if event.Recovers then "" else effect.failureReason).utf8ByteSize ≤
      effect.failureReason.utf8ByteSize := by
    split
    case isTrue => exact Nat.zero_le _
    case isFalse => exact le_refl _
  have shape := step.accepts.shape
  unfold textBytes at answer texts
  cases step.moved with
  | begun | withdrawn =>
    exact answer rfl (by
      change effect.streamBytes + effect.providerRequestId.utf8ByteSize + 0 ≤ _
      omega)
  | accepted _ state =>
    rw [state] at shape
    exact answer rfl (by
      change effect.streamBytes + event.providerRequestId.utf8ByteSize + effect.failureReason.utf8ByteSize ≤ _
      omega)
  | streamed =>
    exact answer rfl (by
      change effect.streamBytes + event.delta.utf8ByteSize + effect.providerRequestId.utf8ByteSize +
        (if event.Recovers then "" else effect.failureReason).utf8ByteSize ≤ _
      omega)
  | retried | failed | lost =>
    exact answer rfl (by
      change effect.streamBytes + effect.providerRequestId.utf8ByteSize +
        (gateway.reported event).reason.utf8ByteSize ≤ _
      omega)
  | cancelling | prevented | unresolved => exact answer rfl (Nat.le_add_right _ _)
  | completed _ _ admissible =>
    have shorter : effect.streamBytes + effect.providerRequestId.utf8ByteSize +
        (if event.Recovers then "" else effect.failureReason).utf8ByteSize ≤ effect.textBytes := by
      unfold textBytes
      omega
    refine ⟨_, step.validateResponse_completed admissible step.size bounds shorter, ?_⟩
    change effect.streamBytes + effect.providerRequestId.utf8ByteSize +
        (if event.Recovers then "" else effect.failureReason).utf8ByteSize + _ ≤ _
    omega

/-- A closing event leaves the effect in the shape of its state. -/
theorem Gateway.Stepped.shape (bounds : gateway.bounds.Valid) (closes : Closes effect event) :
    next.ShapeOf next.state := by
  have held := step.accepts.shape
  have unpermitted := closes.unpermitted
  have written := (gateway.normalizedFailureReason_text bounds event.failure).1
  have unrecovered (alone : event.kind.observes = true) (absent : ¬ event.Recovers) :
      effect.recoveryPermit = default := by
    by_contra present
    exact absent (step.continued present alone)
  cases step.moved with
  | begun _ state =>
    rcases state with state | state <;> rw [state] at held
    · obtain ⟨outcome, -, -, request, whole, -, response, cancellation, recovery⟩ := held
      exact ⟨outcome, Nat.succ_ne_zero _, request, whole, rfl, response, cancellation, recovery⟩
    · obtain ⟨outcome, -, request, whole, -, response, cancellation, recovery⟩ := held
      exact ⟨outcome, Nat.succ_ne_zero _, request, whole, rfl, response, cancellation, recovery⟩
  | accepted _ state text =>
    rw [state] at held
    obtain ⟨outcome, attempt, -, whole, reason, response, cancellation, recovery⟩ := held
    exact ⟨outcome, attempt, text.1, whole, reason, response, cancellation, recovery⟩
  | streamed kind observing =>
    have response := step.unanswered
    have attempt := Observing.attempted observing held
    refine ⟨?_, attempt, observing.identified held (closes.identified · (.inl kind)), rfl, ?_, response, unpermitted⟩
    · exact observing.reopened held
    · exact observing.cleared held
  | completed kind observing =>
    have attempt := Observing.attempted observing held
    exact ⟨rfl, attempt, observing.identified held (closes.identified · (.inr kind)), observing.cleared held,
      some_ne_none _, unpermitted⟩
  | retried kind failure state attempt =>
    rw [state] at held
    obtain ⟨outcome, tried, request, whole, -, response, -, recovery⟩ := held
    have alone : ¬ event.Recovers := fun recovers =>
      absurd (closes.unretried kind failure recovers) (not_lt.mpr attempt)
    refine ⟨outcome, tried, request, whole, written, response, unpermitted, ?_⟩
    change (if event.Recovers then event.recovery else effect.recoveryPermit) = default
    rw [if_neg alone, recovery]
  | failed _ _ state whole =>
    have attempt : effect.attempt ≠ 0 := by
      rcases state with state | state | ⟨state, -⟩ <;> rw [state] at held <;> exact held.2.1
    exact ⟨rfl, attempt, whole, written, step.unanswered, unpermitted⟩
  | lost _ _ state =>
    have response := step.unanswered
    have split : effect.attempt ≠ 0 ∧ ¬ (effect.partialOutput = true ∧ effect.providerRequestId = "") := by
      rcases state with state | state | state | ⟨state, -⟩ <;> rw [state] at held <;>
        simp only [ShapeOf] at held <;> simp_all
    exact ⟨rfl, split.1, response, split.2, .inl unpermitted, .inl unpermitted⟩
  | withdrawn _ state =>
    rcases state with state | state <;> rw [state] at held
    · obtain ⟨-, -, -, request, whole, -, response, cancellation, recovery⟩ := held
      exact ⟨rfl, request, whole, rfl, response, recovery, .inl cancellation⟩
    · obtain ⟨-, -, request, whole, -, response, cancellation, recovery⟩ := held
      exact ⟨rfl, request, whole, rfl, response, recovery, .inl cancellation⟩
  | cancelling kind state =>
    have recovery := closes.unrecovered kind
    have response := step.unanswered
    rcases state with state | state | state <;> rw [state] at held
    · obtain ⟨outcome, attempt, -, whole, -⟩ := held
      exact ⟨outcome, attempt, response, by simp [whole], unpermitted, recovery⟩
    · obtain ⟨outcome, attempt, request, -⟩ := held
      exact ⟨outcome, attempt, response, fun both => request both.2, unpermitted, recovery⟩
    · obtain ⟨outcome, attempt, request, -⟩ := held
      exact ⟨outcome, attempt, response, fun both => request both.2, unpermitted, recovery⟩
  | prevented kind state _ proven unsent =>
    rw [state] at held
    obtain ⟨-, -, response, -, -, recovery⟩ := held
    refine ⟨rfl, unsent.1, unsent.2, closes.clean kind proven, response, recovery, .inr ?_⟩
    change (effect.resolving event).cancellationPermit.dispatchPrevented = true
    rw [resolving_permit unpermitted, proven]
  | unresolved _ state _ unproven =>
    rw [state] at held
    obtain ⟨-, attempt, response, sent, -, recovery⟩ := held
    refine ⟨rfl, attempt, response, sent, .inr ?_, .inr recovery⟩
    change (effect.resolving event).cancellationPermit.dispatchPrevented = false
    rw [resolving_permit unpermitted, unproven]

end Sufficient

/-- An accepted event leaves an effect that the gateway accepts exactly when it closes. -/
theorem Gateway.Stepped.accepts_iff (step : gateway.Stepped codec effect event eventBytes next)
    (bounds : gateway.bounds.Valid) :
    gateway.Accepts codec (next.counted eventBytes) ↔ Closes effect event := by
  constructor
  · intro accepts
    exact step.moved.closes (step.moved.shape_counted.mp accepts.shape) step.accepts.shape
  · intro closes
    have identity : (next.counted eventBytes).toEffectIdentity = effect.toEffectIdentity :=
      step.moved.frame.1
    obtain ⟨responseBytes, answered, bytes⟩ := step.accounted bounds
    refine ⟨?_, ?_, step.progress, ?_, step.providerRequest, step.failure bounds, step.cancellation closes,
      step.recovery closes, step.streamed, ⟨responseBytes, answered, ?_⟩, step.headroom bounds,
      step.moved.shape_counted.mpr (step.shape bounds closes), step.reserved⟩
    · rw [identity]
      exact step.accepts.scope
    · rw [identity]
      exact step.accepts.digest
    · rw [identity]
      exact step.accepts.identity
    · change next.textBytes + responseBytes ≤ next.eventBytes + eventBytes
      rw [step.moved.frame.2.2.2]
      exact bytes

/-- After every event that the machine accepts, the gateway accepts the effect again exactly when the
event closes. -/
theorem applied_effect_accepted_iff (codec : Codec) {configuration : Configuration} {registry : List Registration}
    {gateway : Gateway} (configured : newGatewayConfiguration configuration registry = .ok gateway)
    {effect : Effect} {event : Event} {transition : Transition}
    (applied : gateway.apply codec effect event = .ok transition) :
    gateway.validateEffect codec transition.effect = .ok () ↔ Closes effect event := by
  obtain ⟨eventBytes, next, step, counted⟩ := apply_stepped applied
  rw [counted, validateEffect_ok_iff]
  exact step.accepts_iff (newGatewayConfiguration_bounds configured)

/-- One event after another, each on the effect that the one before left. -/
def Gateway.applyAll (gateway : Gateway) (codec : Codec) (effect : Effect) (events : List Event) :
    Except Refusal Effect :=
  events.foldlM (fun effect event => do
    let transition ← gateway.apply codec effect event
    pure transition.effect) effect

section Sample

def sampleScope : ValidatedAuthority where
  tenantId := ⟨some .tenant, "t"⟩
  userId := ⟨some .subject, "u"⟩
  sessionId := ⟨some .session, "s"⟩
  turnId := ⟨some .turn, "n"⟩
  effectId := ⟨some .effect, "e"⟩
  invocationId := ⟨some .invocation, "i"⟩
  runtimeRevision := ⟨some .runtimeRevision, "r"⟩
  generations := ⟨1, 1, 1⟩

def sampleCodec : Codec where
  normalized _ := true
  structuredDigest _ := .ok 1
  decodeToolArgumentJSON _ := .ok ()

def sampleConfiguration : Configuration where
  bounds := ⟨64, 4, 64, 64, 8, 8, 8, 64, 16, 64, 64, 64⟩
  grants := [⟨sampleScope.tenantId, sampleScope.userId, "m", "p", 8, 8, 16, 1⟩]
  streamCloseTimeout := 0

def sampleGateway : Gateway where
  bounds := sampleConfiguration.bounds
  streamCloseTimeout := defaultStreamCloseTimeout
  grants := sampleConfiguration.grants
  providers := ["p"]

def sampleEffect : Effect where
  scope := sampleScope
  requestDigest := 1
  request := ⟨"m", [⟨.user, "hi"⟩], 4, .default⟩
  providerId := "p"
  quotaPermit :=
    { reservationId := "q", durable := true, tenantId := sampleScope.tenantId, userId := sampleScope.userId
      effectId := sampleScope.effectId, invocationId := sampleScope.invocationId
      sessionId := sampleScope.sessionId, turnId := sampleScope.turnId
      runtimeRevision := sampleScope.runtimeRevision, generations := sampleScope.generations
      requestDigest := 1, contextTokens := 2, outputTokens := 4 }
  contextTokens := 2
  requestedOutputTokens := 4
  maxContextTokens := 8
  maxTotalTokens := 16
  maxPreDispatchRetries := 1
  durableRequestRetrieval := true
  state := .admitted
  outcome := .none
  revision := 1
  attempt := 0
  eventCount := 0
  eventBytes := 0
  streamBytes := 0
  providerRequestId := ""
  partialOutput := false
  failureReason := ""
  response := none
  cancellationPermit := default
  recoveryPermit := default

/-- The permit to resume the sample request after its transport was lost. -/
def samplePermit : ResumePermit where
  proof := 1
  durable := true
  originScope := sampleScope
  currentScope := sampleScope
  effectId := sampleScope.effectId
  invocationId := sampleScope.invocationId
  requestDigest := 1
  providerId := "p"
  providerRequestId := "x"
  attempt := 1
  effectRevision := 4

/-- The transport is lost after acceptance, and a recovery hears the provider again. -/
def recoveredRun : List Event :=
  [.plain 1 .beginDispatch, { Event.plain 2 .providerAccepted with providerRequestId := "x" },
    { Event.plain 3 .dispatchFailed with failure := .transportUnknown, reason := "lost" },
    { Event.plain 4 .delta with delta := "a", recovery := samplePermit }]

/-- The effect that the recovery leaves is streaming under its permit. -/
def recoveredEffect : Effect :=
  { sampleEffect with
    state := .streaming, revision := 5, attempt := 1, eventCount := 4, eventBytes := 35
    streamBytes := 1, providerRequestId := "x", partialOutput := true, recoveryPermit := samplePermit }

/-- A cancellation of a recovered stream is accepted and leaves an effect that the gateway refuses. -/
theorem cancellation_strands_recovery : newGatewayConfiguration sampleConfiguration [⟨"p", false⟩] = .ok sampleGateway ∧
      sampleGateway.validateEffect sampleCodec sampleEffect = .ok () ∧
      sampleGateway.applyAll sampleCodec sampleEffect recoveredRun = .ok recoveredEffect ∧
      sampleGateway.validateEffect sampleCodec recoveredEffect = .ok () ∧
      sampleGateway.applyAll sampleCodec recoveredEffect [.plain 5 .cancelRequested] =
        .ok { recoveredEffect with state := .cancellationPending, revision := 6, eventCount := 5 } ∧
      sampleGateway.validateEffect sampleCodec
          { recoveredEffect with state := .cancellationPending, revision := 6, eventCount := 5 } =
        .error ↑GatewayError.invalidRequest := by
  refine ⟨?_, ?_, ?_, ?_, ?_, ?_⟩
  · decide +kernel
  · decide +kernel
  · decide +kernel
  · decide +kernel
  · decide +kernel
  · decide +kernel

theorem applied_effect_accepted_iff_delta : sampleGateway.validateEffect sampleCodec
        { recoveredEffect with revision := 6, eventCount := 5, eventBytes := 36, streamBytes := 2 } = .ok () ↔
      Closes recoveredEffect { Event.plain 5 .delta with delta := "b", recovery := samplePermit } :=
  applied_effect_accepted_iff sampleCodec
    (show newGatewayConfiguration sampleConfiguration [⟨"p", false⟩] = .ok sampleGateway by decide +kernel)
    (show sampleGateway.apply sampleCodec recoveredEffect
        { Event.plain 5 .delta with delta := "b", recovery := samplePermit } = .ok (.to _) by decide +kernel)

end Sample

end Circulusd.ModelGateway
