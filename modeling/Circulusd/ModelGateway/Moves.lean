import Circulusd.ModelGateway.Machine

/-
What an accepted event does to an effect, one case for each way in which the state may change.
-/

namespace Circulusd.ModelGateway

open Checked Effect Platform

variable {gateway : Gateway} {codec : Codec} {effect next : Effect} {event : Event} {eventBytes : Nat}
variable {transition : Transition}

/-- A response whose tool calls normalize and which fits the bounds. -/
structure Gateway.Admissible (gateway : Gateway) (codec : Codec) (response : ModelResponse) (calls : List ToolCall)
    (toolCallBytes : Nat) : Prop where
  text : response.text.utf8ByteSize ≤ gateway.bounds.maxResponseBytes
  finish : response.finishReason.valid = true ∧
    response.finishReason.text.utf8ByteSize ≤ gateway.bounds.maxReasonBytes
  normalized : normalizeToolCalls codec response.toolCalls = .ok (calls, toolCallBytes)
  size : response.bytes + toolCallBytes ≤ gateway.bounds.maxResponseBytes

/-- The moves of an effect under an event that counts for the given bytes. -/
inductive Moved (gateway : Gateway) (codec : Codec) (effect : Effect) (event : Event) : Nat → Effect → Prop
  | begun (kind : event.kind = .beginDispatch) (state : effect.state = .admitted ∨ effect.state = .retryPending)
      (attempt : effect.attempt < effect.attemptLimit) :
      Moved gateway codec effect event 0
        { effect with attempt := effect.attempt + 1, state := .dispatching, failureReason := "" }
  | accepted (kind : event.kind = .providerAccepted) (state : effect.state = .dispatching)
      (text : ValidBoundedText event.providerRequestId gateway.bounds.maxProviderRequestIdBytes) :
      Moved gateway codec effect event event.providerRequestId.utf8ByteSize
        { effect with providerRequestId := event.providerRequestId, state := .dispatched }
  | streamed (kind : event.kind = .delta) (observing : effect.Observing event) (delta : event.delta ≠ "")
      (room : event.delta.utf8ByteSize ≤ gateway.bounds.maxStreamBytes - effect.streamBytes) :
      Moved gateway codec effect event event.delta.utf8ByteSize
        { effect.recovered event with
          streamBytes := effect.streamBytes + event.delta.utf8ByteSize
          partialOutput := true
          state := .streaming }
  | completed (kind : event.kind = .responseCompleted) (observing : effect.Observing event)
      {response : ModelResponse} {calls : List ToolCall} {toolCallBytes : Nat}
      (admissible : gateway.Admissible codec response calls toolCallBytes) :
      Moved gateway codec effect event (response.bytes + toolCallBytes)
        { effect.recovered event with
          response := some { response with
            toolCalls := calls
            usage := ⟨effect.contextTokens, effect.requestedOutputTokens⟩ }
          state := .completed
          outcome := .completed }
  | retried (kind : event.kind = .dispatchFailed) (failure : event.failure = .preDispatch)
      (state : effect.state = .dispatching) (attempt : effect.attempt ≤ effect.maxPreDispatchRetries) :
      Moved gateway codec effect event (gateway.reported event).reason.utf8ByteSize
        { effect.failing (gateway.reported event) with state := .retryPending }
  | failed (kind : event.kind = .dispatchFailed) (failure : event.failure ∈ failureClasses)
      (state : effect.state = .dispatching ∨ effect.state = .dispatched ∨ effect.state = .uncertain ∧ event.Recovers)
      (whole : effect.partialOutput = false)
      (spent : event.failure = .preDispatch → effect.maxPreDispatchRetries < effect.attempt) :
      Moved gateway codec effect event (gateway.reported event).reason.utf8ByteSize
        { effect.failing (gateway.reported event) with state := .failed, outcome := .failed }
  | lost (kind : event.kind = .dispatchFailed)
      (failure : event.failure = .transportUnknown ∨ event.failure = .afterPartial)
      (state : effect.state = .dispatching ∨ effect.Observing event) :
      Moved gateway codec effect event (gateway.reported event).reason.utf8ByteSize
        { effect.failing (gateway.reported event) with state := .uncertain, outcome := .uncertain }
  | withdrawn (kind : event.kind = .cancelRequested) (state : effect.state = .admitted ∨ effect.state = .retryPending) :
      Moved gateway codec effect event 0 { effect with state := .cancelled, outcome := .cancelled, failureReason := "" }
  | cancelling (kind : event.kind = .cancelRequested)
      (state : effect.state = .dispatching ∨ effect.state = .dispatched ∨ effect.state = .streaming) :
      Moved gateway codec effect event 0 { effect with state := .cancellationPending }
  | prevented (kind : event.kind = .cancellationResolved) (state : effect.state = .cancellationPending)
      (permit : ValidCancellationPermit effect event.cancellation)
      (proven : event.cancellation.dispatchPrevented = true)
      (unsent : effect.providerRequestId = "" ∧ effect.partialOutput = false) :
      Moved gateway codec effect event 0 { effect.resolving event with state := .cancelled, outcome := .cancelled }
  | unresolved (kind : event.kind = .cancellationResolved) (state : effect.state = .cancellationPending)
      (permit : event.cancellation ≠ default → ValidCancellationPermit effect event.cancellation)
      (unproven : event.cancellation.dispatchPrevented = false) :
      Moved gateway codec effect event 0 { effect.resolving event with state := .uncertain, outcome := .uncertain }

theorem Effect.complete_moved {response : ModelResponse} {calls : List ToolCall} {toolCallBytes : Nat}
    (kind : event.kind = .responseCompleted) (admissible : gateway.Admissible codec response calls toolCallBytes)
    (moved : effect.complete { event with response := some { response with toolCalls := calls } } = .ok transition) :
    Moved gateway codec effect event (response.bytes + toolCallBytes) transition.effect := by
  simp only [complete, steps_ok, Option.some.injEq] at moved
  obtain ⟨observing, sent, rfl, -, -, rfl⟩ := moved
  exact .completed kind observing admissible

theorem Effect.fail_moved (kind : event.kind = .dispatchFailed) (failure : event.failure ∈ failureClasses)
    (moved : effect.fail (gateway.reported event) = .ok transition) :
    Moved gateway codec effect event (gateway.reported event).reason.utf8ByteSize transition.effect := by
  unfold fail at moved
  split at moved
  case h_1 named =>
    simp only [steps_ok, not_or, Bool.not_eq_true] at moved
    obtain ⟨⟨state, -, whole⟩, moved⟩ := moved
    split at moved
    case isTrue attempt =>
      obtain rfl := (pure_ok _ _).mp moved
      exact .retried kind named state attempt
    case isFalse attempt =>
      obtain rfl := (pure_ok _ _).mp moved
      exact .failed kind failure (.inl state) whole fun _ => not_le.mp attempt
  case h_2 named =>
    simp only [steps_ok, not_or, Bool.not_eq_true] at moved
    obtain ⟨⟨state, whole⟩, rfl⟩ := moved
    refine .failed kind failure (by tauto) whole fun other => ?_
    cases named.symm.trans other
  case h_3 named =>
    simp only [steps_ok] at moved
    obtain ⟨state, rfl⟩ := moved
    unfold Observing at state
    refine .lost kind (.inl named) ?_
    unfold Observing
    tauto
  case h_4 named =>
    simp only [steps_ok] at moved
    obtain ⟨state, rfl⟩ := moved
    refine .lost kind (.inr named) (.inr ?_)
    unfold Observing
    tauto
  case h_5 named =>
    rw [show event.failure = .none from named] at failure
    simp [failureClasses] at failure
  case h_6 text named =>
    rw [show event.failure = .other text from named] at failure
    simp [failureClasses] at failure

theorem Effect.requestCancellation_moved
    (kind : event.kind = .cancelRequested) (moved : effect.requestCancellation = .ok transition) :
    Moved gateway codec effect event 0 transition.effect := by
  unfold requestCancellation at moved
  split at moved
  case h_1 state | h_2 state =>
    obtain rfl := (pure_ok _ _).mp moved
    exact .withdrawn kind (by simp [state])
  case h_3 state | h_4 state | h_5 state =>
    obtain rfl := (pure_ok _ _).mp moved
    exact .cancelling kind (by simp [state])
  case h_6 => cases moved

theorem Effect.resolveCancellation_moved (kind : event.kind = .cancellationResolved)
    (moved : effect.resolveCancellation event = .ok transition) :
    Moved gateway codec effect event 0 transition.effect := by
  simp only [resolveCancellation, steps_ok] at moved
  obtain ⟨state, permitted, moved⟩ := moved
  have permit (present : event.cancellation ≠ default) : ValidCancellationPermit effect event.cancellation := by
    by_contra invalid
    exact permitted ⟨present, .inl invalid⟩
  split at moved
  case isTrue proven =>
    obtain rfl := (pure_ok _ _).mp moved
    have unsent : effect.providerRequestId = "" ∧ effect.partialOutput = false := by
      by_contra sent
      refine permitted ⟨proven.1, .inr (.inr ⟨proven.2, ?_⟩)⟩
      rw [← Bool.not_eq_true, not_and_or, not_not] at sent
      exact sent
    exact .prevented kind state (permit proven.1) proven.2 unsent
  case isFalse unproven =>
    obtain rfl := (pure_ok _ _).mp moved
    refine .unresolved kind state permit ?_
    by_cases absent : event.cancellation = default
    · rw [absent]
      rfl
    · exact Bool.not_eq_true _ ▸ fun prevented => unproven ⟨absent, prevented⟩

/-- An event that `checkEvent` accepts moves an effect in one of these ways. -/
theorem Gateway.move_moved {checked : Event} (ok : gateway.checkEvent codec event = .ok (checked, eventBytes))
    (moved : gateway.move effect checked eventBytes = .ok transition) :
    checked.recovery = event.recovery ∧ checked.kind = event.kind ∧
      Moved gateway codec effect event eventBytes transition.effect := by
  unfold checkEvent at ok
  split at ok
  case h_1 kind =>
    simp only [steps_ok] at ok
    obtain ⟨-, rfl, rfl⟩ := ok
    simp only [move, kind, beginDispatch, steps_ok, not_le] at moved
    obtain ⟨state, attempt, rfl⟩ := moved
    exact ⟨rfl, rfl, .begun kind (by tauto) attempt⟩
  case h_2 kind =>
    simp only [steps_ok] at ok
    obtain ⟨-, rfl, rfl⟩ := ok
    simp only [move, kind] at moved
    exact ⟨rfl, rfl, requestCancellation_moved kind moved⟩
  case h_3 kind =>
    simp only [steps_ok] at ok
    obtain ⟨⟨text, -⟩, rfl, rfl⟩ := ok
    simp only [move, kind, accept, steps_ok, not_or] at moved
    obtain ⟨⟨state, -⟩, rfl⟩ := moved
    exact ⟨rfl, rfl, .accepted kind state text⟩
  case h_4 kind =>
    simp only [steps_ok] at ok
    obtain ⟨⟨delta, -⟩, rfl, rfl⟩ := ok
    simp only [move, kind, stream, steps_ok, not_lt] at moved
    obtain ⟨observing, room, rfl⟩ := moved
    exact ⟨rfl, rfl, .streamed kind observing delta room⟩
  case h_5 kind =>
    simp only [checkResponse, steps_ok, not_lt, Prod.exists] at ok
    obtain ⟨response, -, -, ⟨text, finish⟩, -, calls, toolCallBytes, normalized, -, size, rfl, rfl⟩ :=
      ok
    simp only [move, kind] at moved
    exact ⟨rfl, rfl, complete_moved kind ⟨text, finish, normalized, size⟩ moved⟩
  case h_6 kind =>
    simp only [steps_ok] at ok
    obtain ⟨failure, -, rfl, rfl⟩ := ok
    simp only [move, show (gateway.reported event).kind = .dispatchFailed from kind] at moved
    exact ⟨rfl, rfl, fail_moved kind failure moved⟩
  case h_7 kind =>
    simp only [steps_ok] at ok
    obtain ⟨-, rfl, rfl⟩ := ok
    simp only [move, kind] at moved
    exact ⟨rfl, rfl, resolveCancellation_moved kind moved⟩
  case h_8 => cases ok

/-- An accepted event: its guards, the move it makes, and the count of its bytes. -/
structure Gateway.Stepped (gateway : Gateway) (codec : Codec) (effect : Effect) (event : Event)
    (eventBytes : Nat) (next : Effect) : Prop where
  accepts : gateway.Accepts codec effect
  current : event.expectedRevision = effect.revision
  room : effect.eventCount < gateway.bounds.maxEvents
  size : eventBytes ≤ gateway.bounds.maxEventBytes
  resumed : event.Recovers → ValidResumePermit effect event.recovery
  continued : effect.recoveryPermit ≠ default → event.kind.observes = true → event.Recovers
  moved : Moved gateway codec effect event eventBytes next
  reserved : gateway.Reserved (next.counted eventBytes)

theorem Gateway.apply_stepped (ok : gateway.apply codec effect event = .ok transition) :
    ∃ eventBytes next, gateway.Stepped codec effect event eventBytes next ∧
      transition.effect = next.counted eventBytes := by
  simp only [apply, steps_ok, not_or, not_le, not_lt, Prod.exists] at ok
  obtain ⟨valid, current, ⟨-, room⟩, checked, eventBytes, passed, ⟨size, -⟩, resumed, continued, movement,
    moved, reserved, rfl⟩ := ok
  obtain ⟨recovery, kind, step⟩ := move_moved passed moved
  have same : checked.Recovers ↔ event.Recovers := by
    unfold Event.Recovers
    rw [recovery]
  refine ⟨eventBytes, movement.effect, ⟨(gateway.validateEffect_ok_iff codec effect).mp valid, current, room,
    size, ?_, ?_, step, ?_⟩, rfl⟩
  · intro recovers
    by_contra invalid
    exact resumed ⟨same.mpr recovers, recovery ▸ invalid⟩
  · intro held observes
    by_contra alone
    exact continued ⟨held, kind ▸ observes, fun recovers => alone (same.mp recovers)⟩
  · intro opened
    by_contra short
    exact reserved ⟨opened, not_le.mp short⟩

end Circulusd.ModelGateway
