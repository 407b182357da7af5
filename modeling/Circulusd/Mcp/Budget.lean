import Circulusd.Mcp.Closure
import Circulusd.Mcp.Reserve

/-
The reserve of events is a potential: every planned event but an output chunk lowers it, so a run
within the envelope of the configuration never meets the event limit.
-/

namespace Circulusd.Mcp

open Checked Effect Platform Transition List Option

variable {gateway : Gateway} {effect next : Effect} {event : Event} {attempt : AttemptRecord} {transition : Transition}

/-- The ledger records that the budget is made for. -/
def Effect.PlannedRecord (effect : Effect) : LedgerStatus → Prop
  | .committed | .failed => True
  | .absent => effect.latestAttempt.failure ≠ .ledgerAbsent
  | .unknown => effect.state = .dispatching ∨ effect.state = .dispatched ∨ effect.state = .streaming
  | .inflight => effect.latestAttempt.providerRequestId = ""
  | .none | .other _ => False

instance (effect : Effect) : (status : LedgerStatus) → Decidable (effect.PlannedRecord status)
  | .committed | .failed => .isTrue trivial
  | .absent => inferInstanceAs (Decidable (_ ≠ _))
  | .unknown => inferInstanceAs (Decidable (_ ∨ _))
  | .inflight => inferInstanceAs (Decidable (_ = _))
  | .none | .other _ => .isFalse id

/-- The kinds of events that the budget is made for, with the status of the record they carry. -/
def Effect.PlannedKind (effect : Effect) (status : LedgerStatus) : EventKind → Prop
  | .beginDispatch | .negotiationRecorded | .providerAccepted | .outputChunk | .callCommitted
  | .settlementCompleted | .cancellationResolved | .confirmationDecided => True
  | .dispatchFailed =>
    effect.state = .dispatching ∨ effect.state = .dispatched ∨ effect.state = .streaming
  | .cancelRequested => effect.cancellationRequested = false
  | .recoveryObserved => effect.PlannedRecord status
  | .other _ => False

instance (effect : Effect) (status : LedgerStatus) : (kind : EventKind) → Decidable (effect.PlannedKind status kind)
  | .beginDispatch | .negotiationRecorded | .providerAccepted | .outputChunk | .callCommitted
  | .settlementCompleted | .cancellationResolved | .confirmationDecided => .isTrue trivial
  | .dispatchFailed => inferInstanceAs (Decidable (_ ∨ _))
  | .cancelRequested => inferInstanceAs (Decidable (_ = _))
  | .recoveryObserved => inferInstanceAs (Decidable (effect.PlannedRecord status))
  | .other _ => .isFalse id

def Effect.Planned (effect : Effect) (event : Event) : Prop :=
  effect.PlannedKind event.ledger.status event.kind
deriving Decidable

/-- The absent record that grants a retry to a partial stream which no ledger could prove absent. -/
def Effect.Regrants (effect : Effect) (event : Event) : Prop :=
  event.kind = .recoveryObserved ∧ event.ledger.status = .absent ∧ effect.state = .uncertain ∧
    effect.replayPolicy = .safe ∧ effect.cancellationRequested = false ∧
    effect.automaticRetriesUsed < effect.maxAutomaticRetries
deriving Decidable

/-- What the states that wait for an answer say of the policy. -/
structure Effect.Waits (effect : Effect) : Prop where
  confirmation : effect.state = .needsConfirmation → effect.replayPolicy = .confirm
  uncertain : effect.state = .uncertain → effect.cancellationRequested = false →
    effect.replayPolicy = .safe ∨ effect.replayPolicy = .never ∨
      effect.replayPolicy = .idempotencyKey ∧ effect.automaticLeft = 0

/-- The reserve of an effect that was sent and has no outcome yet. -/
structure Effect.Sent (effect : Effect) : Prop where
  unrequested : effect.cancellationRequested = false
  reserve : effect.hasProviderIdentity = true ∧ effect.minimumRemainingEvents = effect.dispatchedEvents ∨
    effect.hasProviderIdentity = false ∧ effect.state = .dispatching ∧
      effect.reserveIn .dispatching = effect.minimumRemainingEvents

theorem Effect.sent (valid : gateway.ValidEffect effect)
    (state : effect.state = .dispatching ∨ effect.state = .dispatched ∨ effect.state = .streaming) :
    effect.Sent := by
  have shape := valid.shape
  rcases state with state | state | state <;> rw [state] at shape
  · obtain ⟨attempt, current, unnamed, -, -, -, -, unrequested⟩ := shape
    refine ⟨unrequested, .inr ⟨?_, state, by rw [minimumRemainingEvents, state]⟩⟩
    simp [hasProviderIdentity, latestAttempt_of_current current, unnamed]
  · obtain ⟨attempt, current, named, -, -, -, -, unrequested⟩ := shape
    refine ⟨unrequested, .inl ⟨?_, by rw [minimumRemainingEvents, state]; rfl⟩⟩
    simp [hasProviderIdentity, latestAttempt_of_current current, named]
  · obtain ⟨attempt, current, named, -, -, -, -, -, -, unrequested⟩ := shape
    refine ⟨unrequested, .inl ⟨?_, by rw [minimumRemainingEvents, state]; rfl⟩⟩
    simp [hasProviderIdentity, latestAttempt_of_current current, named]

/-- A failure that the budget is made for leaves a smaller reserve. -/
theorem Classified.reserve_lt {failure : FailureClass} {reason : String}
    (outcome : Classified effect attempt reason failure next)
    (current : effect.currentAttempt = some attempt) (valid : gateway.ValidEffect effect) (known : effect.KnownPolicy)
    (state : effect.state = .dispatching ∨ effect.state = .dispatched ∨ effect.state = .streaming) :
    next.minimumRemainingEvents < effect.minimumRemainingEvents := by
  have sent := Effect.sent valid state
  have unrequested := sent.unrequested
  have reserve := sent.reserve
  have reserves := effect.reserves known
  have next := effect.reserve_classified current failure reason
  have late : effect.reserveIn .uncertain = effect.lateUnrequestedEvents := by simp [reserveIn, unrequested]
  have policyKept : (effect.classified attempt failure reason).replayPolicy = effect.replayPolicy := rfl
  cases outcome with
  | notSent dispatching =>
    rw [reserve_retryOr]
    split
    next room =>
      rw [minimumRemainingEvents, dispatching]
      exact (effect.retry_lt known room).1
    next => grind
  | rejected => grind [reserve_moveTo]
  | absentRequested _ requested | unknownRequested _ requested => simp [unrequested] at requested
  | absentFailed failed => simp [failed] at state
  | unknownStreamed _ _ streamed =>
    have identified : effect.hasProviderIdentity = true := by
      have named := (valid.latest current).2.2.1 streamed
      simp [hasProviderIdentity, latestAttempt_of_current current, named]
    rw [reserve_held]
    grind
  | replayable undecided policy =>
    have replays : effect.replayPolicy = .safe ∨ effect.replayPolicy = .idempotencyKey :=
      policy.imp_right And.left
    rw [reserve_retryOr]
    split
    next room =>
      have retried : (effect.classified attempt failure reason).spendRetry.reserveIn .retryPending =
        effect.spendRetry.reserveIn .retryPending := rfl
      have cheaper := effect.retry_lt known room
      grind
    next spent =>
      have left : effect.automaticLeft = 0 := Nat.sub_eq_zero_of_le (not_lt.mp spent)
      grind
  | unreplayable undecided policy => grind [reserve_moveTo]
  | confirmable undecided policy => grind [reserve_moveTo]

theorem Effect.observable_failed (observable : effect.observable = true) (state : effect.state = .failed) :
    effect.latestAttempt.failure = .unknown := by
  simp only [Effect.observable, state] at observable
  obtain ⟨attempt, current, lost⟩ := (any_eq_true _ _).mp observable
  rw [latestAttempt_of_current current]
  simpa using lost

/-- While an outcome may still be recorded, its settlement is paid for. -/
theorem Effect.observable_reserve (valid : gateway.ValidEffect effect) (known : effect.KnownPolicy)
    (observable : effect.observable = true) : 2 ≤ effect.minimumRemainingEvents := by
  have reserves := effect.reserves known
  cases state : effect.state with
  | dispatching | dispatched | streaming =>
    have sent := (sent valid (by simp [state])).reserve
    omega
  | cancellationPending =>
    simp only [minimumRemainingEvents, state, reserveIn]
    omega
  | uncertain =>
    simp only [minimumRemainingEvents, state, reserveIn]
    split <;> omega
  | needsConfirmation =>
    simp only [minimumRemainingEvents, state, reserveIn]
    split
    · simp only [requestedConfirmationEvents]
      split <;> omega
    · split <;> omega
  | failed =>
    have failure := effect.observable_failed observable state
    simp only [minimumRemainingEvents, state, reserveIn, failure, ne_eq, not_true, if_false]
    split <;> omega
  | _ =>
    simp [Effect.observable, state] at observable

/-- An absence found late ends the effect, or leaves it to the user with a smaller reserve. -/
theorem Classified.reserve_lt_late {reason : String} (outcome : Classified effect attempt reason .ledgerAbsent next)
    (current : effect.currentAttempt = some attempt) (valid : gateway.ValidEffect effect) (known : effect.KnownPolicy)
    (waits : effect.Waits) (observable : effect.observable = true)
    (late : ¬ (effect.state = .dispatching ∨ effect.state = .dispatched ∨ effect.state = .streaming))
    (fresh : effect.latestAttempt.failure ≠ .ledgerAbsent)
    (kept : ¬ (effect.state = .uncertain ∧ effect.replayPolicy = .safe ∧
      effect.cancellationRequested = false ∧ effect.automaticRetriesUsed < effect.maxAutomaticRetries)) :
    next.minimumRemainingEvents < effect.minimumRemainingEvents := by
  have positive := observable_reserve valid known observable
  have next := effect.reserve_classified current .ledgerAbsent reason
  -- An undecided absence is found in the two states that wait without a cancellation.
  have waiting (undecided : effect.Undecided attempt .ledgerAbsent) :
      effect.state = .uncertain ∨ effect.state = .needsConfirmation := by
    have unrequested := undecided.unrequested
    have shape := valid.shape
    rcases undecided.evidence with ⟨-, unfailed⟩ | ⟨absent, -⟩
    · cases state : effect.state with
      | uncertain => exact .inl rfl
      | needsConfirmation => exact .inr rfl
      | cancellationPending =>
        rw [state] at shape
        exact absurd shape.2.2 (by simp [unrequested])
      | failed =>
        have lost := effect.observable_failed observable state
        rw [latestAttempt_of_current current] at lost
        exact absurd ⟨state, lost⟩ unfailed
      | dispatching | dispatched | streaming => simp [state] at late
      | _ =>
        simp [Effect.observable, state] at observable
    · simp at absent
  cases outcome with
  | absentRequested => exact Nat.zero_lt_two.trans_le positive
  | absentFailed | unreplayable =>
    simp only [reserve_moveTo, if_true, next, reduceCtorEq, if_false]
    omega
  | replayable undecided policy =>
    have spent : ¬ effect.automaticRetriesUsed < effect.maxAutomaticRetries := by
      intro room
      rcases waiting undecided with state | state
      · rcases waits.uncertain state undecided.unrequested with safe | never | ⟨-, left⟩
        · exact kept ⟨state, safe, undecided.unrequested, room⟩
        · rcases policy with policy | ⟨policy, -⟩ <;> simp [never] at policy
        · rw [automaticLeft] at left
          omega
      · have confirm := waits.confirmation state
        rcases policy with policy | ⟨policy, -⟩ <;> simp [confirm] at policy
    have exhausted : ¬ (effect.classified attempt .ledgerAbsent reason).automaticRetriesUsed <
      (effect.classified attempt .ledgerAbsent reason).maxAutomaticRetries := spent
    simp only [reserve_retryOr, if_neg exhausted, true_or, if_true, next, reduceCtorEq, if_false]
    omega
  | confirmable undecided policy =>
    rcases waiting undecided with state | state
    · rcases waits.uncertain state undecided.unrequested with other | other | ⟨other, -⟩ <;> simp [policy] at other
    · have unrequested := undecided.unrequested
      have reserves := effect.reserves known
      rw [reserve_moveTo, next.2.2, minimumRemainingEvents, state, reserveIn]
      grind

/-- A call found in flight is identified, which costs less than the search for it. -/
theorem Effect.reserve_resume_lt (valid : gateway.ValidEffect effect) (known : effect.KnownPolicy)
    (waits : effect.Waits) (observable : effect.observable = true)
    (state : effect.state = .dispatching ∨ effect.state = .uncertain ∨
      effect.state = .needsConfirmation ∨ effect.state = .failed)
    (unnamed : effect.latestAttempt.providerRequestId = "") (named : attempt.providerRequestId ≠ "") :
    (effect.resume attempt).minimumRemainingEvents < effect.minimumRemainingEvents := by
  have unidentified : effect.hasProviderIdentity = false := by simp [hasProviderIdentity, unnamed]
  have latest : (effect.resume attempt).latestAttempt = { attempt with failure := .none } :=
    effect.latestAttempt_withAttempt _
  have identified : (effect.resume attempt).hasProviderIdentity = true := by
    simp [hasProviderIdentity, latest, named]
  have reserves := effect.reserves known
  by_cases requested : effect.cancellationRequested = true
  · have target : (effect.resume attempt).minimumRemainingEvents =
        (effect.resume attempt).pendingCancellationEvents := by
      simp [minimumRemainingEvents, resume, requested, reserveIn]
    have sources : effect.minimumRemainingEvents = effect.requestedUnknownEvents ∨ effect.replayPolicy = .confirm ∧
          effect.minimumRemainingEvents = effect.requestedConfirmationEvents := by
      rcases state with state | state | state | state
      · exact absurd requested (by simp [(sent valid (.inl state)).unrequested])
      · exact .inl (by simp [minimumRemainingEvents, state, reserveIn, requested])
      · exact .inr ⟨waits.confirmation state, by simp [minimumRemainingEvents, state, reserveIn, requested]⟩
      · exact .inl (by simp [minimumRemainingEvents, state, reserveIn, requested,
          effect.observable_failed observable state])
    have less := effect.identified_lt known unidentified identified rfl rfl
    omega
  · have unrequested : effect.cancellationRequested = false := by simpa using requested
    have target : (effect.resume attempt).minimumRemainingEvents = effect.dispatchedEvents := by
      have states : (effect.resume attempt).state = .dispatched ∨ (effect.resume attempt).state = .streaming := by
        simp only [resume, unrequested, Bool.false_eq_true, if_false]
        split <;> simp
      rcases states with state | state <;> rw [minimumRemainingEvents, state] <;> rfl
    have late : effect.dispatchedEvents < effect.lateUnrequestedEvents := by
      simp only [unidentified, Bool.false_eq_true, false_and, false_or] at reserves
      omega
    rw [target]
    rcases state with state | state | state | state
    · rw [minimumRemainingEvents, state]
      omega
    · simpa [minimumRemainingEvents, state, reserveIn, unrequested] using late
    · simp only [minimumRemainingEvents, state, reserveIn, unrequested, Bool.false_eq_true, if_false]
      split <;> omega
    · simpa [minimumRemainingEvents, state, reserveIn, unrequested,
        effect.observable_failed observable state] using late

/-- A cancellation is paid for in every state that sends one. -/
theorem Effect.pending_lt (valid : gateway.ValidEffect effect) (known : effect.KnownPolicy)
    (unrequested : effect.cancellationRequested = false) (cancellable : effect.Cancellable) :
    effect.pendingCancellationEvents < effect.minimumRemainingEvents := by
  have reserves := effect.reserves known
  have sent (state : effect.state = .dispatching ∨ effect.state = .dispatched ∨ effect.state = .streaming) :
      effect.pendingCancellationEvents < effect.minimumRemainingEvents := by
    rcases (Effect.sent valid state).reserve with ⟨identified, reserve⟩ | ⟨-, -, reserve⟩
    · simp only [identified, Bool.true_eq_false, false_and, or_false, true_and] at reserves
      omega
    · omega
  rcases cancellable with state | state | state | state | state |
    ⟨attempt, current, state, -⟩ | ⟨attempt, current, state, unknown⟩
  · exact sent (.inl state)
  · exact sent (.inr (.inl state))
  · exact sent (.inr (.inr state))
  · simp only [minimumRemainingEvents, state, reserveIn, unrequested, Bool.false_eq_true, if_false]
    omega
  · simp only [minimumRemainingEvents, state, reserveIn, unrequested, Bool.false_eq_true, if_false]
    split <;> omega
  · rw [minimumRemainingEvents, state]
    omega
  · simp only [minimumRemainingEvents, state, reserveIn, unrequested, latestAttempt_of_current current, unknown, ne_eq,
      not_true, Bool.false_eq_true, if_false]
    omega

/-- Every planned event but an output chunk leaves a smaller reserve. -/
theorem Moved.reserve_lt (moved : Moved gateway effect event transition)
    (valid : gateway.ValidEffect effect) (known : effect.KnownPolicy)
    (waits : effect.Waits) (planned : effect.Planned event) (kept : ¬ effect.Regrants event)
    (single : event.kind ≠ .outputChunk) :
    transition.effect.minimumRemainingEvents < effect.minimumRemainingEvents := by
  have reserves := effect.reserves known
  cases moved with
  | streamed kind => exact absurd kind single
  | dispatched kind state =>
    have reserve : effect.minimumRemainingEvents = effect.reserveIn .retryPending := by
      rcases state with state | state <;> simp only [minimumRemainingEvents, state, reserveIn]
    generalize opened : ({ effect with
      attempts := effect.attempts ++ [.fresh (effect.attempts.length + 1)]
      state := .dispatching, failureReason := "" } : Effect) = next
    have same : next.KnownPolicy ∧ next.minimumRemainingEvents = next.reserveIn .dispatching ∧
        next.reserveIn .retryPending = effect.reserveIn .retryPending := by
      subst opened
      exact ⟨known, rfl, rfl⟩
    rw [reserve, ← same.2.2, same.2.1]
    exact (next.reserves same.1).2.2.2.1
  | @negotiated attempt kind current state first receipt =>
    have target : (effect.withAttempt { attempt with negotiation := event.negotiation }).state = .dispatching := state
    rw [quiet, minimumRemainingEvents, target, minimumRemainingEvents, state]
    apply negotiated_lt known
    · simp [preNegotiation, latestAttempt_of_current current, first]
    · simp [preNegotiation, validReceipt_ne_zero receipt]
  | accepted kind current state receipt =>
    rw [effect.reserve_of_state state]
    exact reserves.2.2.1
  | committed kind current state late =>
    have observable : effect.observable = true := by
      simp only [mem_cons, not_mem_nil, or_false] at state
      rcases state with state | state | state | state | state | state <;> simp [Effect.observable, state, current, late]
    exact observable_reserve valid known observable
  | settled kind state =>
    rw [minimumRemainingEvents, minimumRemainingEvents, state]
    exact Nat.one_pos
  | classified given observable current outcome =>
    by_cases early : effect.state = .dispatching ∨ effect.state = .dispatched ∨ effect.state = .streaming
    · exact outcome.reserve_lt current valid known early
    rcases event.classification_cases given with
      ⟨kind, -, -⟩ | ⟨kind, ⟨status, rfl, -⟩ | ⟨status, rfl, -⟩⟩
    · simp only [Planned, PlannedKind, kind] at planned
      exact absurd planned early
    · simp only [Planned, PlannedKind, PlannedRecord, kind, status] at planned
      exact outcome.reserve_lt_late current valid known waits (observable kind) early planned
        fun regrants => kept ⟨kind, status, regrants⟩
    · simp only [Planned, PlannedKind, PlannedRecord, kind, status] at planned
      exact absurd planned early
  | cancelledAtOnce kind unsent =>
    have reserve : effect.minimumRemainingEvents = effect.reserveIn .retryPending := by
      rcases unsent with state | ⟨state, -⟩ <;> simp only [minimumRemainingEvents, state, reserveIn]
    rw [reserve]
    exact reserves.2.2.2.1.trans_le' (Nat.zero_le _)
  | cancelSent kind cancellable =>
    simp only [Planned, PlannedKind, kind] at planned
    exact pending_lt valid known planned cancellable
  | cancelConfirmed kind current state =>
    have positive := observable_reserve valid known (by simp [Effect.observable, state])
    exact Nat.zero_lt_two.trans_le positive
  | @cancelUnknown attempt kind current state =>
    have next := effect.reserve_classified current .unknown cancellationUnknownReason
    have shape := valid.shape
    rw [state] at shape
    have requested : effect.cancellationRequested = true := shape.2.2
    have policy : (effect.classified attempt .unknown cancellationUnknownReason).replayPolicy = effect.replayPolicy := rfl
    rw [effect.reserve_of_state state, quiet, reserve_held, policy]
    simp only [next]
    simp only [reserveIn, requested, if_true, pendingCancellationEvents]
    split <;> exact Nat.lt_succ_self _
  | recordCommitted commits =>
    have observable : effect.observable = true := by
      rcases commits with ⟨-, -, state⟩ | ⟨-, observable⟩
      · simp [Effect.observable, state]
      · exact observable
    exact observable_reserve valid known observable
  | @resumed attempt kind status observable current state named =>
    simp only [Planned, PlannedKind, PlannedRecord, kind, status] at planned
    exact reserve_resume_lt valid known waits observable state planned named
  | @identified attempt kind status current state named =>
    simp only [Planned, PlannedKind, PlannedRecord, kind, status] at planned
    have unidentified : effect.hasProviderIdentity = false := by simp [hasProviderIdentity, planned]
    have shape := valid.shape
    rcases state with state | state | state <;> rw [state] at shape
    · obtain ⟨_, found, present, -⟩ := shape
      rw [latestAttempt_of_current found] at planned
      exact absurd planned present
    · obtain ⟨_, found, present, -⟩ := shape
      rw [latestAttempt_of_current found] at planned
      exact absurd planned present
    · generalize learned : { attempt with providerRequestId := event.ledger.providerRequestId } = identified
      have target : (effect.withAttempt identified).state = .cancellationPending := state
      have named : (effect.withAttempt identified).hasProviderIdentity = true := by
        simp [hasProviderIdentity, ← learned, named]
      rw [quiet, reserve_of_state target, reserve_of_state state]
      exact (effect.identified_lt known unidentified named rfl rfl).1
  | @failedExternally attempt kind status observable =>
    have positive := observable_reserve valid known observable
    have failure : (effect.withAttempt
        { attempt.learn event.ledger with failure := .externalFailed }).latestAttempt.failure ≠ .unknown := by
      simp
    exact lt_of_eq_of_lt (if_pos failure) (Nat.zero_lt_two.trans_le positive)
  | confirmed kind decision state policy room =>
    have left : 0 < effect.confirmationLeft := by
      unfold confirmationLeft
      omega
    have granted : effect.confirmationBase + 3 ≤ effect.minimumRemainingEvents := by
      have least : effect.knownRequestedConfirmationEvents = effect.confirmationBase + 3 := by
        simp [knownRequestedConfirmationEvents, left]
      simp only [minimumRemainingEvents, state, reserveIn, requestedConfirmationEvents, least]
      split <;> (try split) <;> omega
    refine lt_of_lt_of_le ?_ granted
    simp only [quiet, minimumRemainingEvents, reserveIn, policy, confirmationBase, automaticLeft, confirmationLeft]
    omega
  | abandoned kind decision state policy =>
    rw [effect.reserve_of_state state]
    by_cases requested : effect.cancellationRequested = true
    · simp only [if_pos requested]
      refine lt_of_eq_of_lt (show _ = effect.reserveIn .uncertain from rfl) ?_
      rw [reserveIn, reserveIn]
      grind
    · simp only [if_neg requested]
      refine lt_of_eq_of_lt (show _ = effect.reserveIn .failed from rfl) ?_
      rw [reserveIn, reserveIn]
      grind

theorem Effect.waits_elsewhere (elsewhere : effect.state ≠ .needsConfirmation ∧ effect.state ≠ .uncertain) :
    effect.Waits :=
  ⟨fun state => absurd state elsewhere.1, fun state => absurd state elsewhere.2⟩

theorem Effect.waits_held (effect : Effect) (known : effect.KnownPolicy)
    (answered : effect.cancellationRequested = true ∨ effect.replayPolicy ≠ .idempotencyKey) :
    effect.held.Waits := by
  have policy : effect.held.replayPolicy = effect.replayPolicy := rfl
  have requested : effect.held.cancellationRequested = effect.cancellationRequested := rfl
  by_cases confirm : effect.replayPolicy = .confirm
  · have state : effect.held.state = .needsConfirmation := by simp [held, moveTo, confirm]
    exact ⟨fun _ => confirm, fun other => by simp [state] at other⟩
  · have state : effect.held.state = .uncertain := by simp [held, moveTo, confirm]
    refine ⟨fun other => by simp [state] at other, fun _ unrequested => ?_⟩
    rw [requested] at unrequested
    have unkeyed := answered.resolve_left (by simp [unrequested])
    have cases := known.cases
    simp only [confirm, unkeyed, or_false, false_or] at cases
    exact cases.imp_right .inl

theorem Classified.waits {failure : FailureClass} {reason : String}
    (outcome : Classified effect attempt reason failure next) (known : effect.KnownPolicy)
    (deduplicated : effect.replayPolicy = .idempotencyKey → effect.supportsInvocationLedger = true) :
    next.Waits := by
  cases outcome with
  | rejected | absentRequested | absentFailed =>
    exact waits_elsewhere (by simp)
  | notSent =>
    rcases (effect.classified attempt .definitelyNotSent reason).retryOr_eq .failed with
      ⟨-, equal⟩ | ⟨-, equal⟩ <;> rw [equal] <;>
      exact waits_elsewhere (by simp)
  | unknownRequested _ requested =>
    exact (effect.classified attempt .unknown reason).waits_held known (.inl requested)
  | unknownStreamed _ _ _ unledgered =>
    refine (effect.classified attempt .unknown reason).waits_held known (.inr fun keyed => ?_)
    simp [deduplicated keyed] at unledgered
  | replayable undecided policy =>
    rcases (effect.classified attempt failure reason).retryOr_eq
      (if failure = .ledgerAbsent ∨ effect.replayPolicy = .safe then .failed else .uncertain) with
      ⟨spent, equal⟩ | ⟨-, equal⟩ <;> rw [equal]
    · split
      · exact waits_elsewhere (by simp)
      next unsafe_ =>
        refine ⟨fun other => by simp at other, fun _ _ => .inr (.inr ⟨?_, ?_⟩)⟩
        · exact (policy.resolve_left fun safe => unsafe_ (.inr safe)).1
        · exact Nat.sub_eq_zero_of_le spent
    · exact waits_elsewhere (by simp)
  | unreplayable _ policy =>
    refine ⟨fun other => ?_, fun _ _ => .inr (.inl policy)⟩
    simp only [moveTo] at other
    split at other <;> simp at other
  | confirmable _ policy => exact ⟨fun _ => policy, fun other => by simp at other⟩

theorem Moved.waits (moved : Moved gateway effect event transition) (valid : gateway.ValidEffect effect)
    (known : effect.KnownPolicy)
    (deduplicated : effect.replayPolicy = .idempotencyKey → effect.supportsInvocationLedger = true) :
    transition.effect.Waits := by
  cases moved with
  | classified _ _ _ outcome => exact outcome.waits known deduplicated
  | negotiated _ _ state =>
    exact waits_elsewhere (by simp [withAttempt, state])
  | identified _ _ _ state =>
    rcases state with state | state | state <;> exact waits_elsewhere (by simp [withAttempt, state])
  | @resumed attempt =>
    rcases effect.resume_state { attempt with providerRequestId := event.ledger.providerRequestId } with
      state | state | state <;>
      exact waits_elsewhere (by simp [state])
  | @cancelUnknown attempt _ _ state =>
    have shape := valid.shape
    rw [state] at shape
    exact (effect.classified attempt .unknown cancellationUnknownReason).waits_held known (.inl shape.2.2)
  | abandoned =>
    by_cases requested : effect.cancellationRequested = true
    · refine ⟨fun other => ?_, fun _ unrequested => ?_⟩
      · simp [requested] at other
      · simp [requested] at unrequested
    · exact waits_elsewhere (by simp [requested])
  | _ =>
    exact waits_elsewhere (by simp)

/-- The events left pay for the reserve. -/
structure Gateway.Affords (gateway : Gateway) (effect : Effect) : Prop where
  waits : effect.Waits
  budget : effect.eventCount + effect.minimumRemainingEvents ≤ gateway.bounds.maxEvents

/-- The envelope of a tool pays for the reserve of the effect that it admits. -/
theorem Gateway.Admits.affords (configured : gateway.Configured) (admits : gateway.Admits effect) :
    gateway.Affords effect := by
  obtain ⟨request, scope, availability, ok⟩ := admits
  simp only [admittedEffect, steps_ok] at ok
  obtain ⟨-, -, digest, -, -, -, server, -, resolved, -, tool, found, -, rfl⟩ := ok
  have listed := mem_of_find?_eq_some found
  have policy := configured.policies tool listed
  have envelope := configured.envelopes tool listed
  refine ⟨waits_elsewhere (by simp), ?_⟩
  simp only [mem_cons, not_mem_nil, or_false] at policy
  rcases policy with given | given | given | given <;> simp only [requiredEvents, given] at envelope <;>
    simp only [minimumRemainingEvents, reserveIn, given, automaticLeft, confirmationBase, confirmationLeft] <;> omega

/-- An accepted event leaves its reserve paid for, whatever came before it. -/
theorem Gateway.affords_of_apply (configured : gateway.Configured)
    (ok : gateway.apply effect event = .ok transition) : gateway.Affords transition.effect := by
  obtain ⟨validated, -, -, moved, move, paid, rfl⟩ := gateway.apply_applied ok
  have valid := gateway.validateEffect_valid validated
  have registered := gateway.registered valid.registration
  obtain ⟨confirmation, uncertain⟩ :=
    move.waits valid (configured.policy registered) fun keyed => (registered.deduplicated keyed).2
  exact ⟨⟨confirmation, uncertain⟩, paid⟩

theorem Gateway.Run.affords {admitted : Effect} {steps : List Application}
    (run : gateway.Run admitted steps effect) (configured : gateway.Configured) : gateway.Affords effect := by
  refine run.run.invariant (run.admission.affords configured) ?_
  rintro before label after ⟨rfl, ok, rfl⟩ -
  exact affords_of_apply configured ok

section Size

def BackendAffinity.bytes (affinity : BackendAffinity) : Nat :=
  affinity.backend.utf8ByteSize + affinity.scope.text.utf8ByteSize +
    affinity.secretExposureClass.utf8ByteSize + affinity.sandboxProtocolVersion.utf8ByteSize

theorem validateAffinity_bytes {affinity : BackendAffinity} {template : Bool}
    (ok : validateAffinity affinity template = .ok ()) : affinity.bytes ≤ 2048 := by
  simp only [validateAffinity, steps_ok] at ok
  obtain ⟨⟨backend, -, -, -, exposure, protocol⟩, -, scope⟩ := ok
  have first := backend.1.size
  have second := exposure.1.size
  have third := protocol.1.size
  have text : affinity.scope.text.utf8ByteSize ≤ 16 := by
    cases kind : affinity.scope with
    | workspace | session | invocation => decide +kernel
    | other => simp [kind] at scope
  simp only [hardMaxIdentifierBytes] at first second third
  simp only [BackendAffinity.bytes]
  omega

theorem resolveServerRegistration_affinity {server resolved : ServerRegistration} {scope : ValidatedAuthority}
    (ok : resolveServerRegistration server scope = .ok resolved) :
    ∃ scopeId, resolved.affinity = { server.affinity with scopeId } := by
  simp only [resolveServerRegistration] at ok
  split at ok
  · rw [pure_ok] at ok
    exact ⟨server.affinity.scopeId, by rw [← ok]⟩
  · cases kind : server.affinity.scope with
    | session | invocation =>
      simp only [kind, ok_bind] at ok
      split at ok
      · simp at ok
      · rw [pure_ok] at ok
        exact ⟨_, by rw [← ok, ← kind]⟩
    | workspace =>
      simp only [kind] at ok
      split at ok
      · simp at ok
      · simp only [ok_bind] at ok
        split at ok
        · simp at ok
        · rw [pure_ok] at ok
          exact ⟨_, by rw [← ok, ← kind]⟩
    | other => simp [kind] at ok

/-- The affinity of an effect is the one of its server, bound to the caller. -/
theorem Gateway.Registered.affinity_bytes {identity : EffectIdentity} (configured : gateway.Configured)
    (registered : gateway.Registered identity) : identity.affinity.bytes ≤ 2048 := by
  obtain ⟨server, listed, resolved, resolution, same⟩ := registered.server
  have transport := configured.transports server listed
  rw [← same]
  cases kind : server.transport with
  | other => simp [validateTransport, kind] at transport
  | streamableHttp =>
    simp only [validateTransport, kind, refuseIf_ok, not_not, ne_eq] at transport
    simp only [resolveServerRegistration, kind, ne_eq, reduceCtorEq, not_false_eq_true, if_true, pure_ok] at resolution
    rw [resolution.symm, transport]
    decide +kernel
  | stdio =>
    simp only [validateTransport, kind] at transport
    have template := validateAffinity_bytes transport
    obtain ⟨scopeId, bound⟩ := resolveServerRegistration_affinity resolution
    rw [bound]
    exact template

theorem Gateway.ValidLedgerRecord.bytes_le {record : LedgerRecord} {allowInflight : Bool}
    (valid : gateway.ValidLedgerRecord record allowInflight) :
    ledgerEventBytes record ≤ gateway.bounds.maxProviderRequestIdBytes +
      gateway.bounds.maxExternalCommitIdBytes + gateway.bounds.maxOutputBytes +
      gateway.bounds.maxFailureBytes := by
  obtain ⟨-, -, named, commit, output, reason, -⟩ := valid
  have first := named.size
  have second := commit.size
  have third := reason.size
  simp only [ledgerEventBytes]
  omega

/-- No accepted event is large enough to overflow the account of bytes. -/
theorem Gateway.validateEvent_bytes {eventBytes : Nat} (configured : gateway.Configured)
    (valid : gateway.ValidEffect effect) (ok : gateway.validateEvent effect event = .ok eventBytes) :
    eventBytes ≤ 2 ^ 32 := by
  have output := configured.bounds.output.2
  have chunk := configured.bounds.chunkInOutput
  have providerRequestId := configured.bounds.providerRequestId.2
  have externalCommitId := configured.bounds.externalCommitId.2
  have failure := configured.bounds.failure.2
  have targetRef := configured.bounds.targetRef.2
  have protocolVersion := configured.bounds.protocolVersion.2
  have serverId := configured.bounds.serverId.2
  simp only [hardMaxOutputBytes, hardMaxProviderRequestIdBytes, hardMaxExternalCommitIdBytes,
    hardMaxFailureBytes, hardMaxTargetRefBytes, hardMaxIdentifierBytes] at *
  unfold validateEvent at ok
  cases kind : event.kind with
  | other => simp [kind] at ok
  | beginDispatch | settlementCompleted | cancelRequested =>
    simp only [kind, steps_ok] at ok
    omega
  | providerAccepted =>
    simp only [kind, steps_ok] at ok
    have named := ok.1.2.size
    omega
  | outputChunk =>
    simp only [kind, steps_ok, not_lt] at ok
    omega
  | callCommitted =>
    simp only [kind, steps_ok, not_lt] at ok
    have named := ok.2.1.2.2.size
    omega
  | dispatchFailed =>
    simp only [kind, steps_ok] at ok
    have reason := ok.2.1.2.size
    omega
  | negotiationRecorded =>
    simp only [kind, steps_ok] at ok
    obtain ⟨attempt, -, ⟨-, -, receipt⟩, rfl⟩ := ok
    have affinity := (gateway.registered valid.registration).affinity_bytes configured
    obtain ⟨-, -, server, -, -, target, protocol, -⟩ := valid.admission
    have first := server.1.size
    have second := target.1.size
    have third := protocol.size
    obtain ⟨-, -, -, -, -, descriptor, -, -, -, version, backend, -⟩ := receipt
    simp only [BackendAffinity.bytes] at affinity
    simp only [negotiationEventBytes, descriptor, version, backend, EffectIdentity.server]
    split <;> omega
  | cancellationResolved =>
    simp only [kind, steps_ok] at ok
    obtain ⟨answer, -, rfl⟩ := ok
    have reason : cancellationUnknownReason.utf8ByteSize ≤ 64 := by decide +kernel
    have record : ledgerEventBytes event.ledger ≤ 2 ^ 28 := by
      cases given : event.cancellation with
      | committed =>
        simp only [validateCancellation, given, refuseIf_ok, not_not] at answer
        have bounded := answer.2.bytes_le
        omega
      | prevented | absent | unknown =>
        simp only [validateCancellation, given, refuseIf_ok, ne_eq, not_not] at answer
        simp [answer]
      | none | other => simp [validateCancellation, given] at answer
    split <;> omega
  | recoveryObserved =>
    simp only [kind, steps_ok] at ok
    obtain ⟨-, record, rfl⟩ := ok
    have bounded := record.bytes_le
    have failed : externalFailedReason.utf8ByteSize ≤ 64 := by decide +kernel
    have absent : ledgerAbsentReason.utf8ByteSize ≤ 64 := by decide +kernel
    have unknown : ledgerUnknownReason.utf8ByteSize ≤ 64 := by decide +kernel
    split <;> omega
  | confirmationDecided =>
    simp only [kind, steps_ok] at ok
    obtain ⟨-, -, rfl⟩ := ok
    have retry : confirmationRetryReason.utf8ByteSize ≤ 64 := by decide +kernel
    have unknown : confirmationAbandonUnknownReason.utf8ByteSize ≤ 64 := by decide +kernel
    have declined : confirmationDeclinedReason.utf8ByteSize ≤ 64 := by decide +kernel
    split
    · omega
    · split <;> omega

end Size

/-- The event passes every check but those of the event limit. -/
structure Gateway.OtherwiseValid (gateway : Gateway) (effect : Effect) (event : Event) : Prop where
  stored : gateway.validateEffect effect = .ok ()
  revision : event.expectedRevision = effect.revision
  checked : ∃ eventBytes, gateway.validateEvent effect event = .ok eventBytes
  moved : ∃ transition, gateway.move effect event = .ok transition

/-- After any run, a planned event is refused for no event limit, unless it is an output chunk or the absent
record of a partial stream. -/
theorem run_budget_suffices {digestCanonicalCall : CallDigest} {configuration : Configuration}
    {dependencies : Dependencies} {verifiedProduction : Bool} {admitted : Effect} {steps : List Application}
    (built : newGateway digestCanonicalCall configuration dependencies verifiedProduction = .ok gateway)
    (run : gateway.Run admitted steps effect)
    (planned : effect.Planned event) (kept : ¬ effect.Regrants event) (single : event.kind ≠ .outputChunk)
    (otherwise : gateway.OtherwiseValid effect event) :
    ∃ transition, gateway.apply effect event = .ok transition := by
  have configured := newGateway_configured built
  obtain ⟨waits, budget⟩ := run.affords configured
  obtain ⟨validated, revision, ⟨eventBytes, checked⟩, transition, moved⟩ := otherwise
  have valid := gateway.validateEffect_valid validated
  have known := configured.policy (gateway.registered valid.registration)
  have validEvent := (gateway.validateEvent_valid checked).1
  have move := gateway.move_moved validEvent moved
  have less := move.reserve_lt valid known waits planned kept single
  have within := move.within valid validEvent
  have counted := within.eventCount
  have bytes := gateway.validateEvent_bytes configured valid checked
  have ceiling := configured.maximumEventBytes_le
  have events := configured.bounds.events.2
  obtain ⟨-, counter, -, -, -, -, chunks, -, account, -⟩ := valid.progress
  simp only [hardMaxEvents] at events
  simp only [Gateway.apply, steps_ok, not_lt]
  refine ⟨_, validated, revision, ?_, eventBytes, checked, ?_, transition, moved, ?_, rfl⟩
  · simp only [maxUint64]
    omega
  · simp only [maxUint64]
    omega
  · omega

/-- A gateway with one tool, of one chunk and one automatic retry; the envelope of the tool is 15 events. -/
def streamGateway (maxEvents : Nat) : Gateway :=
  sampleGateway (sampleBounds 64 1 maxEvents) (sampleTool .safe 1 0)

def absentReport (revision : Nat) : Event :=
  { Event.plain revision .recoveryObserved with
    ledger := { LedgerRecord.zero with
      invocationId := sampleScope.invocationId, requestDigest := 1, status := .absent } }

/-- A partial stream of unknown outcome, on a server without an invocation ledger, and what follows it. -/
def partialStream (maxEvents : Nat) (rest : List Event) : List Application × Effect :=
  sampleRun (sampleBounds 64 1 maxEvents) (sampleTool .safe 1 0) false ([.plain 1 .beginDispatch,
      { Event.plain 2 .negotiationRecorded with negotiation := sampleReceipt 1 false },
      { Event.plain 3 .providerAccepted with providerRequestId := "x" },
      { Event.plain 4 .outputChunk with chunk := [1] }, failureReport 5 .unknown] ++ rest)

/-- The absent record would grant the stream its retry, which the reserve no longer pays for. -/
theorem partialStream_over_budget :
    newGateway sampleDigest (sampleConfiguration (sampleBounds 64 1 15) (sampleTool .safe 1 0))
        sampleDependencies false = .ok (streamGateway 15) ∧
      (streamGateway 15).Run (sampleEffect (sampleTool .safe 1 0) false) (partialStream 15 []).1
        (partialStream 15 []).2 ∧
      (partialStream 15 []).1.length = 5 ∧ (∀ step ∈ (partialStream 15 []).1, step.before.Planned step.event) ∧
      (partialStream 15 []).2.Planned (absentReport 6) ∧
      (streamGateway 15).OtherwiseValid (partialStream 15 []).2 (absentReport 6) ∧
      (streamGateway 15).apply (partialStream 15 []).2 (absentReport 6) = .error ↑GatewayError.eventLimit := by
  refine ⟨rfl, sampleRun_run (by decide +kernel), by decide +kernel, by decide +kernel, by decide +kernel,
    ⟨by decide +kernel, by decide +kernel, ⟨_, rfl⟩, ⟨_, rfl⟩⟩, by decide +kernel⟩

/-- With one more retry in the bound the absent record is accepted, and the retry is paid for. -/
theorem run_budget_suffices_regranted :
    (∃ step ∈ (partialStream 25 [absentReport 6]).1, step.before.Regrants step.event) ∧
      ∃ transition, (streamGateway 25).apply (partialStream 25 [absentReport 6]).2 (.plain 7 .beginDispatch) =
        .ok transition :=
  ⟨by decide +kernel, run_budget_suffices
    (show newGateway sampleDigest (sampleConfiguration (sampleBounds 64 1 25) (sampleTool .safe 1 0))
      sampleDependencies false = .ok (streamGateway 25) from rfl)
    (show (streamGateway 25).Run (sampleEffect (sampleTool .safe 1 0) false) (partialStream 25 [absentReport 6]).1 _
      from sampleRun_run (by decide +kernel))
    (by decide +kernel) (by decide +kernel) (by decide)
    ⟨by decide +kernel, by decide +kernel, ⟨_, rfl⟩, ⟨_, rfl⟩⟩⟩

end Circulusd.Mcp
