import Circulusd.Mcp.Reserve
import Circulusd.Mcp.Runs

/-
What can still happen to an effect whose outcome is decided.
-/

namespace Circulusd.Mcp

open Checked Effect Platform List Option

variable {gateway : Gateway} {effect next : Effect} {event : Event} {attempt : AttemptRecord} {transition : Transition}

/-- The outcome of the effect is decided. -/
def Effect.Settled (effect : Effect) : Prop :=
  effect.state = .completed ∨ effect.state = .cancelled ∨
    effect.state = .failed ∧ effect.latestAttempt.failure ≠ .unknown

/-- The events that a failed effect needs in reserve once an absent or unknown outcome reopens it. -/
def Effect.reopenedReserve (effect : Effect) (failure : FailureClass) : Nat :=
  let heldReserve := if effect.replayPolicy = .confirm then
      max effect.knownRequestedConfirmationEvents (effect.lateUnrequestedEvents + 1)
    else effect.lateUnrequestedEvents
  if effect.cancellationRequested then
    if failure = .ledgerAbsent then 0
    else if effect.replayPolicy = .confirm then effect.requestedConfirmationEvents
    else effect.requestedUnknownEvents
  else if failure = .unknown ∧ effect.latestAttempt.hadOutput ∧ ¬ effect.supportsInvocationLedger then
    heldReserve
  else match effect.replayPolicy with
    | .safe | .idempotencyKey =>
      if effect.automaticRetriesUsed < effect.maxAutomaticRetries then 4 * (effect.automaticLeft - 1) + 10
      else if failure = .ledgerAbsent then 0
      else effect.lateUnrequestedEvents
    | .never => if failure = .ledgerAbsent then 0 else effect.lateUnrequestedEvents
    | .confirm => max effect.knownRequestedConfirmationEvents
        (if failure = .ledgerAbsent then effect.lateUnrequestedEvents
          else effect.lateUnrequestedEvents + 1)
    | .other _ => 0

/-- A dispatch failure of absent or unknown outcome, reported for an effect that has failed. The
last four fields are what the gateway checks of any such report. -/
structure Reopens (gateway : Gateway) (effect : Effect) (event : Event) : Prop where
  state : effect.state = .failed
  attempted : effect.attempts ≠ []
  kind : event.kind = .dispatchFailed
  failure : event.failure = .ledgerAbsent ∨ event.failure = .unknown
  revision : event.expectedRevision = effect.revision
  carried : event = { event.bare with failure := event.failure, reason := event.reason }
  reason : ValidBoundedText event.reason gateway.bounds.maxFailureBytes
  room : effect.eventCount + 1 + effect.reopenedReserve event.failure ≤ gateway.bounds.maxEvents

section

variable {failure : FailureClass} {reason : String} (outcome : Classified effect attempt reason failure next)
include outcome

/-- A failed effect of decided outcome reserves, once reopened, what the formula says. -/
theorem Classified.reopenedReserve (current : effect.currentAttempt = some attempt) (state : effect.state = .failed)
    (decided : attempt.failure ≠ .unknown) : next.minimumRemainingEvents = effect.reopenedReserve failure := by
  have latest := effect.latestAttempt_of_current current
  have reserve := effect.reserve_classified current failure reason
  have late : effect.reserveIn .uncertain =
    if effect.cancellationRequested then effect.requestedUnknownEvents else effect.lateUnrequestedEvents := rfl
  have kept : (effect.classified attempt failure reason).replayPolicy = effect.replayPolicy := rfl
  cases outcome with
  | notSent dispatching | rejected dispatching => simp [state] at dispatching
  | absentFailed _ unknown => exact absurd unknown decided
  | absentRequested _ requested =>
    simp [minimumRemainingEvents, reserveIn, reopenedReserve, requested]
  | unknownRequested _ requested =>
    simp [reserve_held, kept, reserve, late, reopenedReserve, requested]
  | unknownStreamed _ unrequested streamed unledgered =>
    simp [reserve_held, kept, reserve, late, reopenedReserve, unrequested, latest, streamed, unledgered]
  | replayable undecided policy =>
    have room : (effect.classified attempt failure reason).automaticRetriesUsed = effect.automaticRetriesUsed ∧
      (effect.classified attempt failure reason).maxAutomaticRetries = effect.maxAutomaticRetries := ⟨rfl, rfl⟩
    have spent : (effect.classified attempt failure reason).spendRetry.reserveIn .retryPending =
        4 * (effect.automaticLeft - 1) + 10 := by
      have given : (effect.classified attempt failure reason).spendRetry.replayPolicy = effect.replayPolicy := rfl
      have left : (effect.classified attempt failure reason).automaticLeft = effect.automaticLeft := rfl
      rcases policy with policy | ⟨policy, -⟩ <;> simp [reserveIn, given, policy, left]
    have unstreamed := latest ▸ undecided.not_streamed
    simp only [reserve_retryOr, room, spent, reopenedReserve, undecided.unrequested, if_neg unstreamed]
    rcases undecided.evidence with ⟨rfl, -⟩ | ⟨rfl, -⟩ <;> rcases policy with policy | ⟨policy, -⟩ <;>
      simp [policy, reserve, late, undecided.unrequested]
  | unreplayable undecided policy | confirmable undecided policy =>
    have unstreamed := latest ▸ undecided.not_streamed
    simp only [reserve_moveTo, reopenedReserve, undecided.unrequested, if_neg unstreamed, policy]
    rcases undecided.evidence with ⟨rfl, -⟩ | ⟨rfl, -⟩ <;> simp [reserve, late, undecided.unrequested]

theorem Classified.eventCount : next.eventCount = effect.eventCount := by
  rw [outcome.shape]
  rfl

/-- Outside `dispatching` and `dispatched` only an absent or unknown outcome can be recorded. -/
theorem Classified.lost (notDispatching : effect.state ≠ .dispatching) (notDispatched : effect.state ≠ .dispatched) :
    effect.state.unresolvable = true ∧ (failure = .ledgerAbsent ∨ failure = .unknown) := by
  cases outcome with
  | notSent state => exact absurd state notDispatching
  | rejected state => exact (state.elim notDispatching notDispatched).elim
  | absentRequested state => exact ⟨state, .inl rfl⟩
  | unknownRequested state | unknownStreamed state => exact ⟨state, .inr rfl⟩
  | absentFailed state => exact ⟨by simp [state, State.unresolvable], .inl rfl⟩
  | replayable undecided | unreplayable undecided | confirmable undecided =>
    exact ⟨undecided.state, undecided.evidence.imp And.left And.left⟩

end

namespace Effect.Settled

theorem ne (settled : effect.Settled) {state : State}
    (undecided : state ∉ [State.completed, State.cancelled, State.failed]) : effect.state ≠ state := by
  rintro rfl
  rcases settled with completed | cancelled | ⟨failed, -⟩ <;> simp_all

theorem known (settled : effect.Settled) (current : effect.currentAttempt = some attempt)
    (failed : effect.state = .failed) : attempt.failure ≠ .unknown := by
  rcases settled with completed | cancelled | ⟨-, known⟩
  · simp [failed] at completed
  · simp [failed] at cancelled
  · rwa [effect.latestAttempt_of_current current] at known

theorem not_observable (settled : effect.Settled) : effect.observable = false := by
  rcases settled with completed | cancelled | ⟨failed, known⟩
  · simp [observable, completed]
  · simp [observable, cancelled]
  · cases current : effect.currentAttempt with
    | none => simp [observable, failed, current]
    | some attempt =>
      rw [effect.latestAttempt_of_current current] at known
      simp [observable, failed, current, known]

theorem not_cancellable (settled : effect.Settled) : ¬ effect.Cancellable := by
  rintro (state | state | state | state | state | ⟨attempt, -, state, -⟩ | ⟨attempt, current, state, unknown⟩)
  all_goals first
    | exact settled.known current state unknown
    | exact settled.ne (by decide) state

end Effect.Settled

/-- Only a dispatch failure of absent or unknown outcome moves an effect whose outcome is decided. -/
theorem Gateway.reopens_of_apply (settled : effect.Settled)
    (ok : gateway.apply effect event = .ok transition) : Reopens gateway effect event := by
  obtain ⟨-, checked, revision, moved, move, room, -⟩ := gateway.apply_applied ok
  have impossible {state : State} (undecided : state ∉ [State.completed, State.cancelled, State.failed])
      (found : effect.state = state) : False := settled.ne undecided found
  have unobservable (observable : effect.observable = true) : False := by
    simp [settled.not_observable] at observable
  cases move with
  | dispatched _ from_ | streamed _ _ from_ =>
    exact (from_.elim (impossible (by decide)) (impossible (by decide))).elim
  | negotiated _ _ from_ | accepted _ _ from_ | settled _ from_ | cancelConfirmed _ _ from_
  | cancelUnknown _ _ from_ | confirmed _ _ from_ | abandoned _ _ from_ =>
    exact (impossible (by decide) from_).elim
  | cancelledAtOnce _ unsent =>
    exact (unsent.elim (impossible (by decide)) fun pending => impossible (by decide) pending.1).elim
  | cancelSent _ sent => exact (settled.not_cancellable sent).elim
  | committed _ current from_ late =>
    have failed : effect.state = .failed := by
      simp only [mem_cons, not_mem_nil, or_false] at from_
      rcases from_ with h | h | h | h | h | h
      all_goals first | exact h | exact (impossible (by decide) h).elim
    exact absurd (late failed) (settled.known current failed)
  | recordCommitted commits =>
    exact (commits.elim (fun pending => impossible (by decide) pending.2.2)
      fun observed => unobservable observed.2).elim
  | resumed _ _ observable | failedExternally _ _ observable => exact (unobservable observable).elim
  | identified _ _ _ from_ =>
    rcases from_ with h | h | h
    all_goals exact (impossible (by decide) h).elim
  | @classified attempt failure reason next verdict observable current outcome =>
    rcases event.classification_cases verdict with ⟨kind, rfl, rfl⟩ | ⟨recovery, -⟩
    · obtain ⟨state, lost⟩ := outcome.lost (impossible (by decide)) (impossible (by decide))
      have failed : effect.state = .failed := by
        rcases settled with completed | cancelled | ⟨failed, -⟩
        · simp [completed, State.unresolvable] at state
        · simp [cancelled, State.unresolvable] at state
        · exact failed
      obtain ⟨carried, valid⟩ := checked.failure kind
      have attempted : effect.attempts ≠ [] := by
        rw [effect.attempts_of_current current]
        simp
      simp only [Transition.quiet, outcome.eventCount,
        outcome.reopenedReserve current failed (settled.known current failed)] at room
      exact ⟨failed, attempted, kind, lost, revision, carried, valid, room⟩
    · exact (unobservable (observable recovery)).elim

/-- An absent or unknown outcome is recorded in every state that may still learn it. -/
theorem Effect.applyUnresolved_ok (attempt : AttemptRecord) (failure : FailureClass) (reason : String)
    (state : effect.state.unresolvable = true) (policy : effect.replayPolicy ∈
      [ReplayPolicy.safe, ReplayPolicy.idempotencyKey, ReplayPolicy.never, ReplayPolicy.confirm])
    (deduplicated : effect.replayPolicy = .idempotencyKey → effect.supportsIdempotencyKey = true) :
    ∃ next, effect.applyUnresolved attempt failure reason = .ok next := by
  simp only [applyUnresolved, steps_ok, state, reduceCtorEq, not_false_eq_true, true_and]
  simp only [mem_cons, not_mem_nil, or_false] at policy
  split
  · split <;> exact ⟨_, rfl⟩
  split
  · exact ⟨_, rfl⟩
  split
  · exact ⟨_, rfl⟩
  rcases policy with policy | policy | policy | policy
  · exact ⟨_, by simp [policy]; rfl⟩
  · exact ⟨_, by simp [policy, deduplicated policy]; rfl⟩
  · exact ⟨_, by simp [policy]; rfl⟩
  · exact ⟨_, by simp [policy]; rfl⟩

theorem Gateway.apply_of_reopens (configured : gateway.Configured)
    (ok : gateway.validateEffect effect = .ok ()) (settled : effect.Settled)
    (reopens : Reopens gateway effect event) : ∃ transition, gateway.apply effect event = .ok transition := by
  have valid := gateway.validateEffect_valid ok
  have registered := gateway.registered valid.registration
  obtain ⟨attempt, current⟩ : ∃ attempt, effect.currentAttempt = some attempt :=
    isSome_iff_exists.mp (getLast?_isSome.mpr reopens.attempted)
  obtain ⟨next, recorded⟩ := effect.applyUnresolved_ok attempt event.failure event.reason
    (by simp [reopens.state, State.unresolvable]) (configured.policy registered)
    (fun keyed => (registered.deduplicated keyed).1)
  have outcome := effect.applyUnresolved_classified reopens.failure recorded
  have moved : gateway.move effect event = .ok (.quiet next) := by
    simp only [move, reopens.kind, map_ok_iff, applyFailure, steps_ok]
    refine ⟨next, ⟨attempt, current, ?_⟩, rfl⟩
    rcases reopens.failure with failure | failure <;> simpa only [failure] using recorded
  have checked : gateway.validateEvent effect event = .ok event.reason.utf8ByteSize := by
    simp only [validateEvent, reopens.kind, steps_ok, and_true]
    exact ⟨by rcases reopens.failure with failure | failure <;> simp [failure], reopens.carried, reopens.reason⟩
  have room := reopens.room
  have revision := valid.progress.2.1
  have events := configured.bounds.events.2
  have short := reopens.reason.size
  have failureBytes := configured.bounds.failure.2
  have eventBytes : effect.eventBytes ≤ gateway.maximumEventBytes := valid.progress.2.2.2.2.2.2.2.2.1
  have ceiling := configured.maximumEventBytes_le
  simp only [hardMaxEvents, hardMaxFailureBytes] at events failureBytes
  simp only [apply, steps_ok, not_lt]
  refine ⟨_, ok, reopens.revision, ?_, _, checked, ?_, _, moved, ?_, rfl⟩
  · simp only [maxUint64]
    omega
  · simp only [maxUint64]
    omega
  · simpa only [Transition.quiet, outcome.eventCount, outcome.reopenedReserve current reopens.state
      (settled.known current reopens.state)] using room

/-- An effect of decided outcome refuses every event, but for the report of an absent or unknown
outcome of an effect that has failed. -/
theorem apply_settled_iff {digestCanonicalCall : CallDigest} {configuration : Configuration}
    {dependencies : Dependencies} {verifiedProduction : Bool}
    (built : newGateway digestCanonicalCall configuration dependencies verifiedProduction = .ok gateway)
    (accepted : gateway.validateEffect effect = .ok ()) (settled : effect.Settled) (event : Event) :
    (∃ refusal, gateway.apply effect event = .error refusal) ↔ ¬ Reopens gateway effect event := by
  constructor
  · rintro ⟨refusal, refused⟩ reopens
    obtain ⟨transition, applied⟩ :=
      gateway.apply_of_reopens (newGateway_configured built) accepted settled reopens
    simp [refused] at applied
  · intro closed
    cases result : gateway.apply effect event with
    | error refusal => exact ⟨refusal, rfl⟩
    | ok transition => exact absurd (gateway.reopens_of_apply settled result) closed

/-- A call under policy `never` whose provider rejected the only attempt. -/
def rejectedEffect : Effect :=
  { sampleEffect (sampleTool .never 0 0) true with
    state := .failed, revision := 3, eventCount := 2, eventBytes := 1
    attempts := [{ AttemptRecord.fresh 1 with failure := .rejected }], failureReason := "r" }

theorem rejectedEffect_settled : rejectedEffect.Settled := by
  exact .inr (.inr (by decide +kernel))

theorem apply_settled_iff_rejected :
    (∃ refusal, (sampleGateway (sampleBounds 64 4 64) (sampleTool .never 0 0)).apply rejectedEffect
        (.plain 3 .settlementCompleted) = .error refusal) ↔
      ¬ Reopens (sampleGateway (sampleBounds 64 4 64) (sampleTool .never 0 0)) rejectedEffect
        (.plain 3 .settlementCompleted) :=
  apply_settled_iff (show newGateway sampleDigest (sampleConfiguration (sampleBounds 64 4 64) (sampleTool .never 0 0))
      sampleDependencies false = .ok _ from rfl)
    (by decide +kernel) rejectedEffect_settled _

/-- The rejected call is reopened: an unknown outcome reported afterwards makes it uncertain again. -/
theorem rejected_reopened : ∃ transition, (sampleGateway (sampleBounds 64 4 64) (sampleTool .never 0 0)).validateEffect
        rejectedEffect = .ok () ∧ rejectedEffect.Settled ∧
      (sampleGateway (sampleBounds 64 4 64) (sampleTool .never 0 0)).apply rejectedEffect
        (failureReport 3 .unknown) = .ok transition ∧ transition.effect.state = .uncertain := by
  refine ⟨.quiet { rejectedEffect with
    state := .uncertain, revision := 4, eventCount := 3, eventBytes := 2
    attempts := [{ AttemptRecord.fresh 1 with failure := .unknown }] }, ?_, rejectedEffect_settled, ?_, rfl⟩
  · decide +kernel
  · decide +kernel

end Circulusd.Mcp
