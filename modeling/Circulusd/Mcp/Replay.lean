import Circulusd.Mcp.Runs

/-
The law of replays: which attempts a run may make after the first, and what they carry.
-/

namespace Circulusd.Mcp

open Effect List

variable {gateway : Gateway} {admitted effect : Effect} {steps past : List Application} {step : Application}

def Application.dispatches (application : Application) : Bool :=
  application.transition.dispatch.isSome

/-- The commands that a run sent to the provider. -/
def dispatches (steps : List Application) : List DispatchCommand :=
  steps.filterMap fun step => step.transition.dispatch

/-- The event that confirms a retry. -/
def Event.ConfirmsRetry (event : Event) : Prop :=
  event.kind = .confirmationDecided ∧ event.decision = .retry

/-- The events that record an unknown outcome on the latest attempt. -/
def Event.RecordsUnknown (event : Event) : Prop :=
  event.kind = .dispatchFailed ∧ event.failure = .unknown ∨
    event.kind = .recoveryObserved ∧ event.ledger.status = .unknown ∨
    event.kind = .cancellationResolved ∧ event.cancellation = .unknown

/-- The laws of the dispatch commands of a run. -/
structure ReplaySafe (admitted : Effect) (steps : List Application) : Prop where
  never : admitted.replayPolicy = .never → ∀ step ∈ steps, step.dispatches = true →
    ∀ attempt ∈ step.before.attempts, attempt.failure = .definitelyNotSent
  /-- The confirmed retry is the very event before the dispatch. -/
  confirm : admitted.replayPolicy = .confirm → ∀ past step rest, steps = past ++ step :: rest →
    step.dispatches = true → ∀ attempt, step.before.currentAttempt = some attempt →
      attempt.failure = .definitelyNotSent ∨ ∃ earlier retry, past = earlier ++ [retry] ∧ retry.event.ConfirmsRetry
  uncancelled : ∀ step ∈ steps, step.dispatches = true →
    step.before.cancellationRequested = false ∧ step.after.cancellationRequested = false
  partialOutput : ∀ step ∈ steps, step.event.RecordsUnknown → step.before.latestAttempt.hadOutput = true →
    step.before.supportsInvocationLedger = false → step.after.state ≠ .retryPending
  count : (dispatches steps).length ≤ 1 + admitted.maxAutomaticRetries + admitted.maxConfirmationRetries
  uniform : ∀ first ∈ dispatches steps, ∀ second ∈ dispatches steps,
    first.invocationId = second.invocationId ∧ first.requestDigest = second.requestDigest ∧
      first.inputCanonical = second.inputCanonical ∧ first.idempotencyKey = second.idempotencyKey

/-- What a run keeps to obey the laws: the attempts it paid for and why the next one may start. -/
structure ReplayInvariant (admitted : Effect) (past : List Application) (effect : Effect) : Prop where
  identity : effect.toEffectIdentity = admitted.toEffectIdentity
  funded : effect.Funded
  counted : (dispatches past).length = effect.attempts.length
  commands : ∀ command ∈ dispatches past, command = admitted.dispatchCommand command.attempt
  earlier : admitted.replayPolicy = .never → ∀ attempt ∈ effect.attempts.dropLast, attempt.failure = .definitelyNotSent
  pending : effect.state = .retryPending → ∀ attempt, effect.currentAttempt = some attempt →
    attempt.failure = .definitelyNotSent ∨ admitted.replayPolicy = .confirm ∧
        (∃ earlier retry, past = earlier ++ [retry] ∧ retry.event.ConfirmsRetry) ∨
      admitted.replayPolicy = .safe ∨ admitted.replayPolicy = .idempotencyKey

theorem Effect.dispatchCommand_congr (identity : effect.toEffectIdentity = admitted.toEffectIdentity)
    (attempt : Nat) : effect.dispatchCommand attempt = admitted.dispatchCommand attempt := by
  simp only [dispatchCommand, identity]

theorem ReplayInvariant.initial (start : gateway.Admits admitted) : ReplayInvariant admitted [] admitted := by
  rw [start.fresh]
  refine ⟨rfl, ⟨Nat.zero_le _, Nat.zero_le _, Nat.zero_le _⟩, rfl, ?_, ?_, ?_⟩
  · simp [dispatches]
  · simp
  · simp

/-- Before a dispatch under policy `never` no attempt reached the provider. -/
theorem ReplayInvariant.unsent (invariant : ReplayInvariant admitted past effect)
    (valid : gateway.ValidEffect effect) (policy : admitted.replayPolicy = .never)
    (state : effect.state = .admitted ∨ effect.state = .retryPending) :
    ∀ attempt ∈ effect.attempts, attempt.failure = .definitelyNotSent := by
  rcases state with state | state
  · have shape := valid.shape
    rw [state] at shape
    simp [shape.1]
  · cases current : effect.currentAttempt with
    | none => simp [getLast?_eq_none_iff.mp current]
    | some latest =>
      intro attempt member
      rw [effect.attempts_of_current current, mem_append, mem_singleton] at member
      rcases member with before | rfl
      · exact invariant.earlier policy attempt before
      · rcases invariant.pending state attempt current with unsent | ⟨confirm, -⟩ | other | other
        · exact unsent
        all_goals simp [policy] at *

theorem dispatches_concat (past : List Application) (step : Application) :
    dispatches (past ++ [step]) = dispatches past ++ step.transition.dispatch.toList := by
  cases sent : step.transition.dispatch <;> simp [dispatches, sent]

theorem ReplayInvariant.preserved (invariant : ReplayInvariant admitted past effect) {after : Effect}
    (taken : gateway.Step effect step after) : ReplayInvariant admitted (past ++ [step]) after := by
  obtain ⟨valid, moved, move, rfl, command⟩ := taken.moved
  have policy : effect.replayPolicy = admitted.replayPolicy := by rw [invariant.identity]
  have identity : moved.effect.toEffectIdentity = admitted.toEffectIdentity :=
    move.identity.trans invariant.identity
  obtain ⟨automatic, confirmation, attempts⟩ := move.funded invariant.funded
  have funded : (moved.effect.counted (step.event.size effect)).Funded :=
    ⟨automatic, confirmation, attempts⟩
  rcases move.attempts with ⟨quiet, dropLast, length⟩ | ⟨-, dispatched⟩
  · have silent : dispatches (past ++ [step]) = dispatches past := by
      simp [dispatches_concat, command, quiet]
    refine ⟨identity, funded, ?_, ?_, ?_, ?_⟩
    · rw [silent]
      exact invariant.counted.trans length.symm
    · rw [silent]
      exact invariant.commands
    · intro never attempt member
      exact invariant.earlier never attempt (dropLast ▸ member)
    · intro state attempt current
      rcases move.retryPending state with ⟨kind, retry, confirm⟩ | ⟨latest, found, unsent⟩ | replays
      · exact .inr (.inl ⟨policy ▸ confirm, past, step, rfl, kind, retry⟩)
      · have same : latest = attempt := Option.some.inj (found.symm.trans current)
        exact .inl (same ▸ unsent)
      · exact .inr (.inr (policy ▸ replays))
  · have sent : dispatches (past ++ [step]) =
        dispatches past ++ [admitted.dispatchCommand (effect.attempts.length + 1)] := by
      rw [dispatches_concat, command, dispatched.command, dispatchCommand_congr invariant.identity]
      rfl
    refine ⟨identity, funded, ?_, ?_, ?_, ?_⟩
    · have length : (moved.effect.counted (step.event.size effect)).attempts.length = effect.attempts.length + 1 := by
        simp [Effect.counted, dispatched.attempts]
      rw [sent, length, ← invariant.counted, length_append, length_singleton]
    · rw [sent]
      intro candidate member
      rcases mem_append.mp member with old | new
      · exact invariant.commands candidate old
      · rw [mem_singleton.mp new]
        rfl
    · intro never attempt member
      have before : attempt ∈ effect.attempts := by
        simpa [Effect.counted, dispatched.attempts] using member
      exact invariant.unsent valid never dispatched.source attempt before
    · intro state
      have target : (moved.effect.counted (step.event.size effect)).state = .dispatching :=
        dispatched.target
      simp [target] at state

theorem replayInvariant (run : gateway.Run admitted steps effect) : ReplayInvariant admitted steps effect :=
  run.run.traceInvariant (.initial run.admission) fun _ _ _ _ taken invariant => invariant.preserved taken

/-- A partial stream without a ledger is never replayed on an unknown outcome. -/
theorem Classified.streamed_not_retried {attempt : AttemptRecord} {reason : String} {next : Effect}
    (outcome : Classified effect attempt reason .unknown next) (streamed : attempt.hadOutput = true)
    (unledgered : effect.supportsInvocationLedger = false) : next.state ≠ .retryPending := by
  cases outcome with
  | unknownRequested | unknownStreamed =>
    simp only [held, moveTo]
    split <;> simp
  | unreplayable => simp
  | confirmable => simp
  | replayable undecided =>
    exact absurd ⟨rfl, streamed, by simp [unledgered]⟩ undecided.not_streamed

theorem Moved.streamed_not_retried {event : Event} {transition : Transition}
    (moved : Moved gateway effect event transition) (unknown : event.RecordsUnknown)
    (streamed : effect.latestAttempt.hadOutput = true)
    (unledgered : effect.supportsInvocationLedger = false) : transition.effect.state ≠ .retryPending := by
  intro pending
  cases moved with
  | @classified attempt failure reason next verdict _ current outcome =>
    have lost : failure = .unknown := by
      rcases event.classification_cases verdict with ⟨kind, rfl, -⟩ | ⟨kind, ⟨status, -, -⟩ | ⟨-, same, -⟩⟩
      · simpa [Event.RecordsUnknown, kind] using unknown
      · simp [Event.RecordsUnknown, kind, status] at unknown
      · exact same
    subst lost
    rw [effect.latestAttempt_of_current current] at streamed
    exact outcome.streamed_not_retried streamed unledgered pending
  | confirmed kind => simp [Event.RecordsUnknown, kind] at unknown
  | cancelUnknown =>
    simp only [Transition.quiet, held, moveTo] at pending
    split at pending <;> simp at pending
  | dispatched kind | negotiated kind | accepted kind | streamed kind | committed kind | settled kind
  | cancelledAtOnce kind | cancelSent kind | abandoned kind =>
    simp [Event.RecordsUnknown, kind] at unknown
  | cancelConfirmed | recordCommitted | failedExternally => simp at pending
  | resumed kind status => simp [Event.RecordsUnknown, kind, status] at unknown
  | identified kind status => simp [Event.RecordsUnknown, kind, status] at unknown

/-- Every run obeys the laws of replays. -/
theorem run_replay_safe (run : gateway.Run admitted steps effect) : ReplaySafe admitted steps := by
  -- Each law looks at one step, where the invariant of the steps before it holds.
  have at_ (past : List Application) (step : Application) (rest : List Application)
      (split : steps = past ++ step :: rest) :
      ∃ after, ReplayInvariant admitted past step.before ∧ gateway.Step step.before step after := by
    obtain ⟨before, after, front, taken, -⟩ := (split ▸ run.run).at
    obtain rfl := taken.source
    exact ⟨after, replayInvariant ⟨run.admission, front⟩, taken⟩
  have dispatch (past : List Application) (step : Application) (rest : List Application)
      (split : steps = past ++ step :: rest) (sent : step.dispatches = true) :
      ReplayInvariant admitted past step.before ∧ gateway.ValidEffect step.before ∧
        (step.before.state = .admitted ∨ step.before.state = .retryPending) ∧
        step.before.cancellationRequested = false ∧ step.after.cancellationRequested = false := by
    obtain ⟨after, invariant, taken⟩ := at_ past step rest split
    obtain ⟨valid, moved, move, rfl, command⟩ := taken.moved
    rcases move.attempts with ⟨quiet, -⟩ | ⟨-, dispatched⟩
    · simp [Application.dispatches, command, quiet] at sent
    · refine ⟨invariant, valid, dispatched.source, dispatched.unrequested, ?_⟩
      rw [taken.target]
      exact dispatched.kept.trans dispatched.unrequested
  have invariant := replayInvariant run
  refine ⟨?_, ?_, ?_, ?_, ?_, ?_⟩
  · intro never step member sent
    obtain ⟨past, rest, split⟩ := append_of_mem member
    obtain ⟨before, valid, source, -⟩ := dispatch past step rest split sent
    exact before.unsent valid never source
  · intro confirm past step rest split sent attempt current
    obtain ⟨before, valid, source, -⟩ := dispatch past step rest split sent
    rcases source with state | state
    · have shape := valid.shape
      rw [state] at shape
      simp [currentAttempt, shape.1] at current
    · rcases before.pending state attempt current with unsent | ⟨-, retry⟩ | other | other
      · exact .inl unsent
      · exact .inr retry
      all_goals simp [confirm] at other
  · intro step member sent
    obtain ⟨past, rest, split⟩ := append_of_mem member
    exact (dispatch past step rest split sent).2.2.2
  · intro step member unknown streamed unledgered
    obtain ⟨past, rest, split⟩ := append_of_mem member
    obtain ⟨after, -, taken⟩ := at_ past step rest split
    obtain ⟨-, moved, move, rfl, -⟩ := taken.moved
    rw [taken.target]
    exact move.streamed_not_retried unknown streamed unledgered
  · have funded := invariant.funded
    have automatic : effect.maxAutomaticRetries = admitted.maxAutomaticRetries := by
      rw [invariant.identity]
    have confirmation : effect.maxConfirmationRetries = admitted.maxConfirmationRetries := by
      rw [invariant.identity]
    have := funded.attempts
    have := funded.automatic
    have := funded.confirmation
    simp only [allowedAttempts] at *
    rw [invariant.counted]
    omega
  · intro first firstSent second secondSent
    rw [invariant.commands first firstSent, invariant.commands second secondSent]
    exact ⟨rfl, rfl, rfl, rfl⟩

/-- A call under policy `never` that is sent a second time after it was certainly not sent. -/
theorem run_replay_safe_unsent : (dispatches (sampleRun (sampleBounds 64 4 64) (sampleTool .never 1 0) true
      [.plain 1 .beginDispatch, failureReport 2 .definitelyNotSent, .plain 3 .beginDispatch]).1).length = 2 ∧
    ReplaySafe (sampleEffect (sampleTool .never 1 0) true)
      (sampleRun (sampleBounds 64 4 64) (sampleTool .never 1 0) true
        [.plain 1 .beginDispatch, failureReport 2 .definitelyNotSent, .plain 3 .beginDispatch]).1 :=
  ⟨by decide +kernel, run_replay_safe (sampleRun_run (by decide +kernel))⟩

end Circulusd.Mcp
