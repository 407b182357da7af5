import Circulusd.Mcp.Replay

/-
Whether a definitive outcome of an effect speaks for every attempt that was made.
-/

namespace Circulusd.Mcp

open Effect List Option

open Transition

open Event

variable {gateway : Gateway} {admitted effect : Effect} {steps past : List Application}
  {step : Application} {event : Event} {verdict : Option Event}

/-- The events that set the failure of the latest attempt or resolve its cancellation. -/
def Event.setsOutcome (event : Event) : Bool :=
  match event.kind with
  | .dispatchFailed | .cancellationResolved => true
  | .recoveryObserved =>
    event.ledger.status = .failed ∨ event.ledger.status = .absent ∨ event.ledger.status = .unknown
  | _ => false

/-- The latest event of a run that set the outcome of the current attempt. -/
def latestVerdict (steps : List Application) : Option Event :=
  steps.foldl (fun found step =>
    if step.dispatches then none else if step.event.setsOutcome then some step.event else found) none

/-- An answer about the whole invocation: a ledger record that is absent or failed, or an absence. -/
def Event.Authoritative (event : Event) : Prop :=
  event.kind = .recoveryObserved ∧ (event.ledger.status = .absent ∨ event.ledger.status = .failed) ∨
    event.kind = .dispatchFailed ∧ event.failure = .ledgerAbsent ∨
    event.kind = .cancellationResolved ∧ event.cancellation = .absent

/-- A cancelled or definitively failed effect has no attempt whose outcome is open, given the event
that last set the outcome of its current attempt. -/
def Effect.DefinitiveBy (effect : Effect) (verdict : Option Event) : Prop :=
  effect.state = .cancelled ∨ effect.state = .failed ∧ effect.latestAttempt.failure ≠ .unknown →
    (∀ attempt ∈ effect.attempts.dropLast, attempt.failure = .definitelyNotSent) ∨
      ∃ event, verdict = some event ∧ event.Authoritative

/-- An event that settles the effect with what is known of the newest attempt alone. -/
def Effect.SettledByNewest (effect : Effect) (event : Event) : Prop :=
  event.kind = .dispatchFailed ∧ event.failure = .definitelyNotSent ∧
      effect.maxAutomaticRetries ≤ effect.automaticRetriesUsed ∨
    event.kind = .dispatchFailed ∧ event.failure = .rejected ∨
    event.kind = .cancellationResolved ∧ event.cancellation = .prevented ∨
    event.kind = .cancelRequested ∧ effect.state = .retryPending ∧ effect.latestAttempt.failure = .definitelyNotSent
deriving Decidable

/-- An attempt before the latest may have reached the provider. -/
def Effect.EarlierOpen (effect : Effect) : Prop :=
  ∃ attempt ∈ effect.attempts.dropLast, attempt.failure ≠ .definitelyNotSent
deriving Decidable

/-- The newest attempt settles an effect of which an earlier attempt may have reached the provider. -/
def Application.LeavesEarlier (step : Application) : Prop :=
  step.before.EarlierOpen ∧ step.before.SettledByNewest step.event
deriving Decidable

/-- The verdict after one more event. -/
def nextVerdict (verdict : Option Event) (event : Event) (transition : Transition) : Option Event :=
  if transition.dispatch.isSome then none else if event.setsOutcome then some event else verdict

theorem latestVerdict_concat (past : List Application) (step : Application) :
    latestVerdict (past ++ [step]) = nextVerdict (latestVerdict past) step.event step.transition := by
  rw [latestVerdict, foldl_append]
  rfl

/-- The failure of the latest attempt comes from the verdict of the run. -/
structure Explained (verdict : Option Event) (effect : Effect) : Prop where
  whole : ∀ attempt, effect.currentAttempt = some attempt →
    attempt.failure = .ledgerAbsent ∨ attempt.failure = .externalFailed →
      ∃ event, verdict = some event ∧ event.Authoritative
  newest : ∀ attempt, effect.currentAttempt = some attempt → attempt.failure = .definitelyNotSent →
    ∃ event, verdict = some event ∧ ¬ event.Authoritative
  waiting : effect.state = .needsConfirmation → ∀ attempt, effect.currentAttempt = some attempt →
    attempt.failure = .ledgerAbsent ∨ attempt.failure = .unknown

/-- The states after which no failure is read again. -/
def State.closed : State → Bool
  | .cancelled | .externallyCommitted | .completed => true
  | _ => false

/-- An attempt without a failure needs no verdict. -/
theorem Explained.of_none {attempt : AttemptRecord} (current : effect.currentAttempt = some attempt)
    (unfailed : attempt.failure = .none) (state : effect.state ≠ .needsConfirmation) :
    Explained verdict effect := by
  have same (other : AttemptRecord) (found : effect.currentAttempt = some other) : other.failure = .none := by
    rw [← Option.some.inj (current.symm.trans found), unfailed]
  refine ⟨?_, ?_, fun waiting => absurd waiting state⟩
  · intro other found failed
    simp [same other found] at failed
  · intro other found failed
    simp [same other found] at failed

/-- A step that keeps the failure of the latest attempt keeps its explanation. -/
theorem Explained.of_same {before : Effect} (explained : Explained verdict before)
    (same : ∀ attempt, effect.currentAttempt = some attempt →
      ∃ earlier, before.currentAttempt = some earlier ∧ earlier.failure = attempt.failure)
    (state : effect.state = .needsConfirmation → before.state = .needsConfirmation) :
    Explained verdict effect := by
  refine ⟨?_, ?_, ?_⟩
  · intro attempt current failed
    obtain ⟨earlier, found, equal⟩ := same attempt current
    exact explained.whole earlier found (equal ▸ failed)
  · intro attempt current failed
    obtain ⟨earlier, found, equal⟩ := same attempt current
    exact explained.newest earlier found (equal ▸ failed)
  · intro waiting attempt current
    obtain ⟨earlier, found, equal⟩ := same attempt current
    exact equal ▸ explained.waiting (state waiting) earlier found

theorem Explained.of_updated {before : Effect} {attempt updated : AttemptRecord}
    (explained : Explained verdict before) (current : before.currentAttempt = some attempt)
    (found : effect.currentAttempt = some updated) (same : updated.failure = attempt.failure)
    (state : effect.state ≠ .needsConfirmation) : Explained verdict effect := by
  refine explained.of_same ?_ (fun waiting => absurd waiting state)
  intro other otherFound
  cases found.symm.trans otherFound
  exact ⟨attempt, current, same.symm⟩

/-- An event that sets the failure explains it. -/
theorem Explained.of_event {attempt : AttemptRecord} (current : effect.currentAttempt = some attempt)
    (whole : attempt.failure = .ledgerAbsent ∨ attempt.failure = .externalFailed → event.Authoritative)
    (newest : attempt.failure = .definitelyNotSent → ¬ event.Authoritative)
    (waiting : effect.state = .needsConfirmation → attempt.failure = .ledgerAbsent ∨ attempt.failure = .unknown) :
    Explained (some event) effect := by
  refine ⟨?_, ?_, ?_⟩
  · intro other found failed
    cases current.symm.trans found
    exact ⟨event, rfl, whole failed⟩
  · intro other found failed
    cases current.symm.trans found
    exact ⟨event, rfl, newest failed⟩
  · intro state other found
    cases current.symm.trans found
    exact waiting state

theorem nextVerdict_quiet (sets : event.setsOutcome = false) (next : Effect) :
    nextVerdict verdict event (.quiet next) = verdict := by
  simp [nextVerdict, quiet, sets]

theorem nextVerdict_set (sets : event.setsOutcome = true) (next : Effect) :
    nextVerdict verdict event (.quiet next) = some event := by
  simp [nextVerdict, quiet, sets]

section Step

variable {transition : Transition} {attempt : AttemptRecord} {failure : FailureClass} {reason : String} {next : Effect}

theorem Event.classification_sets (classified : event.classification = some (failure, reason)) :
    event.setsOutcome = true := by
  rcases event.classification_cases classified with ⟨kind, -⟩ | ⟨kind, ⟨status, -⟩ | ⟨status, -⟩⟩ <;>
    simp [setsOutcome, *]

/-- A classification is authoritative when it records an absence. -/
theorem Event.classification_authoritative (classified : event.classification = some (failure, reason)) :
    event.Authoritative ↔ failure = .ledgerAbsent := by
  rcases event.classification_cases classified with
    ⟨kind, rfl, -⟩ | ⟨kind, ⟨status, rfl, -⟩ | ⟨status, rfl, -⟩⟩ <;> simp [Authoritative, *]

theorem Classified.waiting (outcome : Classified effect attempt reason failure next)
    (state : next.state = .needsConfirmation) : failure = .ledgerAbsent ∨ failure = .unknown := by
  cases outcome with
  | notSent =>
    rcases (effect.classified attempt .definitelyNotSent reason).retryOr_eq .failed with
      ⟨-, equal⟩ | ⟨-, equal⟩ <;> simp [equal, moveTo] at state
  | rejected => simp at state
  | absentRequested | absentFailed => exact .inl rfl
  | unknownRequested | unknownStreamed => exact .inr rfl
  | replayable undecided | unreplayable undecided | confirmable undecided =>
    exact undecided.evidence.imp And.left And.left

theorem Classified.notSent_cases (outcome : Classified effect attempt reason .definitelyNotSent next) :
    effect.maxAutomaticRetries ≤ effect.automaticRetriesUsed ∧ next.state = .failed ∨
      effect.automaticRetriesUsed < effect.maxAutomaticRetries ∧ next.state = .retryPending := by
  cases outcome with
  | notSent =>
    rcases (effect.classified attempt .definitelyNotSent reason).retryOr_eq .failed with
      ⟨spent, equal⟩ | ⟨room, equal⟩
    · exact .inl ⟨spent, by rw [equal]; rfl⟩
    · exact .inr ⟨room, by rw [equal]; rfl⟩
  | replayable undecided | unreplayable undecided | confirmable undecided =>
    simpa using undecided.evidence

theorem Classified.rejected_state (outcome : Classified effect attempt reason .rejected next) :
    next.state = .failed := by
  cases outcome with
  | rejected => rfl
  | replayable undecided | unreplayable undecided | confirmable undecided =>
    simpa using undecided.evidence

theorem Classified.unknown_not_cancelled (outcome : Classified effect attempt reason .unknown next) :
    next.state ≠ .cancelled := by
  rcases outcome.moves with ⟨absent, -⟩ | ⟨-, -, rfl⟩ | ⟨state, member, rfl⟩
  · cases absent
  · simp
  · exact fun equal => by simp [show state = .cancelled from equal] at member

/-- Each move keeps the explanation of the latest failure. -/
theorem Moved.explained (moved : Moved gateway effect event transition)
    (explained : effect.state.closed = false → Explained verdict effect)
    (open_ : transition.effect.state.closed = false) :
    Explained (nextVerdict verdict event transition) transition.effect := by
  cases moved with
  | dispatched => exact .of_none (getLast?_concat ..) rfl (by simp)
  | negotiated kind current state =>
    rw [nextVerdict_quiet (by simp [setsOutcome, kind])]
    exact (explained (by simp [state, State.closed])).of_updated current
      (effect.currentAttempt_withAttempt _) rfl (by simp [withAttempt, state])
  | accepted kind current state =>
    rw [nextVerdict_quiet (by simp [setsOutcome, kind])]
    exact (explained (by simp [state, State.closed])).of_updated current
      (effect.currentAttempt_withAttempt _) rfl (by simp)
  | streamed kind current state =>
    rw [nextVerdict_quiet (by simp [setsOutcome, kind])]
    have opened : effect.state.closed = false := by
      rcases state with state | state <;> simp [state, State.closed]
    exact (explained opened).of_updated current (effect.currentAttempt_withAttempt _) rfl (by simp)
  | identified kind status current state =>
    rw [nextVerdict_quiet (by simp [setsOutcome, kind, status])]
    have opened : effect.state.closed = false ∧ effect.state ≠ .needsConfirmation := by
      rcases state with state | state | state <;> simp [state, State.closed]
    exact (explained opened.1).of_updated current (effect.currentAttempt_withAttempt _) rfl opened.2
  | resumed kind status =>
    refine .of_none (effect.currentAttempt_withAttempt _) rfl ?_
    simp only [quiet, resume]
    split
    · simp
    · split <;> simp
  | committed | settled | cancelledAtOnce | cancelConfirmed | recordCommitted =>
    simp [State.closed] at open_
  | classified given observable current outcome =>
    rw [nextVerdict_set (classification_sets given)]
    refine .of_event outcome.current ?_ ?_ outcome.waiting
    · rintro (absent | failed)
      · exact (classification_authoritative given).mpr absent
      · rcases outcome.classes with equal | equal | equal | equal <;> simp [equal] at failed
    · intro unsent authoritative
      have absent := (classification_authoritative given).mp authoritative
      simp [absent] at unsent
  | cancelSent kind sent =>
    have opened : effect.state.closed = false := by
      rcases sent with h | h | h | h | h | ⟨_, _, h, _⟩ | ⟨_, _, h, _⟩ <;> simp [h, State.closed]
    simp only [nextVerdict, setsOutcome, kind, isSome_none, Bool.false_eq_true, if_false]
    exact (explained opened).of_same (fun attempt current => ⟨attempt, current, rfl⟩) (by simp)
  | cancelUnknown kind current state answer =>
    rw [nextVerdict_set (by simp [setsOutcome, kind])]
    exact .of_event (effect.currentAttempt_withAttempt _) (by simp) (by simp) (fun _ => .inr rfl)
  | failedExternally kind status =>
    rw [nextVerdict_set (by simp [setsOutcome, kind, status])]
    exact .of_event (effect.currentAttempt_withAttempt _) (fun _ => .inl ⟨kind, .inr status⟩) (by simp) (by simp)
  | confirmed kind _ state =>
    rw [nextVerdict_quiet (by simp [setsOutcome, kind])]
    exact (explained (by simp [state, State.closed])).of_same (fun attempt current => ⟨attempt, current, rfl⟩) (by simp)
  | abandoned kind _ state =>
    rw [nextVerdict_quiet (by simp [setsOutcome, kind])]
    exact (explained (by simp [state, State.closed])).of_same
      (fun attempt current => ⟨attempt, current, rfl⟩) (fun _ => state)

/-- A state that is neither cancelled nor definitively failed claims nothing. -/
theorem Effect.definitiveBy_of_open (open_ : effect.state ≠ .cancelled)
    (failed : effect.state = .failed → effect.latestAttempt.failure = .unknown) :
    effect.DefinitiveBy verdict := by
  rintro (cancelled | ⟨state, known⟩)
  · exact absurd cancelled open_
  · exact absurd (failed state) known

theorem Effect.definitiveBy_of_authoritative (authoritative : event.Authoritative) : effect.DefinitiveBy (some event) :=
  fun _ => .inr ⟨event, rfl, authoritative⟩

/-- A settled state without an authoritative verdict is definitive when no earlier attempt is open. -/
theorem Effect.definitiveBy_iff_of_newest (settled : effect.state = .cancelled ∨
      effect.state = .failed ∧ effect.latestAttempt.failure ≠ .unknown)
    (unanswered : ∀ event, verdict = some event → ¬ event.Authoritative) :
    effect.DefinitiveBy verdict ↔ ¬ effect.EarlierOpen := by
  simp only [DefinitiveBy, settled, forall_const, EarlierOpen, not_exists, not_and, ne_eq, not_not]
  constructor
  · rintro (unsent | ⟨event, found, authoritative⟩)
    · exact unsent
    · exact absurd authoritative (unanswered event found)
  · exact .inl

theorem Classified.latest (outcome : Classified effect attempt reason failure next) :
    next.latestAttempt.failure = failure := by
  rw [next.latestAttempt_of_current outcome.current]

theorem Classified.earlier (outcome : Classified effect attempt reason failure next) :
    next.EarlierOpen ↔ effect.EarlierOpen := by
  have same : next.attempts.dropLast = effect.attempts.dropLast := by
    rw [outcome.shape]
    exact effect.dropLast_withAttempt _
  rw [EarlierOpen, EarlierOpen, same]

/-- An event of another class than these two does not settle the effect by its newest attempt. -/
theorem Event.classification_not_newest (given : event.classification = some (failure, reason))
    (lost : failure = .ledgerAbsent ∨ failure = .unknown) : ¬ effect.SettledByNewest event := by
  rcases event.classification_cases given with ⟨kind, rfl, -⟩ | ⟨kind, -⟩
  · rcases lost with failure | failure <;> simp [SettledByNewest, kind, failure]
  · simp [SettledByNewest, kind]

theorem Event.classification_newest (given : event.classification = some (failure, reason))
    (local_ : failure = .definitelyNotSent ∨ failure = .rejected) :
    event.kind = .dispatchFailed ∧ event.failure = failure := by
  rcases event.classification_cases given with ⟨kind, same, -⟩ | ⟨-, ⟨-, same, -⟩ | ⟨-, same, -⟩⟩
  · exact ⟨kind, same⟩
  all_goals rcases local_ with equal | equal <;> simp [equal] at same

/-- A classification settles the effect for good, but for what the newest attempt alone tells. -/
theorem Classified.definitive_iff (outcome : Classified effect attempt reason failure next)
    (given : event.classification = some (failure, reason)) :
    next.DefinitiveBy (some event) ↔ ¬ (effect.EarlierOpen ∧ effect.SettledByNewest event) := by
  have authoritative := classification_authoritative given
  rcases outcome.classes with rfl | rfl | rfl | rfl
  · obtain ⟨kind, failure⟩ := classification_newest given (.inl rfl)
    have newest : effect.SettledByNewest event ↔ effect.maxAutomaticRetries ≤ effect.automaticRetriesUsed := by
      simp [SettledByNewest, kind, failure]
    rw [newest]
    rcases outcome.notSent_cases with ⟨spent, state⟩ | ⟨room, state⟩
    · rw [definitiveBy_iff_of_newest (.inr ⟨state, by simp [outcome.latest]⟩)
        (by simp [authoritative]), outcome.earlier]
      simp [spent]
    · refine iff_of_true (definitiveBy_of_open ?_ ?_) (by omega) <;> simp [state]
  · obtain ⟨kind, failure⟩ := classification_newest given (.inr rfl)
    have newest : effect.SettledByNewest event := .inr (.inl ⟨kind, failure⟩)
    rw [definitiveBy_iff_of_newest (.inr ⟨outcome.rejected_state, by simp [outcome.latest]⟩)
      (by simp [authoritative]), outcome.earlier]
    simp [newest]
  · exact iff_of_true (definitiveBy_of_authoritative (authoritative.mpr rfl))
      fun bad => classification_not_newest given (.inl rfl) bad.2
  · exact iff_of_true (definitiveBy_of_open outcome.unknown_not_cancelled fun _ => outcome.latest)
      fun bad => classification_not_newest given (.inr rfl) bad.2

/-- Each move settles the effect for good, but for what the newest attempt alone tells. -/
theorem Moved.definitive_iff (moved : Moved gateway effect event transition) (valid : gateway.ValidEffect effect)
    (explained : effect.state.closed = false → Explained verdict effect) :
    transition.effect.DefinitiveBy (nextVerdict verdict event transition) ↔
      ¬ (effect.EarlierOpen ∧ effect.SettledByNewest event) := by
  -- A move to a state that claims nothing, by an event that settles nothing.
  have idle (open_ : transition.effect.state ≠ .cancelled)
      (failed : transition.effect.state = .failed → transition.effect.latestAttempt.failure = .unknown)
      (not_newest : ¬ effect.SettledByNewest event) :
      transition.effect.DefinitiveBy (nextVerdict verdict event transition) ↔
        ¬ (effect.EarlierOpen ∧ effect.SettledByNewest event) :=
    iff_of_true (definitiveBy_of_open open_ failed) fun bad => not_newest bad.2
  cases moved with
  | dispatched kind | accepted kind | streamed kind | committed kind | settled kind | confirmed kind =>
    exact idle (by simp) (by simp) (by simp [SettledByNewest, kind])
  | negotiated kind _ state =>
    exact idle (by simp [withAttempt, state]) (by simp [withAttempt, state])
      (by simp [SettledByNewest, kind])
  | identified kind _ _ state =>
    have opened : effect.state ≠ .cancelled ∧ effect.state ≠ .failed := by
      rcases state with state | state | state <;> simp [state]
    exact idle opened.1 (fun failed => absurd failed opened.2)
      (by simp [SettledByNewest, kind])
  | @resumed attempt kind =>
    have state := effect.resume_state { attempt with providerRequestId := event.ledger.providerRequestId }
    refine idle ?_ ?_ (by simp [SettledByNewest, kind]) <;>
      rcases state with state | state | state <;> simp [state]
  | classified given _ _ outcome =>
    rw [nextVerdict_set (classification_sets given)]
    exact outcome.definitive_iff given
  | cancelledAtOnce kind unsent =>
    rw [nextVerdict_quiet (by simp [setsOutcome, kind])]
    rcases unsent with state | ⟨state, attempt, current, unsent | absent⟩
    · have shape := valid.shape
      rw [state] at shape
      refine iff_of_true (fun _ => .inl ?_) fun bad => ?_
      · simp [shape.1]
      · simp [EarlierOpen, shape.1] at bad
    · have latest := effect.latestAttempt_of_current current
      obtain ⟨found, same, unanswered⟩ :=
        (explained (by simp [state, State.closed])).newest attempt current unsent
      have newest : effect.SettledByNewest event :=
        .inr (.inr (.inr ⟨kind, state, by rw [latest, unsent]⟩))
      rw [definitiveBy_iff_of_newest (.inl rfl) (by simp [same, unanswered])]
      simp [EarlierOpen, quiet, newest]
    · have latest := effect.latestAttempt_of_current current
      obtain ⟨found, same, authoritative⟩ :=
        (explained (by simp [state, State.closed])).whole attempt current (.inl absent)
      refine iff_of_true (same ▸ definitiveBy_of_authoritative authoritative) fun bad => ?_
      simp [SettledByNewest, kind, latest, absent] at bad
  | cancelSent kind sent =>
    refine idle (by simp) (by simp) ?_
    simp only [SettledByNewest, kind, reduceCtorEq, false_and, false_or, true_and]
    rintro ⟨state, unsent⟩
    rcases sent with h | h | h | h | h | ⟨attempt, current, -, possiblySent, -⟩ | ⟨_, _, h, _⟩
    all_goals first
      | simp [state] at h
      | exact possiblySent (effect.latestAttempt_of_current current ▸ unsent)
  | cancelConfirmed kind current state answer =>
    rw [nextVerdict_set (by simp [setsOutcome, kind])]
    rcases answer with absent | ⟨prevented, -⟩
    · refine iff_of_true (definitiveBy_of_authoritative (.inr (.inr ⟨kind, absent⟩))) fun bad => ?_
      simp [SettledByNewest, kind, absent] at bad
    · have newest : effect.SettledByNewest event := .inr (.inr (.inl ⟨kind, prevented⟩))
      rw [definitiveBy_iff_of_newest (.inl rfl) (by simp [Authoritative, kind, prevented])]
      simp [EarlierOpen, quiet, newest]
  | @cancelUnknown attempt kind _ _ answer =>
    have state := (effect.classified attempt .unknown cancellationUnknownReason).held_state
    refine idle ?_ ?_ (by simp [SettledByNewest, kind, answer]) <;> rcases state with state | state <;> simp [state]
  | recordCommitted commits =>
    refine idle (by simp) (by simp) ?_
    rcases commits with ⟨kind, answer, -⟩ | ⟨kind, -⟩ <;> simp [SettledByNewest, *]
  | failedExternally kind status =>
    rw [nextVerdict_set (by simp [setsOutcome, kind, status])]
    exact iff_of_true (definitiveBy_of_authoritative (.inl ⟨kind, .inr status⟩)) (by simp [SettledByNewest, kind])
  | abandoned kind _ state =>
    refine iff_of_true ?_ (by simp [SettledByNewest, kind])
    rw [nextVerdict_quiet (by simp [setsOutcome, kind])]
    have before := explained (by simp [state, State.closed])
    cases current : effect.currentAttempt with
    | none =>
      refine fun _ => .inl ?_
      simp [getLast?_eq_none_iff.mp current]
    | some attempt =>
      rcases before.waiting state attempt current with absent | unknown
      · obtain ⟨found, same, authoritative⟩ := before.whole attempt current (.inl absent)
        exact same ▸ definitiveBy_of_authoritative authoritative
      · refine definitiveBy_of_open ?_ fun _ => ?_
        · simp only [quiet]
          split <;> simp
        · exact (congrArg AttemptRecord.failure (effect.latestAttempt_of_current current)).trans unknown

end Step

/-- While the effect is open, its latest failure has an explanation. -/
def ExplainedAfter (steps : List Application) (effect : Effect) : Prop :=
  effect.state.closed = false → Explained (latestVerdict steps) effect

/-- The verdict after a step, read off its move. -/
theorem latestVerdict_step (past : List Application) {before : Effect} (taken : gateway.Step before step effect) :
    gateway.ValidEffect before ∧ ∃ moved, Moved gateway before step.event moved ∧
      effect = moved.effect.counted (step.event.size before) ∧
      latestVerdict (past ++ [step]) = nextVerdict (latestVerdict past) step.event moved := by
  obtain ⟨valid, moved, move, same, command⟩ := taken.moved
  refine ⟨valid, moved, move, same, ?_⟩
  rw [latestVerdict_concat, nextVerdict, nextVerdict, command]

theorem explainedAfter (run : gateway.Run admitted steps effect) : ExplainedAfter steps effect := by
  refine run.run.traceInvariant ?_ ?_
  · intro _
    rw [run.admission.fresh]
    exact ⟨by simp [currentAttempt], by simp [currentAttempt], by simp⟩
  · intro past before step after taken explained open_
    obtain ⟨-, moved, move, rfl, verdict⟩ := latestVerdict_step past taken
    obtain ⟨whole, newest, waiting⟩ := move.explained explained open_
    rw [verdict]
    exact ⟨whole, newest, waiting⟩

/-- A step of a run settles the effect for good, but for what the newest attempt alone tells. -/
theorem definitive_step_iff {before : Effect} (run : gateway.Run admitted past before)
    (taken : gateway.Step before step effect) :
    effect.DefinitiveBy (latestVerdict (past ++ [step])) ↔ ¬ step.LeavesEarlier := by
  obtain ⟨valid, moved, move, rfl, verdict⟩ := latestVerdict_step past taken
  have settles := move.definitive_iff valid (explainedAfter run)
  rw [verdict, Application.LeavesEarlier, taken.source]
  exact settles

/-- The cancelled and definitively failed states of a run leave no attempt open exactly when the
newest attempt never settles the effect while an earlier one may have reached the provider. -/
theorem run_definitive_iff (run : gateway.Run admitted steps effect) :
    (∀ past rest reached, steps = past ++ rest → gateway.Run admitted past reached →
        reached.DefinitiveBy (latestVerdict past)) ↔
      ∀ step ∈ steps, ¬ step.LeavesEarlier := by
  constructor
  · intro definitive step member
    obtain ⟨past, rest, split⟩ := append_of_mem member
    obtain ⟨before, after, front, taken, -⟩ := (split ▸ run.run).at
    refine (definitive_step_iff ⟨run.admission, front⟩ taken).mp ?_
    exact definitive (past ++ [step]) rest after (by simp [split]) ⟨run.admission, front.concat taken⟩
  · intro settled past rest reached split reaches
    rcases eq_nil_or_concat' past with rfl | ⟨front, step, rfl⟩
    · cases reaches.run with
      | nil =>
        rw [run.admission.fresh]
        exact definitiveBy_of_open (by simp) (by simp)
    · obtain ⟨before, after, earlier, taken, last⟩ := reaches.run.at
      cases last with
      | nil =>
        exact (definitive_step_iff ⟨run.admission, earlier⟩ taken).mpr (settled step (by simp [split]))

/-- The first attempt of a call is lost, and the second one is certainly not sent. -/
def lostThenUnsent : List Application × Effect :=
  sampleRun (sampleBounds 64 4 64) (sampleTool .idempotencyKey 1 0) true
    [.plain 1 .beginDispatch, failureReport 2 .unknown, .plain 3 .beginDispatch, failureReport 4 .definitelyNotSent]

theorem run_definitive_iff_lost : (∃ step ∈ lostThenUnsent.1, step.LeavesEarlier) ∧
    ¬ ∀ past rest reached, lostThenUnsent.1 = past ++ rest →
      (sampleGateway (sampleBounds 64 4 64) (sampleTool .idempotencyKey 1 0)).Run
        (sampleEffect (sampleTool .idempotencyKey 1 0) true) past reached →
      reached.DefinitiveBy (latestVerdict past) := by
  have run : (sampleGateway (sampleBounds 64 4 64) (sampleTool .idempotencyKey 1 0)).Run
      (sampleEffect (sampleTool .idempotencyKey 1 0) true) lostThenUnsent.1 lostThenUnsent.2 :=
    sampleRun_run (by decide +kernel)
  obtain ⟨step, member, left⟩ : ∃ step ∈ lostThenUnsent.1, step.LeavesEarlier := by decide +kernel
  exact ⟨⟨step, member, left⟩, fun definitive => (run_definitive_iff run).mp definitive step member left⟩

/-- The second attempt settles the call as certainly not sent, although the first may have run. -/
theorem lost_attempt_settled : (sampleGateway (sampleBounds 64 4 64) (sampleTool .idempotencyKey 1 0)).Run
        (sampleEffect (sampleTool .idempotencyKey 1 0) true) lostThenUnsent.1 lostThenUnsent.2 ∧
      lostThenUnsent.2.state = .failed ∧
      lostThenUnsent.2.attempts.map AttemptRecord.failure = [.unknown, .definitelyNotSent] ∧
      ¬ lostThenUnsent.2.DefinitiveBy (latestVerdict lostThenUnsent.1) := by
  have verdict : latestVerdict lostThenUnsent.1 = some (failureReport 4 .definitelyNotSent) := by
    decide +kernel
  refine ⟨sampleRun_run (by decide +kernel), by decide +kernel, by decide +kernel, ?_⟩
  rw [verdict, definitiveBy_iff_of_newest (.inr (by decide +kernel))
    (by simp [Authoritative, failureReport, plain]), not_not]
  exact ⟨{ AttemptRecord.fresh 1 with failure := .unknown }, by decide +kernel, by decide⟩

end Circulusd.Mcp
