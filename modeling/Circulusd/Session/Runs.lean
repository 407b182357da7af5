import Circulusd.Session.World

/-
What the steps of a run do to a session and its archive.
-/

namespace Circulusd.Session

open Checked Protocol Trace List

/-- All public events that the session ever appended. -/
def World.publicEvents (world : World) : List SessionPublicEvent :=
  world.archive.publicEvents ++ world.state.publicEvents

@[simp]
theorem SessionArchiveDelta.append_empty (archive : SessionArchiveDelta) : archive.append emptyArchive = archive := by
  simp [SessionArchiveDelta.append, emptyArchive]

/-- A step that is no replay commits a candidate and compacts it. -/
structure Moved (codec : Codec) (before : World) (application : Application) (after : World) (digest : Digest)
    (label : Option StoredSessionCommandOutcome) (candidate : SessionAggregateState) : Prop where
  advance : Advanced codec before.state application.command application.context digest label application.result
  committed : Committed codec before.state application.context (application.command.leaseTime application.context)
    application.command.submitted? application.command.commandId digest label candidate
  compacted : Compacted candidate after.state (application.result.archiveDelta.getD emptyArchive)
  archive : after.archive = before.archive.append (application.result.archiveDelta.getD emptyArchive)

/-- A step that repeats an earlier outcome. -/
def Repeats (codec : Codec) (before : World) (application : Application) : Prop :=
  ∃ digest outcome, Replayed codec before.state application.context application.command digest outcome ∧
    application.result = replayResult before.state outcome digest

section

variable {codec : Codec} {before after : World} {application : Application}

/-- A step keeps the world and repeats an outcome, or it moves the session. -/
theorem Step.cases (step : Step codec before application after) : (after = before ∧ Repeats codec before application) ∨
      ∃ digest label candidate, Moved codec before application after digest label candidate := by
  obtain ⟨command, context, result⟩ := application
  obtain ⟨_, ok, rfl⟩ := step
  obtain ⟨-, applied⟩ := applySessionCommand_applied _ _ ok
  cases applied with
  | replayed digest outcome repeated => exact .inl ⟨by simp [World.applied], digest, outcome, repeated, rfl⟩
  | advanced digest label _ advance =>
    obtain ⟨candidate, committed, compacted⟩ := advance.moved
    exact .inr ⟨digest, label, candidate, advance, committed, compacted, rfl⟩

/-- Every application leaves a valid session. -/
theorem Step.valid (step : Step codec before application after) : validateSessionState codec after.state = .ok () := by
  have applied := applySessionCommand_applied _ _ step.accepted
  obtain ⟨rfl, _⟩ | ⟨digest, label, candidate, moved⟩ := step.cases
  · exact applied.1
  · have same : after.state = application.result.state := by rw [step.moved]; rfl
    exact same ▸ moved.advance.valid

theorem Moved.publicEvents {digest : Digest} {label : Option StoredSessionCommandOutcome}
    {candidate : SessionAggregateState} (moved : Moved codec before application after digest label candidate) :
    after.publicEvents = before.archive.publicEvents ++ candidate.publicEvents := by
  rw [World.publicEvents, moved.archive, SessionArchiveDelta.append, append_assoc,
    moved.compacted.partition.publicEvents]

/-- The public journal is numbered from one without a gap, up to the cursor. -/
structure World.Numbered (world : World) : Prop where
  sequences : world.publicEvents.map (·.sequence) = List.range' 1 world.publicEvents.length
  cursor : world.state.publicEventSequence = world.publicEvents.length

/-- A step only appends to the public journal. -/
theorem Step.numbered (step : Step codec before application after) (numbered : before.Numbered) :
    after.Numbered ∧ before.publicEvents <+: after.publicEvents := by
  obtain ⟨rfl, _⟩ | ⟨digest, label, candidate, moved⟩ := step.cases
  · exact ⟨numbered, prefix_rfl⟩
  · obtain ⟨added, events, sequences, cursor⟩ := moved.committed.published
    have appended : after.publicEvents = before.publicEvents ++ added := by
      rw [moved.publicEvents, events, World.publicEvents, append_assoc]
    refine ⟨⟨?_, ?_⟩, appended ▸ prefix_append ..⟩
    · rw [appended, map_append, numbered.sequences, sequences, numbered.cursor, length_append,
        ← range'_append_1, Nat.add_comm 1]
    · rw [moved.compacted.partition.publicEventSequence, cursor, appended, length_append, numbered.cursor]

theorem createSessionState_ok {input : CreateSessionStateInput} {state : SessionAggregateState}
    (created : createSessionState codec input = .ok state) :
    state = initialState input ∧ validateSessionState codec state = .ok () := by
  simp only [createSessionState, steps_ok] at created
  obtain ⟨-, -, -, -, -, -, -, -, -, invariants, rfl⟩ := created
  refine ⟨rfl, ?_⟩
  simp only [validateSessionState, invariants, ok_bind]
  rfl

/-- The run of some commands under their contexts, which may answer lookups in the archive. -/
def World.play (codec : Codec) (world : World) :
    List (SessionCommand × Option SessionApplyContext) → Option (List Application × World)
  | [] => some ([], world)
  | (command, context) :: rest =>
    if TruthfulContext world.archive context then do
      let result ← (applySessionCommand codec world.state command context).toOption
      let (applications, last) ← (world.applied result).play codec rest
      return (⟨command, context, result⟩ :: applications, last)
    else none

theorem World.play_run {world last : World} {commands : List (SessionCommand × Option SessionApplyContext)}
    {applications : List Application} (played : world.play codec commands = some (applications, last)) :
    Run (Step codec) world applications last := by
  induction commands generalizing world applications with
  | nil =>
    obtain ⟨rfl, rfl⟩ := Prod.mk.inj (Option.some.inj played)
    exact .nil world
  | cons entry rest ih =>
    simp only [World.play, Option.ite_none_right_eq_some, Option.bind_eq_bind, Option.bind_eq_some_iff,
      Option.pure_def, Option.some.injEq, Prod.mk.injEq, Prod.exists] at played
    obtain ⟨truthful, result, ok, others, _, later, rfl, rfl⟩ := played
    cases applied : applySessionCommand codec world.state entry.1 entry.2 with
    | error failure => simp [applied, Except.toOption] at ok
    | ok answer =>
      obtain rfl : answer = result := by simpa [applied, Except.toOption] using ok
      exact .cons ⟨truthful, applied, rfl⟩ (ih later)

/-- An evaluated run of commands is a run. -/
theorem World.exists_play (codec : Codec) (world : World) (commands : List (SessionCommand × Option SessionApplyContext))
    (holds : List Application → World → Bool)
    (evaluated : (world.play codec commands).any (fun played => holds played.1 played.2) = true) :
    ∃ applications last, Run (Step codec) world applications last ∧ holds applications last = true := by
  obtain ⟨played, equal, held⟩ := (Option.any_eq_true _ _).mp evaluated
  exact ⟨played.1, played.2, World.play_run equal, held⟩

theorem World.exists_step {world : World} {command : SessionCommand} {holds : ApplySessionCommandResult → Bool}
    (evaluated : (applySessionCommand codec world.state command none).toOption.any holds = true) :
    ∃ result after, Step codec world ⟨command, none, result⟩ after ∧ holds result = true := by
  cases applied : applySessionCommand codec world.state command none with
  | error failure => simp [applied, Except.toOption] at evaluated
  | ok result =>
    refine ⟨result, world.applied result, ⟨fun _ => nofun, applied, rfl⟩, ?_⟩
    simpa [applied, Except.toOption] using evaluated

theorem sampleInput_created : createSessionState referenceCodec sampleInput = .ok (initialState sampleInput) := by
  decide +kernel

/-- An evaluated run of the sample session reaches its world. -/
theorem Reached.exists_sample (commands : List (SessionCommand × Option SessionApplyContext))
    (holds : List Application → World → Bool)
    (evaluated : ((World.mk (initialState sampleInput) emptyArchive).play referenceCodec commands).any
      (fun played => holds played.1 played.2) = true) :
    ∃ applications world, Reached referenceCodec sampleInput applications world ∧ holds applications world = true := by
  obtain ⟨applications, world, run, held⟩ := World.exists_play referenceCodec _ commands holds evaluated
  exact ⟨applications, world, ⟨_, sampleInput_created, run⟩, held⟩

end

end Circulusd.Session
