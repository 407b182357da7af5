import Circulusd.Session.Runs

/-
The turns of a session in the order of their admission.
-/

namespace Circulusd.Session

open Checked Protocol SessionAggregateState Trace Option
open List hiding chains

/-- A turn at its place in the session, with the checkpoint that it stores. -/
structure TurnView where
  turnId : String
  sequence : Nat
  checkpoint : StoredSessionCheckpoint

def TurnRecord.view (turn : TurnRecord) : TurnView := ⟨turn.turnId, turn.sequence, turn.checkpoint⟩

def TerminalTurn.view (turn : TerminalTurn) : TurnView := ⟨turn.turnId, turn.sequence, turn.finalCheckpoint⟩

/-- The digest from which a turn continues. -/
def TurnRecord.chained (turn : TurnRecord) : String × Option Digest := (turn.turnId, turn.checkpointChainDigest)

/-- The active turn and the queue behind it. -/
def SessionAggregateState.liveTurns (state : SessionAggregateState) : List TurnRecord :=
  (state.activeTurn.map (·.toTurnRecord)).toList ++ state.queuedTurns.map (·.toTurnRecord)

/-- The turns that are still in the state. -/
def SessionAggregateState.turns (state : SessionAggregateState) : List TurnView :=
  state.terminalTurns.map (·.view) ++ state.liveTurns.map (·.view)

def SessionAggregateState.chains (state : SessionAggregateState) : List (String × Option Digest) :=
  state.liveTurns.map (·.chained)

/-- All turns that the session ever admitted. -/
def World.turns (world : World) : List TurnView := world.archive.terminalTurns.map (·.view) ++ world.state.turns

/-- What admission and compaction record of the turns. -/
def SessionAggregateState.admissions (state : SessionAggregateState) : List String × Nat × Option SessionHistoryState :=
  (state.knownTurnIds, state.nextTurnSequence, state.history)

/-- The turn that an outcome admits. -/
def StoredSessionCommandOutcome.admittedTurn? : StoredSessionCommandOutcome → Option String
  | .turnEnqueued turnId _ _ => some turnId
  | _ => none

section Changes

variable {codec : Codec} {state next : SessionAggregateState} {context : Option SessionApplyContext} {clock : Nat}
  {submitted : Option AgentCheckpoint} {label : Option StoredSessionCommandOutcome} {promotion : Option Nat}
variable {active : ActiveTurn} {consumed : SessionAggregateState}

/-- A change keeps the turns, admits one at the end, or steps the active one. -/
inductive TurnsStep (codec : Codec) (state : SessionAggregateState) (context : Option SessionApplyContext)
    (next : SessionAggregateState) : Option AgentCheckpoint → Option StoredSessionCommandOutcome → Prop where
  | kept (label : Option StoredSessionCommandOutcome) (other : label.bind (·.admittedTurn?) = none)
      (turns : next.turns = state.turns) (admissions : next.admissions = state.admissions)
      (chains : next.chains ⊆ state.chains) : TurnsStep codec state context next none label
  | admitted (turnId : String) (wire : AgentCheckpoint) (genesis : wire.kind = .genesis)
      (external : ExternalizedAgentCheckpoint) (stores : Stores codec state turnId wire external)
      (fresh : assertNewTurn state turnId (SessionApplyContext.witness? context) = .ok ()) (activated : Bool)
      (turns : next.turns = state.turns ++ [⟨turnId, state.nextTurnSequence, .external external⟩])
      (admissions : next.admissions = (state.knownTurnIds ++ [turnId], state.nextTurnSequence + 1, state.history))
      (chains : next.chains ⊆ (turnId, some (codec.validatedCheckpointDigest wire)) :: state.chains) :
      TurnsStep codec state context next (some wire) (some (.turnEnqueued turnId state.nextTurnSequence activated))
  | stepped (active : ActiveTurn) (present : state.activeTurn = some active) (wire : AgentCheckpoint)
      (external : ExternalizedAgentCheckpoint) (continues : Continues codec state active wire external)
      (label : Option StoredSessionCommandOutcome) (other : label.bind (·.admittedTurn?) = none)
      (turns : next.turns = state.terminalTurns.map (·.view) ++
        ⟨active.turnId, active.sequence, .external external⟩ :: state.queuedTurns.map (·.view))
      (admissions : next.admissions = state.admissions)
      (chains : next.chains ⊆ (active.turnId, some (codec.validatedCheckpointDigest wire)) ::
        state.queuedTurns.map (·.chained)) :
      TurnsStep codec state context next (some wire) label

theorem turns_of_active (present : state.activeTurn = some active) :
    state.turns = state.terminalTurns.map (·.view) ++ active.view :: state.queuedTurns.map (·.view) := by
  simp [turns, liveTurns, present]

theorem chains_of_active (present : state.activeTurn = some active) :
    state.chains = active.chained :: state.queuedTurns.map (·.chained) := by
  simp [chains, liveTurns, present]

theorem turns_of_idle (idle : state.activeTurn = none) :
    state.turns = state.terminalTurns.map (·.view) ++ state.queuedTurns.map (·.view) := by
  simp [turns, liveTurns, idle]

theorem chains_of_idle (idle : state.activeTurn = none) : state.chains = state.queuedTurns.map (·.chained) := by
  simp [chains, liveTurns, idle]

/-- The active turn may change in what the views do not show. -/
theorem TurnsStep.of_active {active changed : ActiveTurn} (present : state.activeTurn = some active)
    (now : next.activeTurn = some changed) (same : changed.view = active.view)
    (chain : changed.chained = active.chained) (terminal : next.terminalTurns = state.terminalTurns)
    (queued : next.queuedTurns = state.queuedTurns) (admissions : next.admissions = state.admissions)
    (other : label.bind (·.admittedTurn?) = none) : TurnsStep codec state context next none label := by
  refine .kept label other ?_ admissions ?_
  · rw [turns_of_active now, turns_of_active present, same, terminal, queued]
  · rw [chains_of_active now, chains_of_active present, chain, queued]
    exact List.Subset.refl _

theorem Consumption.fields {change : SessionEffect → SessionEffect} {effectId : Option String}
    (consumption : Consumption state active change consumed effectId) :
    consumed.terminalTurns = state.terminalTurns ∧ consumed.queuedTurns = state.queuedTurns ∧
      consumed.admissions = state.admissions ∧ consumed.runtimePointer = state.runtimePointer := by
  cases consumption <;> exact ⟨rfl, rfl, rfl, rfl⟩

/-- The end of the active turn keeps its place. -/
theorem settleActiveTurn_turns (turn : TerminalTurn)
    (terminal : consumed.terminalTurns = state.terminalTurns) (queued : consumed.queuedTurns = state.queuedTurns) :
    (settleActiveTurn consumed turn).turns =
        state.terminalTurns.map (·.view) ++ turn.view :: state.queuedTurns.map (·.view) ∧
      (settleActiveTurn consumed turn).chains = state.queuedTurns.map (·.chained) := by
  refine ⟨?_, ?_⟩
  · rw [turns_of_idle rfl]
    simp [settleActiveTurn, terminal, queued]
  · rw [chains_of_idle rfl]
    simp [settleActiveTurn, queued]

theorem TurnsStep.of_settled {turn : TerminalTurn} (present : state.activeTurn = some active)
    (same : turn.view = active.view)
    (terminal : consumed.terminalTurns = state.terminalTurns) (queued : consumed.queuedTurns = state.queuedTurns)
    (admissions : consumed.admissions = state.admissions) (other : label.bind (·.admittedTurn?) = none) :
    TurnsStep codec state context (settleActiveTurn consumed turn) none label := by
  obtain ⟨turns, chains⟩ := settleActiveTurn_turns turn terminal queued
  refine .kept label other ?_ admissions ?_
  · rw [turns, turns_of_active present, same]
  · rw [chains, chains_of_active present]
    exact subset_cons_self ..

/-- A turn is admitted behind all turns of the session. -/
theorem admitTurn_turns (turn : TurnRecord) (queue : state.activeTurn = none → state.queuedTurns = []) :
    (admitTurn state turn).turns = state.turns ++ [turn.view] ∧ (admitTurn state turn).admissions =
        (state.knownTurnIds ++ [turn.turnId], state.nextTurnSequence + 1, state.history) ∧
      (admitTurn state turn).chains ⊆ turn.chained :: state.chains := by
  cases present : state.activeTurn with
  | none =>
    have active : (admitTurn state turn).activeTurn = some turn.activate := by simp [admitTurn, present]
    rw [turns_of_active active, chains_of_active active, turns_of_idle present, chains_of_idle present]
    simp [admitTurn, present, queue present, admissions]
    exact ⟨rfl, rfl⟩
  | some current =>
    have active : (admitTurn state turn).activeTurn = some current := by simp [admitTurn, present]
    rw [turns_of_active active, chains_of_active active, turns_of_active present, chains_of_active present]
    simp [admitTurn, present, admissions]

theorem StoredSessionCommandOutcome.admittedTurn?_of_quiet {outcome : StoredSessionCommandOutcome}
    (quiet : outcome.isQuiet = true) : outcome.admittedTurn? = none := by
  cases outcome <;> first | rfl | cases quiet

theorem SessionChange.turns (queue : state.activeTurn = none → state.queuedTurns = [])
    (change : SessionChange codec state context clock submitted label promotion next) :
    TurnsStep codec state context next submitted label := by
  cases change with
  | granted | reserved | generationsRotated => exact .kept _ rfl rfl rfl (List.Subset.refl _)
  | runtime _ _ _ move => exact .kept _ (by cases move <;> rfl) rfl rfl (List.Subset.refl _)
  | admitted turn sequence fresh wire genesis external stores checkpoint chain =>
    rw [sequence]
    have view : turn.view = ⟨turn.turnId, state.nextTurnSequence, .external external⟩ := by
      rw [TurnRecord.view, sequence, checkpoint]
    have chained : turn.chained = (turn.turnId, some (codec.validatedCheckpointDigest wire)) := by
      rw [TurnRecord.chained, chain]
    obtain ⟨turns, admissions, chains⟩ := admitTurn_turns turn queue
    rw [view] at turns
    rw [chained] at chains
    exact .admitted turn.turnId wire genesis external stores fresh _ turns admissions chains
  | leaseRotated active present | abortRequested active present =>
    exact .of_active present rfl rfl rfl rfl rfl rfl rfl
  | abortedAtOnce active present => exact .of_settled present rfl rfl rfl rfl rfl
  | abortFinalized active present _ _ _ consumption =>
    obtain ⟨terminal, queued, admissions, _⟩ := consumption.fields
    exact .of_settled present rfl terminal queued admissions rfl
  | stepped active present _ _ wire external continues _ _ consumption =>
    obtain ⟨terminal, queued, admissions, _⟩ := consumption.fields
    refine .stepped active present wire external continues _ rfl ?_ admissions ?_
    · rw [turns_of_active rfl, terminal, queued]
      rfl
    · rw [chains_of_active rfl, queued]
      exact List.Subset.refl _
  | finished active present _ _ wire external continues _ _ consumption =>
    obtain ⟨terminal, queued, admissions, _⟩ := consumption.fields
    obtain ⟨turns, chains⟩ := settleActiveTurn_turns _ terminal queued
    refine .stepped active present wire external continues _ rfl turns admissions ?_
    rw [chains]
    exact subset_cons_self ..
  | dispatched _ _ effectActive _ _ _ _ _ _ _ outcome issued =>
    refine .of_active effectActive.present rfl rfl rfl rfl rfl rfl ?_
    cases outcome <;> first | rfl | cases issued
  | claimed _ _ effectActive | committed _ _ effectActive =>
    exact .of_active effectActive.present rfl rfl rfl rfl rfl rfl rfl
  | blocked _ _ effectActive _ _ _ quiet | settled _ _ effectActive _ _ _ quiet =>
    exact .of_active effectActive.present rfl rfl rfl rfl rfl rfl (StoredSessionCommandOutcome.admittedTurn?_of_quiet quiet)

/-- The queue only grows, and it moves up only behind a turn that ended. -/
theorem SessionChange.queue (change : SessionChange codec state context clock submitted label promotion next) :
    state.queuedTurns <+: next.queuedTurns ∧ state.terminalTurns <+: next.terminalTurns ∧
      ∀ time ∈ promotion, time = clock ∧ next.activeTurn = none := by
  have ended {consumed : SessionAggregateState} (turn : TerminalTurn)
      (terminal : consumed.terminalTurns = state.terminalTurns) (queued : consumed.queuedTurns = state.queuedTurns) :
      state.queuedTurns <+: (settleActiveTurn consumed turn).queuedTurns ∧
        state.terminalTurns <+: (settleActiveTurn consumed turn).terminalTurns ∧
        ∀ time ∈ some clock, time = clock ∧ (settleActiveTurn consumed turn).activeTurn = none :=
    ⟨queued ▸ prefix_rfl, terminal ▸ prefix_append _ _, fun _ now => ⟨(mem_some.mp now).symm, rfl⟩⟩
  cases change with
  | admitted turn =>
    unfold admitTurn
    dsimp only
    split <;> simp
  | abortedAtOnce => exact ended _ rfl rfl
  | abortFinalized _ _ _ _ _ consumption | finished _ _ _ _ _ _ _ _ _ consumption =>
    exact ended _ consumption.fields.1 consumption.fields.2.1
  | stepped _ _ _ _ _ _ _ _ _ consumption =>
    obtain ⟨terminal, queued, _⟩ := consumption.fields
    exact ⟨queued ▸ prefix_rfl, terminal ▸ prefix_rfl, by simp⟩
  | _ => exact ⟨prefix_rfl, prefix_rfl, by simp⟩

/-- A queued turn waits on, becomes active under a live lease, or ends with its lease. -/
def QueuedTurn.Fate (time : Nat) (queued : QueuedTurn) (state : SessionAggregateState)
    (terminal : List TerminalTurn) : Prop :=
  queued ∈ state.queuedTurns ∨ state.activeTurn = some queued.activate ∧ time < queued.leaseExpiresAt ∨
    queued.expire ∈ terminal ∧ queued.leaseExpiresAt ≤ time

theorem promoteTurns_fate (time : Nat) (queue : List QueuedTurn) (state : SessionAggregateState) :
    state.terminalTurns <+: (promoteTurns time queue state).terminalTurns ∧ ∀ queued ∈ queue,
        queued.Fate time (promoteTurns time queue state) (promoteTurns time queue state).terminalTurns := by
  induction queue generalizing state with
  | nil => simp [promoteTurns]
  | cons first rest ih =>
    unfold promoteTurns
    split
    · next expired =>
        obtain ⟨terminal, others⟩ := ih { state with
          terminalTurns := state.terminalTurns ++ [first.expire]
          latestSettledTurn := some first.turnId }
        refine ⟨(prefix_append _ _).trans terminal, forall_mem_cons.mpr ⟨.inr (.inr ⟨?_, expired⟩), others⟩⟩
        exact terminal.subset (mem_append_right _ (mem_singleton_self _))
    · next live =>
        exact ⟨prefix_rfl, forall_mem_cons.mpr ⟨.inr (.inl ⟨rfl, not_le.mp live⟩), fun _ => .inl⟩⟩

/-- Promotion moves turns along the line without changing it. -/
theorem promoteQueuedTurns_turns (idle : ∀ time ∈ promotion, state.activeTurn = none) :
    (promoteQueuedTurns promotion state).turns = state.turns ∧
      (promoteQueuedTurns promotion state).admissions = state.admissions ∧
      (promoteQueuedTurns promotion state).chains ⊆ state.chains := by
  cases promotion with
  | none => exact ⟨rfl, rfl, List.Subset.refl _⟩
  | some time =>
    have idle := idle time rfl
    let promoted := promoteQueuedTurns (some time) state
    have shape : promoted = _ := promoteTurns_eq time state.queuedTurns state
    have queue : expiredTurns time state.queuedTurns ++ waitingTurns time state.queuedTurns = state.queuedTurns :=
      takeWhile_append_dropWhile
    have terminal : promoted.terminalTurns.map (·.view) =
        state.terminalTurns.map (·.view) ++ (expiredTurns time state.queuedTurns).map (·.view) := by
      simp only [shape, map_append, List.map_map]
      rfl
    have views := congrArg (List.map fun turn : QueuedTurn => turn.view) queue
    have chained := congrArg (List.map fun turn : QueuedTurn => turn.chained) queue
    rw [map_append] at views chained
    have admissions : promoted.admissions = state.admissions := by
      rw [shape]
      rfl
    cases waiting : waitingTurns time state.queuedTurns with
    | nil =>
      have active : promoted.activeTurn = none := by simp [shape, waiting, idle]
      have queued : promoted.queuedTurns = [] := by simp [shape, waiting]
      rw [waiting] at views
      refine ⟨?_, admissions, ?_⟩
      · rw [turns_of_idle active, turns_of_idle idle, terminal, queued, ← views, append_assoc]
      · rw [chains_of_idle active, queued]
        exact nil_subset _
    | cons first rest =>
      have active : promoted.activeTurn = some first.activate := by simp [shape, waiting]
      have queued : promoted.queuedTurns = rest := by simp [shape, waiting]
      rw [waiting] at views chained
      refine ⟨?_, admissions, ?_⟩
      · rw [turns_of_active active, turns_of_idle idle, terminal, queued, ← views, append_assoc]
        rfl
      · rw [chains_of_active active, chains_of_idle idle, queued, ← chained]
        exact subset_append_right ..

theorem Committed.fate {commandId : String} {digest : Digest} {candidate : SessionAggregateState}
    (committed : Committed codec state context clock submitted commandId digest label candidate) :
    state.terminalTurns <+: candidate.terminalTurns ∧
      ∀ queued ∈ state.queuedTurns, queued.Fate clock candidate candidate.terminalTurns := by
  obtain ⟨promotion, next, change, same⟩ := committed.changed
  obtain ⟨queue, terminal, times⟩ := change.queue
  have promoted : next.terminalTurns <+: (promoteQueuedTurns promotion next).terminalTurns ∧
      ∀ queued ∈ next.queuedTurns, queued.Fate clock (promoteQueuedTurns promotion next)
        (promoteQueuedTurns promotion next).terminalTurns := by
    cases promotion with
    | none => exact ⟨prefix_rfl, fun _ => .inl⟩
    | some time => exact (times time rfl).1 ▸ promoteTurns_fate time next.queuedTurns next
  have candidateTerminal : candidate.records.terminalTurns = _ := congrArg (·.terminalTurns) same
  have candidateQueue : candidate.records.queuedTurns = _ := congrArg (·.queuedTurns) same
  have candidateActive : candidate.records.activeTurn = _ := congrArg (·.activeTurn) same
  refine ⟨terminal.trans (candidateTerminal ▸ promoted.1), fun queued member => ?_⟩
  have fate := promoted.2 queued (queue.subset member)
  unfold QueuedTurn.Fate at fate ⊢
  rw [show candidate.queuedTurns = _ from candidateQueue, show candidate.activeTurn = _ from candidateActive,
    show candidate.terminalTurns = _ from candidateTerminal]
  exact fate

/-- The candidate of a command steps the turns. -/
theorem Committed.turns {commandId : String} {digest : Digest} {candidate : SessionAggregateState}
    (queue : state.activeTurn = none → state.queuedTurns = [])
    (committed : Committed codec state context clock submitted commandId digest label candidate) :
    TurnsStep codec state context candidate submitted label := by
  obtain ⟨promotion, next, change, same⟩ := committed.changed
  obtain ⟨turns, admissions, chains⟩ := promoteQueuedTurns_turns fun time now => (change.queue.2.2 time now).2
  have sameTurns : candidate.turns = next.turns := by
    have equal : candidate.records.turns = _ := congrArg SessionAggregateState.turns same
    exact equal.trans turns
  have sameAdmissions : candidate.admissions = next.admissions := by
    have equal : candidate.records.admissions = _ := congrArg SessionAggregateState.admissions same
    exact equal.trans admissions
  have fewer : candidate.chains ⊆ next.chains := by
    have equal : candidate.records.chains = _ := congrArg SessionAggregateState.chains same
    exact (show candidate.chains = _ from equal) ▸ chains
  cases change.turns queue with
  | kept _ other turns admissions chains =>
    exact .kept _ other (sameTurns.trans turns) (sameAdmissions.trans admissions) (List.Subset.trans fewer chains)
  | admitted turnId wire genesis external stores fresh activated turns admissions chains =>
    exact .admitted turnId wire genesis external stores fresh activated (sameTurns.trans turns)
      (sameAdmissions.trans admissions) (List.Subset.trans fewer chains)
  | stepped active present wire external continues _ other turns admissions chains =>
    exact .stepped active present wire external continues _ other (sameTurns.trans turns)
      (sameAdmissions.trans admissions) (List.Subset.trans fewer chains)

end Changes

/-- A queue has an active head, and the pointer names the runtime of the session. -/
theorem validateSessionState_turns {codec : Codec} {state : SessionAggregateState}
    (valid : validateSessionState codec state = .ok ()) :
    (state.activeTurn = none → state.queuedTurns = []) ∧
      state.runtimePointer.activeRevision = state.runtimeRevisionDigest := by
  simp only [validateSessionState, assertSessionInvariants, assertSessionIdentity, steps_ok, sessionErrorIf_ok] at valid
  obtain ⟨⟨-, -, -, -, ⟨-, -, -, -, -, revision, -⟩, -, -, -, -, current, -⟩, -⟩ := valid
  refine ⟨fun idle => ?_, revision⟩
  simp only [assertCurrentTurn, idle, assertNoActiveTurn, steps_ok, sessionErrorIf_ok] at current
  exact current.2

section Worlds

variable {codec : Codec} {before after : World} {application : Application} {digest : Digest}
  {label : Option StoredSessionCommandOutcome} {candidate : SessionAggregateState}
variable {context : Option SessionApplyContext}

theorem Moved.turns (moved : Moved codec before application after digest label candidate) :
    after.turns = before.archive.terminalTurns.map (·.view) ++ candidate.turns ∧
      candidate.turns = (application.result.archiveDelta.getD emptyArchive).terminalTurns.map (·.view) ++
        after.state.turns ∧ after.state.chains = candidate.chains := by
  have partition := moved.compacted.partition
  have live : after.state.liveTurns = candidate.liveTurns := by
    rw [liveTurns, partition.activeTurn, partition.queuedTurns]
    rfl
  have split : candidate.turns = (application.result.archiveDelta.getD emptyArchive).terminalTurns.map (·.view) ++
      after.state.turns := by
    rw [SessionAggregateState.turns, SessionAggregateState.turns, live, ← partition.terminalTurns, map_append,
      append_assoc]
  refine ⟨?_, split, congrArg (List.map TurnRecord.chained) live⟩
  rw [World.turns, moved.archive, SessionArchiveDelta.append, map_append, split, append_assoc]

theorem Moved.commandReceipts (moved : Moved codec before application after digest label candidate) :
    after.commandReceipts = before.commandReceipts ++
      (label.map (CommandReceipt.mk application.command.commandId digest (before.state.eventSequence + 1))).toList := by
  rw [World.commandReceipts, moved.archive, SessionArchiveDelta.append, append_assoc,
    moved.compacted.partition.commandReceipts, moved.committed.receipts, ← append_assoc]
  rfl

/-- The commands are numbered from one without a gap, up to the sequence that is expected. -/
def World.Sequenced (world : World) : Prop :=
  world.commandReceipts.map (·.committedEventSequence) = range' 1 world.state.eventSequence

/-- A step only appends to the journal of commands. -/
theorem Step.sequenced (step : Step codec before application after) (sequenced : before.Sequenced) :
    after.Sequenced ∧ before.commandReceipts <+: after.commandReceipts := by
  obtain ⟨rfl, _⟩ | ⟨digest, label, candidate, moved⟩ := step.cases
  · exact ⟨sequenced, prefix_rfl⟩
  · refine ⟨?_, moved.commandReceipts ▸ prefix_append ..⟩
    rw [World.Sequenced, moved.commandReceipts, moved.compacted.partition.eventSequence, moved.committed.sequence,
      map_append, sequenced]
    cases label with
    | none => simp
    | some outcome => simp [range'_1_concat, Nat.add_comm]

/-- No command is lost from the journal of a session and its archive or numbered twice, and of the commands
that expect one sequence only one is ever committed. -/
theorem command_journal_gapless {input : CreateSessionStateInput} {applications later : List Application}
    {world last : World} (reached : Reached codec input applications world) (run : Run (Step codec) world later last) :
    (last.Sequenced ∧ world.commandReceipts <+: last.commandReceipts) ∧
      ∀ command context result after, Step codec last ⟨.core command, context, result⟩ after →
        command.sequenced = true → result.replayed = false → ∃ digest outcome, after.commandReceipts =
          last.commandReceipts ++ [⟨command.commandId, digest, command.expectedEventSequence + 1, outcome⟩] := by
  refine ⟨?_, fun command context result after step sequenced new => ?_⟩
  · obtain ⟨_, created, first⟩ := reached
    obtain ⟨rfl, -⟩ := createSessionState_ok created
    have sequenced : world.Sequenced := first.invariant rfl fun _ _ _ step kept => (step.sequenced kept).1
    apply run.invariant
    · exact ⟨sequenced, prefix_rfl⟩
    · intro _ _ _ step kept
      exact (step.sequenced kept.1).imp_right kept.2.trans
  · obtain ⟨_, _, _, _, same⟩ | ⟨_, _, _, moved⟩ := step.cases
    · cases same
      cases new
    · cases moved.advance.recorded with
      | core _ transition ok =>
        have gated := ok.gated
        simp only [coreGate, steps_ok, sessionErrorIf_ok, sequenced, true_and, not_not] at gated
        exact ⟨_, _, gated.1 ▸ moved.commandReceipts⟩

theorem command_journal_gapless_sample : ∃ applications world, Reached referenceCodec sampleInput applications world ∧
    world.commandReceipts.length = 2 ∧ world.Sequenced := by
  obtain ⟨_, world, reached, holds⟩ := Reached.exists_sample
    [(.core (sampleEnqueue "first" 0), none), (.core (sampleEnqueue "second" 1), none)]
    (fun _ world => world.commandReceipts.length = 2) (by decide +kernel)
  exact ⟨_, world, reached, of_decide_eq_true holds, (command_journal_gapless reached (.nil world)).1.1⟩

/-- The turns that the receipts admit, in their order. -/
def admittedTurns (receipts : List CommandReceipt) : List String := receipts.filterMap (·.outcome.admittedTurn?)

theorem Moved.admittedTurns (moved : Moved codec before application after digest label candidate) :
    Session.admittedTurns after.commandReceipts =
      Session.admittedTurns before.commandReceipts ++ (label.bind (·.admittedTurn?)).toList := by
  rw [moved.commandReceipts, Session.admittedTurns, filterMap_append]
  cases label with
  | none => rfl
  | some outcome => cases admitted : outcome.admittedTurn? <;> simp [Session.admittedTurns, admitted]

def SessionCommand.enqueued? : SessionCommand → Option String
  | .core command => command.enqueued?
  | .broker _ => none

/-- The turn that an accepted application enqueues; the repetition of a command enqueues nothing. -/
def Application.enqueued? (application : Application) : Option String :=
  if application.result.replayed then none else application.command.enqueued?

/-- The turn that an application returns as newly admitted. -/
def Application.returned? (application : Application) : Option String :=
  if application.result.replayed then none else application.result.outcome.admittedTurn?

/-- The turns in the order in which their commands were accepted. -/
def enqueuedTurns (applications : List Application) : List String := applications.filterMap (·.enqueued?)

/-- Only the command that enqueues a turn has the outcome of its admission. -/
theorem coreTransition_admits {state : SessionAggregateState} {transition : Transition} (command : CoreCommand)
    (valid : validateSessionState codec state = .ok ())
    (ok : coreTransition codec state command context = .ok transition) :
    transition.outcome.admittedTurn? = command.enqueued? := by
  have refined := coreTransition_refines command (validateSessionState_effects valid) ok
  cases command with
  | enqueueTurn command =>
    simp only [coreTransition, enqueueTurn, steps_ok] at ok
    obtain ⟨-, -, -, -, -, _, -, -, -, -, -, -, -, _, -, _, -, ok⟩ := ok
    split at ok <;> simp only [steps_ok] at ok <;> obtain ⟨_, -, rfl⟩ := ok <;> rfl
  | commitEngineStep command =>
    simp only [coreTransition, commitEngineStep, steps_ok] at ok
    obtain ⟨_, -, -, -, -, _, -, -, -, -, -, _, -, _, -, _, -, ⟨result, _⟩, -, ok⟩ := ok
    cases result <;> exact (pure_ok ..).mp ok ▸ rfl
  | _ =>
    -- No other command carries a checkpoint, which an admission stores.
    obtain ⟨_, change, -⟩ := refined
    cases change.turns (validateSessionState_turns valid).1 with
    | kept _ other => exact other

theorem Recorded.admits {state : SessionAggregateState} {command : SessionCommand}
    (valid : validateSessionState codec state = .ok ()) (recorded : Recorded codec state context command digest label) :
    label.bind (·.admittedTurn?) = command.enqueued? := by
  cases recorded with
  | core command transition ok => exact coreTransition_admits command valid ok.moved
  | routed command present _ core result broker transition ok =>
    exact (coreTransition_admits core valid ok.moved).trans (brokerTransition_routed command _ core result broker.moved).1.2
  | direct command => cases boundary : command.request.boundary? <;> rfl

/-- The receipts record a turn exactly when its command is accepted, which is also what the caller is told. -/
theorem Step.enqueues (step : Step codec before application after) :
    admittedTurns after.commandReceipts = admittedTurns before.commandReceipts ++ application.enqueued?.toList ∧
      application.returned? = application.enqueued? := by
  have valid := (applySessionCommand_applied _ _ step.accepted).1
  obtain ⟨rfl, _, _, _, same⟩ | ⟨digest, label, candidate, moved⟩ := step.cases
  · simp [Application.enqueued?, Application.returned?, same, replayResult]
  · have admits := moved.advance.recorded.admits valid
    have new := moved.advance.new
    have returned := moved.advance.returned
    refine ⟨?_, ?_⟩
    · simp [moved.admittedTurns, admits, Application.enqueued?, new]
    · simp only [Application.returned?, Application.enqueued?, new, Bool.false_eq_true, if_false, ← admits]
      cases command : application.command with
      | core =>
        rw [command] at returned
        rw [show label = _ from returned]
        rfl
      | broker =>
        rw [command] at returned admits
        obtain ⟨receipt, outcome⟩ := returned
        rw [outcome, admits]
        rfl

theorem Reached.enqueues {input : CreateSessionStateInput} {applications : List Application} {world : World}
    (reached : Reached codec input applications world) :
    admittedTurns world.commandReceipts = enqueuedTurns applications ∧
      applications.filterMap (·.returned?) = enqueuedTurns applications := by
  obtain ⟨initial, created, run⟩ := reached
  obtain ⟨rfl, -⟩ := createSessionState_ok created
  apply run.traceInvariant
  · exact ⟨rfl, rfl⟩
  · intro past before application after step kept
    obtain ⟨receipts, returned⟩ := step.enqueues
    have grown : enqueuedTurns (past ++ [application]) = enqueuedTurns past ++ application.enqueued?.toList := by
      cases found : application.enqueued? <;> simp [enqueuedTurns, found]
    rw [grown, receipts, kept.1, filterMap_append, kept.2]
    cases found : application.enqueued? <;> simp [returned, found]

/-- The turns stand in the order of their distinct identities and of their sequence. -/
structure World.Lined (world : World) : Prop where
  admitted : world.turns.map (·.turnId) = admittedTurns world.commandReceipts
  identities : world.archive.turnIdentities = world.archive.terminalTurns.map (fun turn => ⟨turn.turnId, turn.sequence⟩)
  known : world.state.knownTurnIds = world.state.turns.map (·.turnId)
  distinct : (world.turns.map (·.turnId)).Nodup
  sequences : world.turns.map (·.sequence) = List.range world.state.nextTurnSequence
  unarchived : world.state.history = none → world.archive = emptyArchive

/-- A turn that is admitted is new among all turns of the session. -/
theorem World.Lined.fresh {turnId : String} (lined : before.Lined) (truthful : TruthfulContext before.archive context)
    (ok : assertNewTurn before.state turnId (SessionApplyContext.witness? context) = .ok ()) :
    turnId ∉ before.turns.map (·.turnId) := by
  have unknown : turnId ∉ before.state.knownTurnIds := by
    intro known
    simp [assertNewTurn, known] at ok
  simp only [assertNewTurn, if_neg unknown, steps_ok, sessionErrorIf_ok, not_or] at ok
  obtain ⟨_, lookup, _, _, rfl⟩ := ok
  have absent := historyWitness_none (fun none => by rw [lined.unarchived none]; rfl)
    (.of_bind (·.turn) fun present member => (truthful present member).turn) lookup
  rw [lined.identities] at absent
  rw [World.turns, map_append, mem_append, ← lined.known, not_or]
  refine ⟨?_, unknown⟩
  rw [List.map_map, List.mem_map]
  rintro ⟨turn, member, rfl⟩
  exact absent _ (mem_map_of_mem member) rfl

/-- The records of the known turns follow the turns. -/
theorem TurnsStep.known {state next : SessionAggregateState}
    {submitted : Option AgentCheckpoint} (step : TurnsStep codec state context next submitted label)
    (known : state.knownTurnIds = state.turns.map (·.turnId)) :
    next.knownTurnIds = next.turns.map (·.turnId) ∧ next.history = state.history := by
  cases step with
  | kept _ _ turns admissions _ =>
    simp only [SessionAggregateState.admissions, Prod.mk.injEq] at admissions
    exact ⟨by rw [admissions.1, turns, known], admissions.2.2⟩
  | admitted turnId _ _ _ _ _ _ turns admissions _ =>
    simp only [SessionAggregateState.admissions, Prod.mk.injEq] at admissions
    exact ⟨by rw [admissions.1, turns, known, map_append]; rfl, admissions.2.2⟩
  | stepped active present _ _ _ _ _ turns admissions _ =>
    simp only [SessionAggregateState.admissions, Prod.mk.injEq] at admissions
    refine ⟨?_, admissions.2.2⟩
    rw [admissions.1, turns, known, turns_of_active present]
    simp [TurnRecord.view]

theorem Step.lined (step : Step codec before application after) (lined : before.Lined) : after.Lined := by
  obtain ⟨rfl, _⟩ | ⟨digest, label, candidate, moved⟩ := step.cases
  · exact lined
  have valid := (applySessionCommand_applied _ _ step.accepted).1
  have turnsStep := moved.committed.turns (validateSessionState_turns valid).1
  have partition := moved.compacted.partition
  obtain ⟨turns, split, _⟩ := moved.turns
  obtain ⟨known, history⟩ := turnsStep.known lined.known
  generalize application.command.submitted? = submitted at turnsStep
  -- The identities and the sequences of all turns are kept or grow at the end.
  have grown : after.turns.map (·.turnId) = admittedTurns after.commandReceipts ∧ (after.turns.map (·.turnId)).Nodup ∧
      after.turns.map (·.sequence) = List.range candidate.nextTurnSequence := by
    rw [turns, moved.admittedTurns, ← lined.admitted]
    cases turnsStep with
    | kept _ other turns admissions _ =>
      simp only [SessionAggregateState.admissions, Prod.mk.injEq] at admissions
      rw [turns, admissions.2.1, other]
      exact ⟨(append_nil _).symm, lined.distinct, lined.sequences⟩
    | admitted turnId _ _ _ _ fresh _ turns admissions _ =>
      simp only [SessionAggregateState.admissions, Prod.mk.injEq] at admissions
      have new := lined.fresh step.truthful fresh
      rw [turns, admissions.2.1, ← append_assoc, ← World.turns, map_append, map_append,
        lined.sequences, range_succ]
      exact ⟨rfl, nodup_append_comm.mp (nodup_cons.mpr ⟨new, lined.distinct⟩), rfl⟩
    | stepped active present _ _ _ _ other turns admissions _ =>
      simp only [SessionAggregateState.admissions, Prod.mk.injEq] at admissions
      have sequences := lined.sequences
      have distinct := lined.distinct
      rw [World.turns, turns_of_active present] at sequences distinct
      rw [turns, admissions.2.1, ← sequences, other, World.turns, turns_of_active present]
      exact ⟨by simp [TurnRecord.view], by simpa [TurnRecord.view] using distinct, by simp [TurnRecord.view]⟩
  refine ⟨grown.1, ?_, ?_, grown.2.1, by rw [grown.2.2, partition.nextTurnSequence], fun none => ?_⟩
  · rw [moved.archive]
    simp [SessionArchiveDelta.append, lined.identities, partition.turnIdentities]
  · rw [partition.knownTurnIds, known, split, map_append, drop_left' (by simp)]
  · obtain ⟨absent, empty⟩ := partition.unarchived none
    rw [moved.archive, empty, SessionArchiveDelta.append_empty, lined.unarchived (history ▸ absent)]

theorem Reached.lined {input : CreateSessionStateInput} {applications : List Application} {world : World}
    (reached : Reached codec input applications world) : world.Lined := by
  obtain ⟨initial, created, run⟩ := reached
  obtain ⟨rfl, -⟩ := createSessionState_ok created
  exact run.invariant ⟨rfl, rfl, rfl, nodup_nil, rfl, fun _ => rfl⟩ fun _ _ _ step lined => step.lined lined

theorem World.turnIds (world : World) :
    world.turns.map (·.turnId) = world.terminalTurns.map (·.turnId) ++ world.state.liveTurns.map (·.turnId) := by
  simp [World.turns, SessionAggregateState.turns, World.terminalTurns, TurnRecord.view, TerminalTurn.view,
    Function.comp_def]

theorem Moved.terminalTurns (moved : Moved codec before application after digest label candidate) :
    after.terminalTurns = before.archive.terminalTurns ++ candidate.terminalTurns := by
  rw [World.terminalTurns, moved.archive, SessionArchiveDelta.append, append_assoc,
    moved.compacted.partition.terminalTurns]

/-- Turns are admitted, become active and end in the order in which their commands were accepted, and none is lost. -/
theorem turns_are_fifo {input : CreateSessionStateInput} {applications : List Application} {world : World}
    (reached : Reached codec input applications world) :
    (admittedTurns world.commandReceipts = enqueuedTurns applications ∧
        applications.filterMap (·.returned?) = enqueuedTurns applications) ∧
      world.archive.turnIdentities.map (·.turnId) ++ world.state.knownTurnIds = enqueuedTurns applications ∧
      world.terminalTurns.map (·.turnId) ++ world.state.liveTurns.map (·.turnId) = enqueuedTurns applications ∧
      world.terminalTurns.map (·.sequence) ++ world.state.liveTurns.map (·.sequence) =
        List.range (enqueuedTurns applications).length ∧
      (enqueuedTurns applications).Nodup ∧
      ∀ application after, Step codec world application after →
        admittedTurns world.commandReceipts <+: admittedTurns after.commandReceipts ∧
        world.terminalTurns <+: after.terminalTurns ∧
        ∀ queued ∈ world.state.queuedTurns,
          queued.Fate (application.command.leaseTime application.context) after.state after.terminalTurns := by
  have lined := reached.lined
  have enqueues := reached.enqueues
  have sequences : world.turns.map (·.sequence) = world.terminalTurns.map (·.sequence) ++
      world.state.liveTurns.map (·.sequence) := by
    simp [World.turns, turns, World.terminalTurns, TurnRecord.view, TerminalTurn.view, Function.comp_def]
  refine ⟨enqueues, ?_⟩
  rw [← enqueues.1]
  refine ⟨?_, world.turnIds ▸ lined.admitted, ?_, lined.admitted ▸ lined.distinct, fun application after step => ?_⟩
  · rw [lined.identities, lined.known, ← lined.admitted, World.turns, map_append, List.map_map, List.map_map]
    rfl
  · have count := congrArg List.length lined.sequences
    rw [length_map, length_range] at count
    rw [← sequences, lined.sequences, ← lined.admitted, length_map, count]
  · obtain ⟨rfl, _⟩ | ⟨digest, label, candidate, moved⟩ := step.cases
    · exact ⟨prefix_rfl, prefix_rfl, fun _ => .inl⟩
    · have partition := moved.compacted.partition
      obtain ⟨kept, fate⟩ := moved.committed.fate
      refine ⟨moved.admittedTurns ▸ prefix_append _ _, ?_, fun queued member => ?_⟩
      · rw [moved.terminalTurns]
        exact (prefix_append_right_inj _).mpr kept
      · rw [QueuedTurn.Fate, partition.queuedTurns, partition.activeTurn, moved.terminalTurns]
        exact (fate queued member).imp_right (Or.imp_right fun ended => ⟨mem_append_right _ ended.1, ended.2⟩)

/-- The first nine of eleven turns have ended, the first of them is archived, and the tenth was promoted. -/
theorem turns_are_fifo_sample :
    ∃ applications world, Reached referenceCodec sampleInput applications world ∧
      enqueuedTurns applications = (List.range 11).map toString ∧
      world.archive.terminalTurns.map (·.turnId) = ["0"] ∧ world.terminalTurns.length = 9 ∧
      world.terminalTurns.map (·.turnId) ++ ["9", "10"] = (List.range 11).map toString := by
  obtain ⟨applications, world, reached, holds⟩ := Reached.exists_sample archivingCommands
    (fun applications world => enqueuedTurns applications = (List.range 11).map toString &&
      world.archive.terminalTurns.map (·.turnId) = ["0"] && world.terminalTurns.length = 9 &&
      world.state.liveTurns.map (·.turnId) = ["9", "10"]) (by decide +kernel)
  simp only [Bool.and_eq_true, decide_eq_true_eq] at holds
  obtain ⟨⟨⟨enqueued, archived⟩, ended⟩, live⟩ := holds
  have order := (turns_are_fifo reached).2.2.1
  rw [live, enqueued] at order
  exact ⟨applications, world, reached, enqueued, archived, ended, order⟩

end Worlds

end Circulusd.Session
