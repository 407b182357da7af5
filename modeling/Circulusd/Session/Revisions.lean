import Circulusd.Session.Turns

/-
The runtime revision under which a turn runs.
-/

namespace Circulusd.Session

open Checked Protocol StoredSessionCommandOutcome List Option

/-- The outcomes that change the active runtime revision. -/
def StoredSessionCommandOutcome.switches : StoredSessionCommandOutcome → Bool
  | .runtimeRevisionActivated _ _ _ _ _ => true
  | .runtimeRevisionRolledBack _ _ _ _ => true
  | _ => false

/-- No turn is active or queued. -/
def SessionAggregateState.Drained (state : SessionAggregateState) : Prop :=
  state.activeTurn = none ∧ state.queuedTurns = []

/-- The pointer follows the new receipts, and a switch finds no live turn. -/
structure RuntimeStep (state next : SessionAggregateState) (receipts : List CommandReceipt) : Prop where
  pointer : next.runtimePointer = advancePointer state.runtimePointer receipts
  generation : next.runtimePointer.switchGeneration =
    state.runtimePointer.switchGeneration + receipts.countP (·.outcome.switches)
  drained : ∀ receipt ∈ receipts, receipt.outcome.switches = true → state.Drained

section Changes

variable {codec : Codec} {state next : SessionAggregateState} {context : Option SessionApplyContext} {clock : Nat}
  {submitted : Option AgentCheckpoint} {label : Option StoredSessionCommandOutcome} {promotion : Option Nat}

/-- An outcome without a runtime command keeps the pointer. -/
theorem RuntimeStep.of_other (receipt : CommandReceipt) (same : next.runtimePointer = state.runtimePointer)
    (other : advancePointerStep state.runtimePointer receipt = state.runtimePointer)
    (stays : receipt.outcome.switches = false) : RuntimeStep state next [receipt] where
  pointer := same.trans other.symm
  generation := by simp [same, stays]
  drained := by simp [stays]

theorem SessionChange.runtimeStep (change : SessionChange codec state context clock submitted label promotion next)
    (commandId : String) (digest : Digest) (sequence : Nat) :
    RuntimeStep state next (label.map (CommandReceipt.mk commandId digest sequence)).toList := by
  have quietly : ∀ outcome : StoredSessionCommandOutcome, outcome.isQuiet = true →
      next.runtimePointer = state.runtimePointer →
      RuntimeStep state next [⟨commandId, digest, sequence, outcome⟩] := by
    intro outcome quiet same
    cases outcome <;> first | exact .of_other _ same rfl rfl | cases quiet
  cases change with
  | granted _ _ _ => exact ⟨rfl, rfl, by simp⟩
  | runtime outcome pointer revision move =>
    cases move with
    | staged _ => exact ⟨rfl, rfl, by simp [switches]⟩
    | discarded _ _ => exact ⟨rfl, rfl, by simp [switches]⟩
    | activated _ _ _ drained => exact ⟨rfl, rfl, fun _ _ _ => drained⟩
    | rolledBack _ _ drained => exact ⟨rfl, rfl, fun _ _ _ => drained⟩
  | admitted turn _ _ _ _ _ _ _ _ =>
    refine .of_other _ ?_ rfl rfl
    unfold admitTurn
    dsimp only
    split <;> rfl
  | abortFinalized _ _ _ _ _ consumption =>
    have same := consumption.fields.2.2.2
    exact .of_other _ same rfl rfl
  | stepped _ _ _ _ _ _ _ _ _ consumption _ _ _ =>
    have same := consumption.fields.2.2.2
    exact .of_other _ same rfl rfl
  | finished _ _ _ _ _ _ _ _ _ consumption _ _ _ =>
    have same := consumption.fields.2.2.2
    exact .of_other _ same rfl rfl
  | dispatched _ _ _ _ _ _ _ _ _ _ outcome issued _ _ =>
    cases outcome <;> first | exact .of_other _ rfl rfl rfl | cases issued
  | blocked _ _ _ _ _ outcome quiet => exact quietly outcome quiet rfl
  | settled _ _ _ _ _ outcome quiet _ _ => exact quietly outcome quiet rfl
  | _ => exact .of_other _ rfl rfl rfl

/-- Only a switch changes the active revision. -/
theorem advancePointer_revision (receipts : List CommandReceipt)
    (stays : ∀ receipt ∈ receipts, receipt.outcome.switches = false) (pointer : RuntimePointer) :
    (advancePointer pointer receipts).activeRevision = pointer.activeRevision := by
  induction receipts generalizing pointer with
  | nil => rfl
  | cons receipt rest ih =>
    obtain ⟨first, others⟩ := forall_mem_cons.mp stays
    have head : (advancePointerStep pointer receipt).activeRevision = pointer.activeRevision := by
      unfold advancePointerStep
      split <;> first | rfl | simp_all [switches]
    exact (ih others _).trans head

theorem RuntimeStep.revision {receipts : List CommandReceipt} (step : RuntimeStep state next receipts)
    (live : ¬ state.Drained) : next.runtimePointer.activeRevision = state.runtimePointer.activeRevision := by
  rw [step.pointer]
  refine advancePointer_revision receipts (fun receipt member => ?_) _
  exact Bool.eq_false_iff.mpr fun switched => live (step.drained receipt member switched)

end Changes

section Worlds

variable {codec : Codec} {input : CreateSessionStateInput} {before after : World} {application : Application}
  {turnId : String} {past : List Application} {wire : AgentCheckpoint} {external : ExternalizedAgentCheckpoint}

/-- A step that is no replay appends at most its receipt and moves the pointer with it. -/
theorem Moved.runtimeStep {digest : Digest} {label : Option StoredSessionCommandOutcome}
    {candidate : SessionAggregateState} (moved : Moved codec before application after digest label candidate) :
    ∃ receipts, after.commandReceipts = before.commandReceipts ++ receipts ∧
      receipts.map (·.outcome) = label.toList ∧ RuntimeStep before.state after.state receipts := by
  have partition := moved.compacted.partition
  obtain ⟨promotion, next, change, same⟩ := moved.committed.changed
  refine ⟨(label.map (CommandReceipt.mk application.command.commandId digest (before.state.eventSequence + 1))).toList,
    ?_, by cases label <;> rfl, ?_⟩
  · exact moved.commandReceipts
  · have equal : candidate.records.runtimePointer = _ := congrArg SessionAggregateState.runtimePointer same
    have promoted : (promoteQueuedTurns promotion next).runtimePointer = next.runtimePointer := by
      cases promotion with
      | none => rfl
      | some time => rw [promoteQueuedTurns, promoteTurns_eq]
    have pointer : after.state.runtimePointer = next.runtimePointer :=
      partition.runtimePointer.trans (equal.trans promoted)
    obtain ⟨advanced, generation, drained⟩ := change.runtimeStep application.command.commandId digest
      (before.state.eventSequence + 1)
    exact ⟨pointer.trans advanced, (congrArg (·.switchGeneration) pointer).trans generation, drained⟩

/-- The runtime pointer is the fold of all receipts, and its generation counts the switches. -/
structure World.Pointed (input : CreateSessionStateInput) (world : World) : Prop where
  pointer : world.state.runtimePointer =
    advancePointer ⟨input.runtimeRevisionDigest, none, none, 1⟩ world.commandReceipts
  generation : world.state.runtimePointer.switchGeneration = 1 + world.commandReceipts.countP (·.outcome.switches)

theorem Step.pointed (step : Step codec before application after) (pointed : before.Pointed input) :
    after.Pointed input := by
  obtain ⟨rfl, _⟩ | ⟨digest, label, candidate, moved⟩ := step.cases
  · exact pointed
  · obtain ⟨receipts, appended, _, pointer, generation, _⟩ := moved.runtimeStep
    refine ⟨?_, ?_⟩
    · rw [pointer, appended, pointed.pointer]
      exact foldl_append.symm
    · rw [generation, appended, countP_append, pointed.generation, Nat.add_assoc]

/-- The checkpoint on the wire that an application commits for a turn. -/
def Application.submitted? (turnId : String) (application : Application) : Option AgentCheckpoint :=
  if application.result.replayed then none else application.command.submitted?.filter (·.turnId = turnId)

/-- The checkpoints that a run commits for a turn, from the genesis on. -/
def checkpointsOf (applications : List Application) (turnId : String) : List AgentCheckpoint :=
  applications.filterMap (·.submitted? turnId)

/-- A checkpoint counts one further and names the digest of the wire form before it. -/
def Follows (codec : Codec) (previous next : AgentCheckpoint) : Prop :=
  next.checkpointSequence = previous.checkpointSequence + 1 ∧
    next.predecessorDigest = some (codec.validatedCheckpointDigest previous)

/-- The checkpoints of one turn under one revision, of which the last one is stored. -/
structure Pinned (codec : Codec) (revision : Digest) (wires : List AgentCheckpoint)
    (stored : StoredSessionCheckpoint) : Prop where
  genesis : ∃ wire ∈ wires.head?, wire.kind = .genesis
  chained : wires.IsChain (Follows codec)
  revisions : ∀ wire ∈ wires, wire.runtimeRevisionDigest = revision
  externalized : ∃ wire ∈ wires.getLast?, ∃ external, externalizeAgentCheckpoint codec wire = .ok external ∧
    stored = .external external

/-- A run that admits the turn while the revision is active. -/
inductive AdmittedUnder (codec : Codec) (input : CreateSessionStateInput) (turnId : String) :
    List Application → Digest → Prop where
  | admission (past : List Application) (before after : World) (reached : Reached codec input past before)
      (application : Application) (step : Step codec before application after) (receipt : CommandReceipt)
      (appended : after.commandReceipts = before.commandReceipts ++ [receipt]) (sequence : Nat) (activated : Bool)
      (outcome : receipt.outcome = .turnEnqueued turnId sequence activated) (later : List Application) :
      AdmittedUnder codec input turnId (past ++ application :: later) before.state.runtimePointer.activeRevision

theorem AdmittedUnder.concat {applications : List Application} {revision : Digest}
    (admitted : AdmittedUnder codec input turnId applications revision) (application : Application) :
    AdmittedUnder codec input turnId (applications ++ [application]) revision := by
  cases admitted with
  | admission past before after reached admission step receipt appended sequence activated outcome later =>
    rw [append_assoc]
    exact .admission past before after reached admission step receipt appended sequence activated outcome _

/-- Every turn of a run is pinned to its revision, and the live turns to the active one. -/
structure Revised (codec : Codec) (input : CreateSessionStateInput) (applications : List Application)
    (world : World) : Prop where
  reached : Reached codec input applications world
  lined : world.Lined
  pinned : ∀ turn ∈ world.turns, ∃ revision, AdmittedUnder codec input turn.turnId applications revision ∧
    Pinned codec revision (checkpointsOf applications turn.turnId) turn.checkpoint
  unknown : ∀ turnId, turnId ∉ world.turns.map (·.turnId) → checkpointsOf applications turnId = []
  live : ∀ turnId chain, (turnId, chain) ∈ world.state.chains →
    chain = (checkpointsOf applications turnId).getLast?.map codec.validatedCheckpointDigest ∧
      ∀ wire ∈ checkpointsOf applications turnId, wire.runtimeRevisionDigest = world.state.runtimePointer.activeRevision

theorem checkpointsOf_concat (past : List Application) (application : Application) (turnId : String) :
    checkpointsOf (past ++ [application]) turnId =
      checkpointsOf past turnId ++ (application.submitted? turnId).toList := by
  rw [checkpointsOf, filterMap_append]
  cases submitted : application.submitted? turnId <;> simp [checkpointsOf, submitted]

/-- An application that commits no checkpoint and keeps the line keeps the pins. -/
theorem Revised.kept (revised : Revised codec input past before)
    (step : Step codec before application after) (silent : ∀ turnId, application.submitted? turnId = none)
    (turns : after.turns = before.turns) (chains : after.state.chains ⊆ before.state.chains)
    (revision : before.state.chains ≠ [] →
      after.state.runtimePointer.activeRevision = before.state.runtimePointer.activeRevision) :
    Revised codec input (past ++ [application]) after := by
  have same : ∀ turnId, checkpointsOf (past ++ [application]) turnId = checkpointsOf past turnId := by
    intro turnId
    rw [checkpointsOf_concat, silent turnId]
    simp
  obtain ⟨initial, created, run⟩ := revised.reached
  refine ⟨⟨initial, created, run.concat step⟩, step.lined revised.lined, ?_, ?_, ?_⟩
  · rw [turns]
    intro turn member
    obtain ⟨revision, admitted, pinned⟩ := revised.pinned turn member
    exact ⟨revision, admitted.concat application, (same turn.turnId).symm ▸ pinned⟩
  · rw [turns]
    intro turnId absent
    rw [same, revised.unknown turnId absent]
  · intro turnId chain member
    have live := revised.live turnId chain (chains member)
    rw [same, revision (ne_nil_of_mem (chains member))]
    exact live

theorem Stores.carries {state : SessionAggregateState} (stores : Stores codec state turnId wire external) :
    wire.turnId = turnId ∧ wire.runtimeRevisionDigest = state.runtimeRevisionDigest := by
  have admissible := stores.admissible
  simp only [checkpointMatchesSession, steps_ok, sessionErrorIf_ok, true_and] at admissible
  exact ⟨admissible.2.1, admissible.2.2.1⟩

theorem externalizeAgentCheckpoint_metadata (ok : externalizeAgentCheckpoint codec wire = .ok external) :
    external.toCheckpointMetadata = wire.toCheckpointMetadata := by
  simp only [externalizeAgentCheckpoint, steps_ok] at ok
  obtain ⟨_, _, rfl⟩ := ok
  rfl

/-- A committed checkpoint extends only the chain of its own turn. -/
theorem checkpointsOf_committed (past : List Application)
    (new : application.result.replayed = false) (submitted : application.command.submitted? = some wire)
    (turnId : String) : checkpointsOf (past ++ [application]) turnId =
      checkpointsOf past turnId ++ if wire.turnId = turnId then [wire] else [] := by
  rw [checkpointsOf_concat, Application.submitted?, new, submitted]
  by_cases own : wire.turnId = turnId <;> simp [own, Option.filter]

/-- Every live turn is one of the turns. -/
theorem World.chain_known {world : World} {chain : Option Digest}
    (member : (turnId, chain) ∈ world.state.chains) : turnId ∈ world.turns.map (·.turnId) := by
  obtain ⟨turn, live, chained⟩ := mem_map.mp member
  obtain ⟨rfl, -⟩ := Prod.mk.inj chained
  have view : turn.view ∈ world.turns :=
    mem_append_right _ (mem_append_right _ (mem_map_of_mem live))
  exact mem_map_of_mem view

/-- A committed checkpoint pins its own turn and leaves the other turns as they were. -/
theorem Revised.committed (revised : Revised codec input past before) (step : Step codec before application after)
    (new : application.result.replayed = false) (submitted : application.command.submitted? = some wire)
    {turn : TurnView} (own : turn.turnId = wire.turnId)
    (admitted : AdmittedUnder codec input wire.turnId (past ++ [application])
      before.state.runtimePointer.activeRevision)
    (pinned : Pinned codec before.state.runtimePointer.activeRevision (checkpointsOf past wire.turnId ++ [wire])
      turn.checkpoint) {front back : List TurnView} (turns : after.turns = front ++ turn :: back)
    (kept : ∀ other, other ∈ front ++ back ↔ other ∈ before.turns ∧ other.turnId ≠ wire.turnId)
    (chains : ∀ entry ∈ after.state.chains, entry = (wire.turnId, some (codec.validatedCheckpointDigest wire)) ∨
      entry ∈ before.state.chains ∧ entry.1 ≠ wire.turnId)
    (revision : after.state.runtimePointer.activeRevision = before.state.runtimePointer.activeRevision) :
    Revised codec input (past ++ [application]) after := by
  have extended : checkpointsOf (past ++ [application]) wire.turnId = checkpointsOf past wire.turnId ++ [wire] := by
    rw [checkpointsOf_committed past new submitted, if_pos rfl]
  have other : ∀ turnId, turnId ≠ wire.turnId →
      checkpointsOf (past ++ [application]) turnId = checkpointsOf past turnId := by
    intro turnId different
    rw [checkpointsOf_committed past new submitted, if_neg (Ne.symm different), append_nil]
  obtain ⟨initial, created, run⟩ := revised.reached
  refine ⟨⟨initial, created, run.concat step⟩, step.lined revised.lined, ?_, ?_, ?_⟩
  · rw [turns]
    intro view member
    rcases mem_cons.mp (perm_middle.mem_iff.mp member) with rfl | earlier
    · rw [own, extended]
      exact ⟨_, admitted, pinned⟩
    · obtain ⟨known, different⟩ := (kept view).mp earlier
      obtain ⟨revision, admitted, pinned⟩ := revised.pinned view known
      rw [other _ different]
      exact ⟨revision, admitted.concat application, pinned⟩
  · intro turnId absent
    simp only [turns, List.mem_map, perm_middle.mem_iff, mem_cons, not_exists, not_and] at absent
    have different : turnId ≠ wire.turnId := fun same => absent turn (.inl rfl) (own.trans same.symm)
    rw [other turnId different]
    refine revised.unknown turnId fun known => ?_
    obtain ⟨view, member, rfl⟩ := mem_map.mp known
    exact absent view (.inr ((kept view).mpr ⟨member, different⟩)) rfl
  · intro turnId chain member
    rw [revision]
    rcases chains _ member with first | ⟨earlier, different⟩
    · obtain ⟨rfl, rfl⟩ := Prod.mk.inj first
      rw [extended]
      exact ⟨by simp, pinned.revisions⟩
    · rw [other turnId different]
      exact revised.live turnId chain earlier

/-- The next checkpoint of a turn continues its chain. -/
theorem Pinned.concat {revision : Digest} {wires : List AgentCheckpoint} {stored : StoredSessionCheckpoint}
    (pinned : Pinned codec revision wires stored)
    (sequence : wire.checkpointSequence = stored.metadata.checkpointSequence + 1)
    (linked : wire.predecessorDigest = wires.getLast?.map codec.validatedCheckpointDigest)
    (carried : wire.runtimeRevisionDigest = revision)
    (externalized : externalizeAgentCheckpoint codec wire = .ok external) :
    Pinned codec revision (wires ++ [wire]) (.external external) := by
  obtain ⟨last, final, previous, ok, rfl⟩ := pinned.externalized
  obtain ⟨genesis, first, kind⟩ := pinned.genesis
  refine ⟨⟨genesis, ?_, kind⟩, pinned.chained.append (.singleton wire) ?_, ?_, wire, by simp, external, externalized, rfl⟩
  · simp [head?_append, mem_def.mp first]
  · intro tail ending next head
    obtain rfl := mem_some.mp head
    cases final.symm.trans ending
    rw [StoredSessionCheckpoint.metadata, externalizeAgentCheckpoint_metadata ok] at sequence
    exact ⟨sequence, by rw [linked, mem_def.mp final]; rfl⟩
  · intro other member
    rcases mem_append.mp member with earlier | latest
    · exact pinned.revisions other earlier
    · rw [mem_singleton.mp latest, carried]

/-- The turn that the engine steps stays pinned to the revision of its admission. -/
theorem Revised.stepped (revised : Revised codec input past before) {active : ActiveTurn}
    (present : before.state.activeTurn = some active) (continues : Continues codec before.state active wire external)
    (carried : wire.runtimeRevisionDigest = before.state.runtimePointer.activeRevision) :
    AdmittedUnder codec input active.turnId past before.state.runtimePointer.activeRevision ∧
      Pinned codec before.state.runtimePointer.activeRevision (checkpointsOf past active.turnId ++ [wire])
        (.external external) := by
  have member : active.view ∈ before.turns := by
    rw [World.turns, turns_of_active present]
    simp
  have live := revised.live active.turnId active.checkpointChainDigest (by
    rw [chains_of_active present]
    exact mem_cons_self)
  obtain ⟨revision, admitted, pinned⟩ := revised.pinned active.view member
  obtain ⟨last, final, _⟩ := pinned.externalized
  -- The checkpoints so far carry both the revision of the admission and the active one.
  have lastMember := mem_of_getLast? final
  obtain rfl : revision = before.state.runtimePointer.activeRevision :=
    (pinned.revisions last lastMember).symm.trans (live.2 last lastMember)
  refine ⟨admitted, pinned.concat continues.sequence ?_ carried continues.externalized⟩
  have ending : (checkpointsOf past active.turnId).getLast? = some last := final
  rw [continues.linked, TurnRecord.chainDigest?, live.1]
  show _ = (checkpointsOf past active.turnId).getLast?.map _
  rw [ending]
  rfl

theorem Step.revised (step : Step codec before application after)
    (revised : Revised codec input past before) : Revised codec input (past ++ [application]) after := by
  obtain ⟨rfl, digest, outcome, _, result⟩ | ⟨digest, label, candidate, moved⟩ := step.cases
  · exact revised.kept step (fun turnId => by rw [Application.submitted?, result]; rfl) rfl (List.Subset.refl _)
      (fun _ => rfl)
  have valid := (applySessionCommand_applied _ _ step.accepted).1
  obtain ⟨queue, pointer⟩ := validateSessionState_turns valid
  have turnsStep := moved.committed.turns queue
  have new := moved.advance.new
  obtain ⟨line, _, live⟩ := moved.turns
  obtain ⟨receipts, appended, outcomes, runtime⟩ := moved.runtimeStep
  generalize submitted : application.command.submitted? = carried at turnsStep
  cases turnsStep with
  | kept _ _ turns _ chains =>
    refine revised.kept step (fun turnId => by simp [Application.submitted?, submitted]) ?_ (live ▸ chains) ?_
    · rw [line, turns, World.turns]
    · intro pending
      refine runtime.revision fun drained => pending ?_
      rw [chains_of_idle drained.1, drained.2]
      rfl
  | admitted turnId wire genesis external stores fresh activated turns _ chains =>
    obtain ⟨rfl, revision⟩ := stores.carries
    rw [← pointer] at revision
    have unknown := revised.lined.fresh step.truthful fresh
    obtain ⟨receipt, rfl⟩ : ∃ receipt, receipts = [receipt] :=
      length_eq_one_iff.mp (by simpa using congrArg List.length outcomes)
    have outcome := singleton_inj.mp outcomes
    have same := advancePointer_revision [receipt] (by simp [outcome, switches]) before.state.runtimePointer
    refine revised.committed step new submitted rfl
      (.admission past before after revised.reached application step receipt appended _ activated outcome []) ?_
      (line.trans (by rw [turns, ← append_assoc, ← World.turns])) ?_ ?_ (runtime.pointer ▸ same)
    · rw [revised.unknown _ unknown]
      exact ⟨⟨wire, rfl, genesis⟩, .singleton wire, by simpa using revision, wire, rfl, external,
        stores.externalized, rfl⟩
    · intro other
      rw [append_nil]
      exact ⟨fun member => ⟨member, fun same => unknown (same ▸ mem_map_of_mem member)⟩, And.left⟩
    · intro entry member
      refine (mem_cons.mp (chains (live ▸ member))).imp_right fun earlier => ⟨earlier, fun same => ?_⟩
      have known : entry.1 ∈ before.turns.map (·.turnId) := World.chain_known earlier
      exact unknown (same ▸ known)
  | stepped active present wire external continues _ _ turns _ chains =>
    obtain ⟨identity, revision⟩ := continues.toStores.carries
    rw [← pointer] at revision
    obtain ⟨admitted, pinned⟩ := revised.stepped present continues revision
    have running := runtime.revision fun drained => by simp [drained.1] at present
    rw [← identity] at admitted pinned
    have split : before.turns = (before.archive.terminalTurns.map (·.view) ++
        before.state.terminalTurns.map (·.view)) ++ active.view :: before.state.queuedTurns.map (·.view) := by
      rw [World.turns, turns_of_active present, append_assoc]
    have apart : active.turnId ∉ ((before.archive.terminalTurns.map (·.view) ++
        before.state.terminalTurns.map (·.view)) ++ before.state.queuedTurns.map (·.view)).map (·.turnId) := by
      have distinct := revised.lined.distinct
      rw [split, (perm_middle.map _).nodup_iff] at distinct
      exact (nodup_cons.mp distinct).1
    refine revised.committed step new submitted identity.symm (admitted.concat application) pinned
      (line.trans (by rw [turns, ← append_assoc])) ?_ ?_ running
    · intro other
      rw [split, perm_middle.mem_iff, mem_cons, identity]
      refine ⟨fun member => ⟨.inr member, fun same => apart (same ▸ mem_map_of_mem member)⟩, ?_⟩
      rintro ⟨rfl | member, different⟩
      · exact absurd rfl different
      · exact member
    · intro entry member
      rw [identity]
      refine (mem_cons.mp (chains (live ▸ member))).imp_right fun queued => ⟨?_, fun same => apart ?_⟩
      · rw [chains_of_active present]
        exact mem_cons_of_mem _ queued
      · obtain ⟨turn, waiting, rfl⟩ := mem_map.mp queued
        rw [← same, map_append, List.map_map]
        exact mem_append_right _ (mem_map_of_mem waiting)

/-- A turn runs on the one revision that was active when it was admitted. -/
theorem turn_runs_on_one_revision {applications : List Application} {world : World}
    (reached : Reached codec input applications world) :
    world.state.runtimePointer = advancePointer ⟨input.runtimeRevisionDigest, none, none, 1⟩ world.commandReceipts ∧
      world.state.runtimePointer.switchGeneration = 1 + world.commandReceipts.countP (·.outcome.switches) ∧
      (∀ application after receipt, Step codec world application after →
        after.commandReceipts = world.commandReceipts ++ [receipt] → receipt.outcome.switches = true →
        world.state.activeTurn = none ∧ world.state.queuedTurns = []) ∧
      ∀ turn ∈ world.turns, ∃ revision, AdmittedUnder codec input turn.turnId applications revision ∧
        Pinned codec revision (checkpointsOf applications turn.turnId) turn.checkpoint := by
  obtain ⟨initial, created, run⟩ := reached
  obtain ⟨rfl, -⟩ := createSessionState_ok created
  have pointed : world.Pointed input :=
    run.invariant ⟨rfl, rfl⟩ fun _ _ _ step pointed => step.pointed pointed
  have revised : Revised codec input applications world := by
    refine run.traceInvariant ⟨⟨_, created, .nil _⟩, Reached.lined ⟨_, created, .nil _⟩, ?_, fun _ _ => rfl, ?_⟩
      fun _ _ _ _ step revised => step.revised revised
    · exact fun _ member => absurd member not_mem_nil
    · exact fun _ _ member => absurd member not_mem_nil
  refine ⟨pointed.pointer, pointed.generation, ?_, revised.pinned⟩
  intro application after receipt step appended switched
  obtain ⟨rfl, _⟩ | ⟨digest, label, candidate, moved⟩ := step.cases
  · simp at appended
  · obtain ⟨receipts, grown, _, runtime⟩ := moved.runtimeStep
    obtain rfl := append_cancel_left (grown.symm.trans appended)
    exact runtime.drained receipt mem_cons_self switched

/-- A turn with an engine step ends, and the session switches to another revision; the turn stays on its own. -/
theorem turn_runs_on_one_revision_sample :
    ∃ applications world, Reached referenceCodec sampleInput applications world ∧
      world.turns.map (·.turnId) = ["turn"] ∧ (checkpointsOf applications "turn").length = 2 ∧
      world.state.runtimePointer = ⟨5, none, some 1, 2⟩ ∧ world.commandReceipts.countP (·.outcome.switches) = 1 ∧
      ∀ turn ∈ world.turns, ∃ revision, AdmittedUnder referenceCodec sampleInput turn.turnId applications revision ∧
        Pinned referenceCodec revision (checkpointsOf applications turn.turnId) turn.checkpoint := by
  obtain ⟨applications, world, reached, holds⟩ := Reached.exists_sample
    [(.core (sampleEnqueue "turn" 0), none), (.core (sampleEngineStep none (.turnComplete · .null)), none),
      (.core (.stageRuntimeRevision ⟨⟨"stage", 2⟩, 5⟩), none),
      (.core (.activateRuntimeRevision ⟨⟨"activate", 3⟩, 1, 5, 1, 6, 6⟩), none)]
    (fun applications world => world.turns.map (·.turnId) = ["turn"] &&
      (checkpointsOf applications "turn").length = 2 && world.state.runtimePointer = ⟨5, none, some 1, 2⟩)
    (by decide +kernel)
  simp only [Bool.and_eq_true, decide_eq_true_eq] at holds
  obtain ⟨⟨turns, checkpoints⟩, pointer⟩ := holds
  obtain ⟨-, generation, -, pinned⟩ := turn_runs_on_one_revision reached
  rw [pointer] at generation
  exact ⟨applications, world, reached, turns, checkpoints, pointer, Nat.add_left_cancel generation.symm, pinned⟩

end Worlds

end Circulusd.Session
