import Circulusd.Session.Turns

/-
The life of an effect, from its preparation to the consumption of its settlement.
-/

namespace Circulusd.Session

open Checked Protocol SessionEffect StoredSessionCommandOutcome Trace List Option

/-- The phases that may follow a phase; a dispatched effect is dispatched again under a new attempt. -/
def EffectPhase.following : EffectPhase → List EffectPhase
  | .prepared => [.dispatched, .settled]
  | .dispatched => [.dispatched, .externallyCommitted, .blocked, .settled]
  | .blocked => [.dispatched, .externallyCommitted, .settled]
  | .externallyCommitted => [.settled]
  | .settled => []

/-- Who consumed the settlement: an engine step with its sequence, or an abort. -/
def SessionEffect.consumers (effect : SessionEffect) : Option Nat × Bool :=
  (effect.consumedAtCheckpointSequence, effect.consumedByAbort)

/-- What a recorded outcome may do to an effect. -/
structure Lives (label : Option StoredSessionCommandOutcome) (before after : SessionEffect) : Prop where
  effectId : after.effectId = before.effectId
  phase : after.phase = before.phase ∨ after.phase ∈ before.phase.following
  attempt : after.dispatchAttempt = before.dispatchAttempt ∨
    after.phase = .dispatched ∧ after.dispatchAttempt = before.dispatchAttempt + 1
  settlement : before.phase = .settled → after.settlement = before.settlement
  consumption : after.consumers = before.consumers ∨ before.phase = .settled ∧ before.consumers = (none, false) ∧
    ((∃ turnId kind sequence prepared status, after.consumers = (some sequence, false) ∧
        label = some (.engineStepCommitted turnId kind sequence (some before.effectId) prepared status)) ∨
      ∃ turnId, after.consumers = (none, true) ∧ label = some (.abortFinalized turnId))
  started : before.hasStart = true →
    after.lastDispatch = before.lastDispatch ∧ after.dispatchAttempt = before.dispatchAttempt

theorem Lives.refl (label : Option StoredSessionCommandOutcome) (effect : SessionEffect) : Lives label effect effect :=
  ⟨rfl, .inl rfl, .inl rfl, fun _ => rfl, .inl rfl, fun _ => ⟨rfl, rfl⟩⟩

/-- A move that leaves the dispatch and the consumers alone. -/
theorem Lives.of_phase {label : Option StoredSessionCommandOutcome} {before after : SessionEffect}
    (effectId : after.effectId = before.effectId) (phase : after.phase ∈ before.phase.following)
    (attempt : after.dispatchAttempt = before.dispatchAttempt) (dispatch : after.lastDispatch = before.lastDispatch)
    (consumers : after.consumers = before.consumers) : Lives label before after := by
  refine ⟨effectId, .inr phase, .inl attempt, fun settled => ?_, .inl consumers, fun _ => ⟨dispatch, attempt⟩⟩
  simp [settled, EffectPhase.following] at phase

/-- A new effect is prepared under an identity that no hot or archived effect has. -/
structure NewEffect (state : SessionAggregateState) (context : Option SessionApplyContext) (effect : SessionEffect) :
    Prop where
  prepared : ∃ claim payload, effect = EffectClaim.prepare claim payload
  fresh : ∃ checked : SessionAggregateState, checked.history = state.history ∧
    checked.effects.map (·.effectId) = state.effects.map (·.effectId) ∧
    assertNewEffect checked ⟨effect.effectId, effect.invocationId⟩ (SessionApplyContext.witness? context) = .ok ()

section Changes

variable {codec : Codec} {state : SessionAggregateState} {context : Option SessionApplyContext} {clock : Nat}
  {submitted : Option AgentCheckpoint} {label : Option StoredSessionCommandOutcome} {promotion : Option Nat}
  {next : SessionAggregateState}

/-- The identity of a hot effect finds it. -/
theorem ValidEffects.effectById_of_mem (valid : ValidEffects state) (effect : SessionEffect)
    (member : effect ∈ state.effects) : effectById state effect.effectId = some effect := by
  obtain ⟨found, present⟩ : ∃ found, effectById state effect.effectId = some found :=
    isSome_iff_exists.mp (find?_isSome.mpr ⟨effect, member, by simp⟩)
  have same : found.effectId = effect.effectId := by simpa using find?_some present
  rw [present, inj_on_of_nodup_map valid.distinct (mem_of_find?_eq_some present) member same]

/-- A change of one effect leaves the others alone. -/
theorem updateEffect_lives (valid : ValidEffects state) (effect : SessionEffect)
    (change : SessionEffect → SessionEffect) (found : effectById state effect.effectId = some effect)
    (lives : Lives label effect (change effect)) :
    List.Forall₂ (Lives label) state.effects (updateEffect state effect.effectId change).effects := by
  rw [updateEffect, forall₂_map_right_iff, forall₂_same]
  intro other member
  split
  · next same =>
      have equal : other = effect :=
        Option.some.inj ((valid.effectById_of_mem other member).symm.trans (same ▸ found))
      exact equal ▸ lives
  · exact .refl label other

theorem Consumption.lives (valid : ValidEffects state) {active : ActiveTurn}
    {change : SessionEffect → SessionEffect} {consumed : SessionAggregateState} {consumedId : Option String}
    (consumption : Consumption state active change consumed consumedId)
    (lives : ∀ effect, consumedId = some effect.effectId → effect.phase = .settled →
      effect.consumers = (none, false) → Lives label effect (change effect)) :
    consumed.history = state.history ∧ List.Forall₂ (Lives label) state.effects consumed.effects := by
  cases consumption with
  | idle _ => exact ⟨rfl, forall₂_same.mpr fun effect _ => .refl label effect⟩
  | consumed effect effectActive settled unconsumed =>
    have open_ : effect.consumers = (none, false) := by
      simpa [SessionEffect.unconsumed, consumers] using unconsumed
    exact ⟨rfl, updateEffect_lives valid effect change effectActive.found (lives effect rfl settled open_)⟩

theorem Lives.effectIds {before after : List SessionEffect} (lives : List.Forall₂ (Lives label) before after) :
    after.map (·.effectId) = before.map (·.effectId) := by
  induction lives with
  | nil => rfl
  | cons head _ ih => rw [map_cons, map_cons, head.effectId, ih]

/-- Every effect takes one step, and a step of the engine may add one effect. -/
theorem SessionChange.effects (valid : ValidEffects state)
    (change : SessionChange codec state context clock submitted label promotion next) :
    ∃ kept, ∃ new : Option SessionEffect, next.effects = kept ++ new.toList ∧
      List.Forall₂ (Lives label) state.effects kept ∧ ∀ effect ∈ new, NewEffect state context effect := by
  have alone : ∀ kept, List.Forall₂ (Lives label) state.effects kept → next.effects = kept →
      ∃ kept, ∃ new : Option SessionEffect, next.effects = kept ++ new.toList ∧
        List.Forall₂ (Lives label) state.effects kept ∧ ∀ effect ∈ new, NewEffect state context effect :=
    fun kept lives equal => ⟨kept, none, by simp [equal], lives, by simp⟩
  have unchanged := alone _ (List.forall₂_same.mpr fun effect _ => .refl label effect)
  -- A boundary of the engine consumes the settlement at its checkpoint.
  have stepped {active : ActiveTurn} {kind : EngineStepKind} {sequence : Nat} {consumed : SessionAggregateState}
      {consumedId prepared : Option String} {status : CommittedTurnStatus}
      (consumption : Consumption state active (consumeAt sequence) consumed consumedId)
      (recorded : label = some (.engineStepCommitted active.turnId kind sequence consumedId prepared status)) :
      consumed.history = state.history ∧ List.Forall₂ (Lives label) state.effects consumed.effects := by
    refine consumption.lives valid fun effect named settled open_ => ?_
    refine ⟨rfl, .inl rfl, .inl rfl, fun _ => rfl, .inr ⟨settled, open_, .inl ?_⟩, fun _ => ⟨rfl, rfl⟩⟩
    exact ⟨_, _, _, _, _, congrArg (some sequence, ·) (Prod.ext_iff.mp open_).2, by rw [recorded, named]⟩
  cases change with
  | granted | reserved | runtime | generationsRotated | leaseRotated | abortRequested | abortedAtOnce =>
    exact unchanged rfl
  | admitted turn =>
    refine unchanged ?_
    unfold admitTurn
    dsimp only
    split <;> rfl
  | abortFinalized active _ _ consumed _ consumption =>
    refine alone _ (consumption.lives valid fun effect _ settled open_ => ?_).2 rfl
    refine ⟨rfl, .inl rfl, .inl rfl, fun _ => rfl, .inr ⟨settled, open_, .inr ?_⟩, fun _ => ⟨rfl, rfl⟩⟩
    exact ⟨_, congrArg (·, true) (Prod.ext_iff.mp open_).1, rfl⟩
  | stepped active _ _ kind wire _ _ consumed consumedId consumption claim claimed status =>
    obtain ⟨history, lives⟩ := stepped consumption rfl
    refine ⟨consumed.effects, _, rfl, lives, fun effect member => ?_⟩
    obtain ⟨entry, present, rfl⟩ := Option.mem_map.mp member
    exact ⟨⟨_, _, rfl⟩, consumed, history, Lives.effectIds lives, (claimed entry present).2⟩
  | finished active _ _ kind wire _ _ consumed consumedId consumption =>
    exact alone _ (stepped consumption rfl).2 rfl
  | dispatched _ effect effectActive _ dispatch phase unstarted _ attempt =>
    refine alone _ (updateEffect_lives valid effect _ effectActive.found ?_) rfl
    refine ⟨rfl, .inr ?_, .inr ⟨rfl, attempt⟩, fun _ => rfl, .inl rfl, by simp [unstarted]⟩
    rcases phase with phase | phase | phase <;> simp [phase, SessionEffect.dispatch, EffectPhase.following]
  | claimed _ effect effectActive _ dispatch _ last fresh =>
    refine alone _ (updateEffect_lives valid effect _ effectActive.found ?_) rfl
    refine ⟨rfl, .inl rfl, .inl rfl, fun _ => rfl, .inl rfl, fun started => ?_⟩
    simp [hasStart, last, fresh] at started
  | committed _ effect effectActive phase =>
    refine alone _ (updateEffect_lives valid effect _ effectActive.found (.of_phase rfl ?_ rfl rfl rfl)) rfl
    rcases phase with phase | phase <;> simp [phase, commitExternally, EffectPhase.following]
  | blocked _ effect effectActive phase =>
    refine alone _ (updateEffect_lives valid effect _ effectActive.found (.of_phase rfl ?_ rfl rfl rfl)) rfl
    simp [phase, EffectPhase.following]
  | settled _ effect effectActive phase =>
    refine alone _ (updateEffect_lives valid effect _ effectActive.found (.of_phase rfl ?_ rfl rfl rfl)) rfl
    cases given : effect.phase <;> simp_all [settle, EffectPhase.following]

end Changes

/-- What a run may not undo: the settlement, its consumer and a started dispatch. -/
structure Kept (before after : SessionEffect) : Prop where
  effectId : after.effectId = before.effectId
  settled : before.phase = .settled → after.phase = .settled ∧ after.settlement = before.settlement
  consumed : before.consumers ≠ (none, false) → after.consumers = before.consumers
  started : before.hasStart = true →
    after.lastDispatch = before.lastDispatch ∧ after.dispatchAttempt = before.dispatchAttempt

theorem Lives.kept {label : Option StoredSessionCommandOutcome} {before after : SessionEffect}
    (lives : Lives label before after) : Kept before after := by
  refine ⟨lives.effectId, fun settled => ⟨?_, lives.settlement settled⟩, fun consumed => ?_, lives.started⟩
  · simpa [settled, EffectPhase.following] using lives.phase
  · exact lives.consumption.resolve_right fun fresh => consumed fresh.2.1

theorem Kept.trans {first second third : SessionEffect} (left : Kept first second) (right : Kept second third) :
    Kept first third := by
  refine ⟨right.effectId.trans left.effectId, fun settled => ?_, fun consumed => ?_, fun started => ?_⟩
  · obtain ⟨phase, settlement⟩ := left.settled settled
    exact ⟨(right.settled phase).1, (right.settled phase).2.trans settlement⟩
  · have same := left.consumed consumed
    exact (right.consumed (same ▸ consumed)).trans same
  · obtain ⟨dispatch, attempt⟩ := left.started started
    have still : second.hasStart = true := by rwa [hasStart, dispatch]
    exact ⟨(right.started still).1.trans dispatch, (right.started still).2.trans attempt⟩

section Worlds

variable {codec : Codec} {before after : World} {application : Application} {digest : Digest}
  {input : CreateSessionStateInput} {applications : List Application} {world : World}
  {label : Option StoredSessionCommandOutcome} {candidate : SessionAggregateState}

theorem promoteQueuedTurns_effects (promotion : Option Nat) (state : SessionAggregateState) :
    (promoteQueuedTurns promotion state).effects = state.effects := by
  cases promotion with
  | none => rfl
  | some time => rw [promoteQueuedTurns, promoteTurns_eq]

/-- The effects after an application are those of its change, hot or archived. -/
theorem Moved.changed (moved : Moved codec before application after digest label candidate) :
    ∃ promotion next, SessionChange codec before.state application.context
        (application.command.leaseTime application.context) application.command.submitted? label promotion next ∧
      after.effects.Perm (before.archive.effects ++ next.effects) := by
  obtain ⟨promotion, next, change, same⟩ := moved.committed.changed
  have equal : candidate.records.effects = _ := congrArg (·.effects) same
  refine ⟨promotion, next, change, ?_⟩
  rw [World.effects, moved.archive, SessionArchiveDelta.append, append_assoc,
    ← promoteQueuedTurns_effects promotion next]
  exact (moved.compacted.partition.effects.trans (.of_eq equal)).append_left _

/-- Every effect of the session takes one step, and at most one is new. -/
theorem Moved.effects (moved : Moved codec before application after digest label candidate)
    (valid : validateSessionState codec before.state = .ok ()) :
    ∃ kept, ∃ new : Option SessionEffect, after.effects.Perm (kept ++ new.toList) ∧
      List.Forall₂ (Lives label) before.effects kept ∧
        ∀ effect ∈ new, NewEffect before.state application.context effect := by
  obtain ⟨promotion, next, change, perm⟩ := moved.changed
  obtain ⟨kept, new, effects, lives, fresh⟩ := change.effects (validateSessionState_effects valid)
  refine ⟨before.archive.effects ++ kept, new, ?_, ?_, fresh⟩
  · rwa [effects, ← append_assoc] at perm
  · exact rel_append (forall₂_same.mpr fun effect _ => .refl label effect) lives

/-- Identities are distinct, archived effects are consumed, and no effect is consumed twice. -/
structure World.Consuming (world : World) : Prop extends world.Lined where
  distinctEffects : (world.effects.map (·.effectId)).Nodup
  archived : ∀ effect ∈ world.archive.effects, effect.unconsumed = false
  once : ∀ effect ∈ world.effects, effect.consumedAtCheckpointSequence = none ∨ effect.consumedByAbort = false

/-- A prepared effect is new among all effects of the session. -/
theorem World.Lined.freshEffect (lined : before.Lined) (truthful : TruthfulContext before.archive application.context)
    {effect : SessionEffect} (new : NewEffect before.state application.context effect) :
    effect.effectId ∉ before.effects.map (·.effectId) := by
  obtain ⟨checked, history, ids, fresh⟩ := new.fresh
  unfold assertNewEffect at fresh
  dsimp only at fresh
  have absent : checked.effects.any (·.effectId = effect.effectId) = false := by
    by_contra hot
    simp only [eq_true_of_ne_false hot, if_true, ok_bind] at fresh
    split at fresh <;> simp [bind_ok] at fresh
  simp only [absent, Bool.false_eq_true, if_false, bind_ok] at fresh
  obtain ⟨archived, lookup, fresh⟩ := fresh
  have none : archived = none := by
    split at fresh <;> simp [bind_ok] at fresh
    · exact fresh.2.2
    · exact fresh.2.2.2
  have unarchived := historyWitness_none (fun none => by rw [lined.unarchived (history ▸ none)]; rfl)
    (.of_bind (·.effect) fun present member => (truthful present member).effect) (none ▸ lookup)
  rw [World.effects, List.map_append, ← ids]
  simp only [List.mem_append, List.mem_map, not_or, not_exists, not_and]
  exact ⟨unarchived, by simpa using absent⟩

theorem Step.consuming (step : Step codec before application after) (consuming : before.Consuming) :
    after.Consuming := by
  obtain ⟨rfl, _⟩ | ⟨digest, label, candidate, moved⟩ := step.cases
  · exact consuming
  obtain ⟨kept, new, perm, lives, fresh⟩ := moved.effects (applySessionCommand_applied _ _ step.accepted).1
  refine ⟨step.lined consuming.toLined, ?_, ?_, fun effect member => ?_⟩
  · rw [(perm.map _).nodup_iff, List.map_append, Lives.effectIds lives, List.nodup_append]
    refine ⟨consuming.distinctEffects, by cases new <;> simp, fun effectId member other added equal => ?_⟩
    obtain ⟨effect, present, rfl⟩ := List.mem_map.mp added
    exact consuming.freshEffect step.truthful (fresh effect (by simpa using present)) (equal ▸ member)
  · rw [moved.archive]
    exact fun effect member => (List.mem_append.mp member).elim (consuming.archived effect)
      (moved.compacted.partition.consumed effect)
  · rcases List.mem_append.mp (perm.mem_iff.mp member) with old | added
    · obtain ⟨source, present, lives⟩ := exists_of_forall₂_mem lives old
      rcases lives.consumption with same | ⟨-, -, ⟨_, _, _, _, _, marked, _⟩ | ⟨_, marked, _⟩⟩
      · simp only [consumers, Prod.mk.injEq] at same
        rw [same.1, same.2]
        exact consuming.once source present
      · exact .inr (Prod.ext_iff.mp marked).2
      · exact .inl (Prod.ext_iff.mp marked).1
    · obtain ⟨_, _, rfl⟩ := (fresh effect (by simpa using added)).prepared
      exact .inl rfl

theorem Reached.consuming (reached : Reached codec input applications world) : world.Consuming := by
  obtain ⟨initial, created, run⟩ := reached
  have lined : World.Lined ⟨initial, emptyArchive⟩ := Reached.lined ⟨_, created, .nil _⟩
  obtain ⟨rfl, -⟩ := createSessionState_ok created
  refine run.invariant ⟨lined, nodup_nil, ?_, ?_⟩ fun _ _ _ step consuming => step.consuming consuming
  · exact fun _ member => absurd member not_mem_nil
  · exact fun _ member => absurd member not_mem_nil

/-- The only effect of a valid session that is not consumed is the one that its active turn names. -/
theorem validateSessionState_serial {state : SessionAggregateState}
    (valid : validateSessionState codec state = .ok ()) :
    (unconsumedEffects state).map (·.effectId) = (state.activeTurn.bind (·.activeEffectId)).toList := by
  simp only [validateSessionState, assertSessionInvariants, assertEffects, assertSerialEffect, steps_ok] at valid
  obtain ⟨⟨-, -, -, -, -, -, -, -, -, -, -, ⟨-, -, serial⟩, -⟩, -⟩ := valid
  cases active : state.activeTurn with
  | none =>
    simp only [active, sessionErrorIf_ok, not_not] at serial
    simp [serial]
  | some turn =>
    simp only [active, steps_ok, sessionErrorIf_ok, not_and] at serial
    obtain ⟨idle, named, -⟩ := serial
    cases effectId : turn.activeEffectId with
    | none => simp [idle effectId, effectId]
    | some effectId' =>
      obtain ⟨effect, found, matches_⟩ := named (by simp [effectId])
      have same : effect.effectId = effectId' := by
        simp only [activeEffect, active, bind_eq_bind, bind_some, effectId, mem_def] at found
        simpa using find?_some found
      simp [matches_.only, effectId, same]

theorem Step.lives (step : Step codec before application after) : ∃ label : Option StoredSessionCommandOutcome,
      after.commandReceipts.map (·.outcome) = before.commandReceipts.map (·.outcome) ++ label.toList ∧
      ∀ effect ∈ before.effects, ∃ next ∈ after.effects, Lives label effect next := by
  obtain ⟨rfl, _⟩ | ⟨digest, label, candidate, moved⟩ := step.cases
  · exact ⟨none, by simp, fun effect member => ⟨effect, member, .refl none effect⟩⟩
  · obtain ⟨kept, new, perm, lives, -⟩ := moved.effects (applySessionCommand_applied _ _ step.accepted).1
    refine ⟨label, ?_, fun effect member => ?_⟩
    · rw [moved.commandReceipts, map_append]
      cases label <;> rfl
    · obtain ⟨next, present, lives⟩ := exists_of_forall₂_mem lives.flip member
      exact ⟨next, perm.mem_iff.mpr (mem_append_left _ present), lives⟩

/-- What later steps of a session keep of its effects. -/
theorem Run.keeps {applications : List Application} (run : Run (Step codec) before applications after) :
    ∀ effect ∈ before.effects, ∃ next ∈ after.effects, Kept effect next := by
  induction run with
  | nil world =>
    exact fun effect member => ⟨effect, member, (Lives.refl none effect).kept⟩
  | cons head _ ih =>
    intro effect member
    obtain ⟨_, -, each⟩ := head.lives
    obtain ⟨middle, present, lives⟩ := each effect member
    obtain ⟨next, last, kept⟩ := ih middle present
    exact ⟨next, last, lives.kept.trans kept⟩

theorem Reached.valid (reached : Reached codec input applications world) :
    validateSessionState codec world.state = .ok () := by
  obtain ⟨initial, created, run⟩ := reached
  exact run.invariant (createSessionState_ok created).2 fun _ _ _ step _ => step.valid

/-- Effects follow their life one step at a time, one after another, and are consumed once. -/
theorem effect_lifecycle {input : CreateSessionStateInput} {applications : List Application} {world : World}
    (reached : Reached codec input applications world) :
    (world.effects.map (·.effectId)).Nodup ∧ (world.effects.filter (·.unconsumed)).map (·.effectId) =
        (world.state.activeTurn.bind (·.activeEffectId)).toList ∧
      (∀ effect ∈ world.effects, effect.consumedAtCheckpointSequence = none ∨ effect.consumedByAbort = false) ∧
      (∀ application after, Step codec world application after → ∃ label : Option StoredSessionCommandOutcome,
          after.commandReceipts.map (·.outcome) = world.commandReceipts.map (·.outcome) ++ label.toList ∧
          ∀ effect ∈ world.effects, ∃ next ∈ after.effects, Lives label effect next) ∧
      ∀ later last, Run (Step codec) world later last →
        ∀ effect ∈ world.effects, ∃ next ∈ last.effects, Kept effect next := by
  have consuming := reached.consuming
  refine ⟨consuming.distinctEffects, ?_, consuming.once, fun _ _ step => step.lives, fun _ _ run => Run.keeps run⟩
  have archived : world.archive.effects.filter (·.unconsumed) = [] :=
    filter_eq_nil_iff.mpr fun effect member => by simp [consuming.archived effect member]
  rw [World.effects, filter_append, archived, nil_append]
  exact validateSessionState_serial reached.valid

/-- A dispatched effect stands beside its turn. -/
theorem effect_lifecycle_sample : ∃ applications world, Reached referenceCodec sampleInput applications world ∧
      world.effects.map (fun effect => (effect.effectId, effect.phase)) = [("effect", .dispatched)] ∧
      ∀ later last, Run (Step referenceCodec) world later last →
        ∀ effect ∈ world.effects, ∃ next ∈ last.effects, Kept effect next := by
  obtain ⟨applications, world, reached, holds⟩ := Reached.exists_sample
    [(.core (sampleEnqueue "turn" 0), none), (.core sampleStep, none), (.core sampleDispatch, none)]
    (fun _ world => world.effects.map (fun effect => (effect.effectId, effect.phase)) = [("effect", .dispatched)])
    (by decide +kernel)
  exact ⟨applications, world, reached, of_decide_eq_true holds, (effect_lifecycle reached).2.2.2.2⟩

end Worlds

section Starts

variable {outcome : StoredSessionCommandOutcome}

/-- The effect that an outcome starts, or for whose start it gives a permit or a reservation. -/
def StoredSessionCommandOutcome.starts? : StoredSessionCommandOutcome → Option String
  | .dispatchStartClaimed effectId _ _ => some effectId
  | .brokerBoundary .retry effectId => some effectId
  | outcome => outcome.issuedPermit?.map (·.effectId)

def CommandReceipt.claims (receipt : CommandReceipt) (effectId : String) : Bool :=
  receipt.outcome.startClaim?.any (·.1 = effectId)

/-- The application returns a fresh start claim for the effect. -/
def Application.claimsFresh (application : Application) (effectId : String) : Bool :=
  match application.result.outcome with
  | .dispatchStartClaimed claimed true _ => claimed = effectId
  | _ => false

variable {codec : Codec} {before after : World} {application : Application} {effectId : String}

/-- Only an effect without a start is started, and a claim starts it. -/
theorem SessionChange.starts {state next : SessionAggregateState} {context : Option SessionApplyContext}
    {clock : Nat} {submitted : Option AgentCheckpoint} {promotion : Option Nat}
    (change : SessionChange codec state context clock submitted (some outcome) promotion next)
    (starts : outcome.starts? = some effectId) :
    (∃ effect ∈ state.effects, effect.effectId = effectId ∧ effect.hasStart = false) ∧
      (outcome.startClaim?.isSome = true →
        ∃ effect ∈ next.effects, effect.effectId = effectId ∧ effect.hasStart = true) := by
  have quietly : outcome.isQuiet = true → outcome.starts? = none := by
    rcases outcome with _ | ⟨_ | _ | _, _⟩ | _ <;> simp [isQuiet, StoredSessionCommandOutcome.starts?, issuedPermit?]
  cases change with
  | reserved active effect effectActive _ unstarted =>
    exact ⟨⟨effect, effectActive.member, Option.some.inj starts, unstarted⟩, fun claim => by cases claim⟩
  | dispatched active effect effectActive _ dispatch _ unstarted _ _ _ _ issued =>
    have same : effect.effectId = effectId ∧ outcome.startClaim? = none := by
      cases outcome <;> simp_all [issuedPermit?, StoredSessionCommandOutcome.starts?,
        permitClaims, claimInput, startClaim?]
    exact ⟨⟨effect, effectActive.member, same.1, unstarted⟩, fun claim => by simp [same.2] at claim⟩
  | claimed active effect effectActive _ dispatch _ last fresh start =>
    obtain rfl : effect.effectId = effectId := Option.some.inj starts
    refine ⟨⟨effect, effectActive.member, rfl, by simp [hasStart, last, fresh]⟩, fun _ => ?_⟩
    refine ⟨effect.claimStart dispatch start, mem_map.mpr ⟨effect, effectActive.member, if_pos rfl⟩, rfl, rfl⟩
  | blocked _ _ _ _ _ _ quiet => simp [quietly quiet] at starts
  | settled _ _ _ _ _ _ quiet => simp [quietly quiet] at starts
  | runtime _ _ _ move => cases move <;> cases starts
  | _ => cases starts

/-- A start is claimed once, and what it claims has started. -/
structure World.Claimed (world : World) : Prop extends world.Consuming where
  onceClaimed : ∀ effectId, world.commandReceipts.countP (·.claims effectId) ≤ 1
  startedEffect : ∀ receipt ∈ world.commandReceipts, ∀ effectId, receipt.claims effectId = true →
    ∃ effect ∈ world.effects, effect.effectId = effectId ∧ effect.hasStart = true

/-- Nothing starts an effect that has started. -/
theorem World.Consuming.unstarted (consuming : before.Consuming) {digest : Digest} {candidate : SessionAggregateState}
    (moved : Moved codec before application after digest (some outcome) candidate)
    (starts : outcome.starts? = some effectId) :
    ∀ effect ∈ before.effects, effect.effectId = effectId → effect.hasStart = false := by
  obtain ⟨promotion, next, change, -⟩ := moved.changed
  obtain ⟨⟨found, member, named, unstarted⟩, -⟩ := change.starts starts
  intro effect present same
  have equal := inj_on_of_nodup_map consuming.distinctEffects present (mem_append_right _ member)
    (same.trans named.symm)
  rw [equal, unstarted]

theorem Kept.hasStart {before after : SessionEffect} (kept : Kept before after) (started : before.hasStart = true) :
    after.hasStart = true := by
  rwa [SessionEffect.hasStart, (kept.started started).1]

theorem CommandReceipt.claims_iff (receipt : CommandReceipt) (effectId : String) :
    receipt.claims effectId = true ↔ ∃ fresh permit, receipt.outcome = .dispatchStartClaimed effectId fresh permit := by
  unfold claims
  cases receipt.outcome <;> simp [startClaim?]

theorem Step.claimed (step : Step codec before application after) (claimed : before.Claimed) : after.Claimed := by
  have consuming := step.consuming claimed.toConsuming
  obtain ⟨_, -, each⟩ := step.lives
  have kept : ∀ receipt ∈ before.commandReceipts, ∀ effectId, receipt.claims effectId = true →
      ∃ effect ∈ after.effects, effect.effectId = effectId ∧ effect.hasStart = true := by
    intro receipt member effectId claims
    obtain ⟨effect, present, rfl, started⟩ := claimed.startedEffect receipt member effectId claims
    obtain ⟨next, later, lives⟩ := each effect present
    exact ⟨next, later, lives.effectId, lives.kept.hasStart started⟩
  obtain ⟨rfl, _⟩ | ⟨digest, label, candidate, moved⟩ := step.cases
  · exact claimed
  have receipts := moved.commandReceipts
  cases label with
  | none =>
    rw [map_none, toList_none, append_nil] at receipts
    exact ⟨consuming, receipts ▸ claimed.onceClaimed, receipts ▸ kept⟩
  | some outcome =>
    set added := CommandReceipt.mk application.command.commandId digest (before.state.eventSequence + 1) outcome
    rw [map_some, toList_some] at receipts
    refine ⟨consuming, fun effectId => ?_, fun receipt member effectId claims => ?_⟩
    · rw [receipts, countP_append, countP_singleton]
      split
      · next claims =>
          obtain ⟨fresh, permit, equal⟩ := (added.claims_iff effectId).mp claims
          have starts : outcome.starts? = some effectId := by
            rw [show outcome = _ from equal]
            rfl
          have none : before.commandReceipts.countP (·.claims effectId) = 0 := by
            rw [countP_eq_zero]
            intro receipt member claims
            obtain ⟨effect, present, named, started⟩ := claimed.startedEffect receipt member effectId claims
            simp [claimed.unstarted moved starts effect present named] at started
          omega
      · exact claimed.onceClaimed effectId
    · rw [receipts, mem_append, mem_singleton] at member
      rcases member with old | rfl
      · exact kept receipt old effectId claims
      · obtain ⟨fresh, permit, equal⟩ := (added.claims_iff effectId).mp claims
        obtain ⟨promotion, next, change, perm⟩ := moved.changed
        obtain ⟨-, started⟩ := change.starts (by rw [show outcome = _ from equal]; rfl)
        obtain ⟨effect, present, holds⟩ := started (by rw [show outcome = _ from equal]; rfl)
        exact ⟨effect, perm.mem_iff.mpr (mem_append_right _ present), holds⟩

theorem Reached.claimed {input : CreateSessionStateInput} {applications : List Application} {world : World}
    (reached : Reached codec input applications world) : world.Claimed := by
  obtain ⟨initial, created, run⟩ := reached
  have consuming : World.Consuming ⟨initial, emptyArchive⟩ := Reached.consuming ⟨_, created, .nil _⟩
  obtain ⟨rfl, -⟩ := createSessionState_ok created
  refine run.invariant ⟨consuming, ?_, ?_⟩ fun _ _ _ step claimed => step.claimed claimed
  · exact fun _ => Nat.zero_le 1
  · exact fun _ member => absurd member not_mem_nil

/-- A repeated outcome is no fresh claim. -/
theorem coreReplay_not_fresh {state : SessionAggregateState} {command : CoreCommand}
    {witness : Option SessionHistoryWitness}
    (replay : coreReplay codec state command witness = .ok (some outcome)) (permit : DispatchStartPermitClaims) :
    outcome ≠ .dispatchStartClaimed effectId true permit := by
  rintro rfl
  simp only [coreReplay, bind_ok] at replay
  obtain ⟨admission, admitted, replay⟩ := replay
  cases admission with
  | some found =>
    obtain rfl : found = _ := by simpa using replay
    simp only [admissionReplay] at admitted
    split at admitted
    · cases admitted
    · simp only [steps_ok] at admitted
      obtain ⟨-, _, -, receipt, -, admitted⟩ := admitted
      cases receipt <;> simp [bind_ok] at admitted
  | none =>
    obtain ⟨receipt, repeated, replay⟩ := (bind_ok ..).mp replay
    cases receipt with
    | some found =>
      obtain rfl : found = _ := by simpa using replay
      simp only [receiptReplay, bind_ok] at repeated
      obtain ⟨stored, -, repeated⟩ := repeated
      cases stored with
      | none => simp at repeated
      | some stored =>
        simp only [steps_ok, some.injEq] at repeated
        obtain ⟨-, -, -, outcome, repeated, rfl⟩ := repeated
        unfold replayOutcome at repeated
        split at repeated
        · simp [startReceiptReplay, bind_ok] at repeated
        · next unclaimed =>
            simp only [steps_ok] at repeated
            simp [repeated.2, startClaim?] at unclaimed
    | none =>
      dsimp only at replay
      split at replay
      · unfold claimReplay at replay
        split at replay
        · cases replay
        · simp [bind_ok] at replay
      · cases replay

/-- A fresh claim moves the session. -/
theorem Step.claimedFresh (step : Step codec before application after) {permit : DispatchStartPermitClaims}
    (returned : application.result.outcome = .dispatchStartClaimed effectId true permit) :
    ∃ digest candidate,
      Moved codec before application after digest (some (.dispatchStartClaimed effectId true permit)) candidate := by
  obtain ⟨command, context, result⟩ := application
  obtain ⟨rfl, digest, outcome, replayed, equal⟩ | ⟨digest, label, candidate, moved⟩ := step.cases
  · obtain rfl : outcome = _ := (congrArg ApplySessionCommandResult.outcome equal).symm.trans returned
    cases replayed with
    | core command _ replay => exact absurd rfl (coreReplay_not_fresh replay permit)
  · have recorded := moved.advance.returned
    cases command with
    | core command => exact ⟨digest, candidate, returned ▸ (show label = _ from recorded) ▸ moved⟩
    | broker command =>
      obtain ⟨receipt, other⟩ := recorded
      rw [returned] at other
      cases other

/-- The fresh claims that the applications returned are recorded. -/
def RecordsClaims (effectId : String) (applications : List Application) (world : World) : Prop :=
  applications.countP (·.claimsFresh effectId) ≤ world.commandReceipts.countP (·.claims effectId)

theorem Step.recordsClaims (step : Step codec before application after) {past : List Application}
    (records : RecordsClaims effectId past before) : RecordsClaims effectId (past ++ [application]) after := by
  obtain ⟨command, context, result⟩ := application
  unfold RecordsClaims at *
  rw [countP_append, countP_singleton]
  by_cases fresh : (Application.mk command context result).claimsFresh effectId = true
  · rw [if_pos fresh]
    have returned : ∃ permit, result.outcome = .dispatchStartClaimed effectId true permit := by
      unfold Application.claimsFresh at fresh
      dsimp only at fresh
      split at fresh
      · next claimed permit equal => exact ⟨permit, by rw [equal, of_decide_eq_true fresh]⟩
      · cases fresh
    obtain ⟨permit, returned⟩ := returned
    obtain ⟨digest, candidate, moved⟩ := step.claimedFresh returned
    rw [moved.commandReceipts, countP_append, map_some, toList_some, countP_singleton,
      if_pos ((CommandReceipt.claims_iff _ effectId).mpr ⟨true, permit, rfl⟩)]
    exact Nat.succ_le_succ records
  · rw [if_neg fresh]
    obtain ⟨rfl, _⟩ | ⟨digest, label, candidate, moved⟩ := step.cases
    · exact records
    · rw [moved.commandReceipts, countP_append]
      exact records.trans (Nat.le_add_right ..)

/-- An effect is started once, and then it keeps its dispatch and no application gives it another. -/
theorem dispatch_start_claimed_once {input : CreateSessionStateInput} {applications : List Application} {world : World}
    (reached : Reached codec input applications world) :
    (∀ effectId, applications.countP (·.claimsFresh effectId) ≤ 1) ∧
      (∀ effectId, world.commandReceipts.countP (·.claims effectId) ≤ 1) ∧
      ∀ effectId, (∃ application ∈ applications, application.claimsFresh effectId = true) ∨
          (∃ receipt ∈ world.commandReceipts, receipt.claims effectId = true) →
        ∃ effect ∈ world.effects, effect.effectId = effectId ∧ ∀ later last, Run (Step codec) world later last →
          (∃ next ∈ last.effects, next.effectId = effectId ∧ next.dispatchAttempt = effect.dispatchAttempt ∧
            next.lastDispatch = effect.lastDispatch) ∧
          ∀ application after, Step codec last application after →
            (∀ added, after.commandReceipts = last.commandReceipts ++ [added] →
              added.outcome.starts? ≠ some effectId) ∧
            (application.result.replayed = false → application.result.outcome.starts? ≠ some effectId) := by
  have claimed := reached.claimed
  obtain ⟨initial, created, run⟩ := reached
  have records (effectId : String) : RecordsClaims effectId applications world :=
    run.traceInvariant (Nat.zero_le _) fun _ _ _ _ step records => step.recordsClaims records
  refine ⟨fun effectId => (records effectId).trans (claimed.onceClaimed effectId), claimed.onceClaimed,
    fun effectId claims => ?_⟩
  obtain ⟨receipt, member, claims⟩ : ∃ receipt ∈ world.commandReceipts, receipt.claims effectId = true :=
    claims.elim (fun fresh => countP_pos_iff.mp ((countP_pos_iff.mpr fresh).trans_le (records effectId))) id
  obtain ⟨effect, present, rfl, started⟩ := claimed.startedEffect receipt member effectId claims
  refine ⟨effect, present, rfl, fun later last more => ?_⟩
  obtain ⟨next, found, kept⟩ := Run.keeps more effect present
  obtain ⟨dispatch, attempt⟩ := kept.started started
  refine ⟨⟨next, found, kept.effectId, attempt, dispatch⟩, fun application after step => ?_⟩
  -- No step from here on records an outcome that starts the effect.
  have unstarted {digest outcome candidate} (moved : Moved codec last application after digest (some outcome) candidate) :
      outcome.starts? ≠ some effect.effectId := by
    intro starts
    have consuming : last.Consuming := Reached.consuming ⟨initial, created, run.append more⟩
    have unstarted := consuming.unstarted moved starts next found kept.effectId
    rw [kept.hasStart started] at unstarted
    cases unstarted
  obtain ⟨rfl, _, _, _, repeated⟩ | ⟨digest, label, candidate, moved⟩ := step.cases
  · exact ⟨fun added appended => by simp at appended, fun new => by simp [repeated, replayResult] at new⟩
  · refine ⟨fun added appended => ?_, fun _ => ?_⟩
    · have grown := append_cancel_left (moved.commandReceipts.symm.trans appended)
      cases label with
      | none => cases grown
      | some outcome =>
        obtain rfl := head_eq_of_cons_eq grown
        exact unstarted moved
    · have returned := moved.advance.returned
      obtain ⟨command, context, result⟩ := application
      cases command with
      | core command =>
        obtain rfl : label = _ := returned
        exact unstarted moved
      | broker command =>
        obtain ⟨receipt, outcome⟩ := returned
        simp [show result.outcome = _ from outcome, StoredSessionCommandOutcome.starts?, issuedPermit?]

/-- The effect is requested, dispatched and started, and its dispatch stays. -/
theorem dispatch_start_claimed_once_sample :
    ∃ applications world, Reached referenceCodec sampleInput applications world ∧
      applications.countP (·.claimsFresh "effect") = 1 ∧
      ∃ effect ∈ world.effects, effect.effectId = "effect" ∧ ∀ later last, Run (Step referenceCodec) world later last →
        ∃ next ∈ last.effects, next.effectId = "effect" ∧ next.lastDispatch = effect.lastDispatch := by
  obtain ⟨applications, world, reached, holds⟩ := Reached.exists_sample
    [(.core (sampleEnqueue "turn" 0), none), (.core sampleStep, none), (.core sampleDispatch, none),
      (.core (sampleClaim 1), none)]
    (fun applications _ => applications.countP (·.claimsFresh "effect") = 1) (by decide +kernel)
  have once := of_decide_eq_true holds
  obtain ⟨effect, member, named, keeps⟩ := (dispatch_start_claimed_once reached).2.2 "effect"
    (.inl (countP_pos_iff.mp (by omega)))
  refine ⟨applications, world, reached, once, effect, member, named, fun later last run => ?_⟩
  obtain ⟨next, found, same, -, dispatch⟩ := (keeps later last run).1
  exact ⟨next, found, same, dispatch⟩

end Starts

end Circulusd.Session
