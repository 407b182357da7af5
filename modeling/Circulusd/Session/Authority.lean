import Circulusd.Session.Effects

/-
Who may still start work: permits under a rotated fence, and turns whose abort was requested.
-/

namespace Circulusd.Session

open Checked Protocol Trace List Option

section Permits

variable {codec : Codec} {before after : World} {application : Application} {state next : SessionAggregateState}
  {context : Option SessionApplyContext} {clock : Nat} {submitted : Option AgentCheckpoint}
  {label : Option StoredSessionCommandOutcome} {promotion : Option Nat}

/-- The effect is dispatched and its start is not claimed. -/
def SessionEffect.waits (effect : SessionEffect) : Bool := effect.phase = .dispatched && !effect.hasStart

/-- The permit that a fresh claim returns. -/
def Application.startPermit? (application : Application) : Option DispatchStartPermitClaims :=
  match application.result.outcome with
  | .dispatchStartClaimed _ true permit => some permit
  | _ => none

/-- No application changes the generations while a dispatch waits for its start. -/
def steady : SessionAggregateState → List Application → Bool
  | _, [] => true
  | state, application :: rest =>
    (!state.effects.any (·.waits) || fence application.result.state = fence state) &&
      steady application.result.state rest

/-- A change of one effect leaves the others alone. -/
theorem ValidEffects.mem_updateEffect (valid : ValidEffects state) {effect other : SessionEffect}
    {change : SessionEffect → SessionEffect} (found : effectById state effect.effectId = some effect)
    (member : other ∈ (updateEffect state effect.effectId change).effects) :
    other ∈ state.effects ∨ other = change effect := by
  obtain ⟨source, present, rfl⟩ := mem_map.mp member
  split
  · next same =>
      have equal : source = effect :=
        Option.some.inj ((valid.effectById_of_mem source present).symm.trans (same ▸ found))
      exact .inr (congrArg change equal)
  · exact .inl present

/-- A waiting effect waited before, or it is dispatched under the fence of the state. -/
theorem SessionChange.waits (valid : ValidEffects state)
    (change : SessionChange codec state context clock submitted label promotion next) {effect : SessionEffect}
    (member : effect ∈ next.effects) (waits : effect.waits = true) :
    effect ∈ state.effects ∨ (promotion = none ∧ fence next = fence state) ∧
      ∀ dispatch ∈ effect.lastDispatch, dispatch.toSessionFence = fence state := by
  -- A consumed effect is settled.
  have consumed {active : ActiveTurn} {change : SessionEffect → SessionEffect} {consumed : SessionAggregateState}
      {consumedId : Option String} (consumption : Consumption state active change consumed consumedId)
      (phase : ∀ effect, (change effect).phase = effect.phase) (member : effect ∈ consumed.effects) :
      effect ∈ state.effects := by
    cases consumption with
    | idle => exact member
    | consumed source effectActive settled =>
      refine (valid.mem_updateEffect effectActive.found member).resolve_right ?_
      rintro rfl
      simp [SessionEffect.waits, phase, settled] at waits
  cases change with
  | granted | reserved | runtime | generationsRotated | leaseRotated | abortRequested | abortedAtOnce => exact .inl member
  | admitted turn =>
    unfold admitTurn at member
    dsimp only at member
    split at member <;> exact .inl member
  | abortFinalized _ _ _ _ _ consumption | finished _ _ _ _ _ _ _ _ _ consumption =>
    exact .inl (consumed consumption (fun _ => rfl) member)
  | stepped _ _ _ _ _ _ _ _ _ consumption claim =>
    refine .inl ((mem_append.mp member).elim (consumed consumption fun _ => rfl) fun prepared => ?_)
    obtain ⟨entry, -, rfl⟩ := map_eq_some_iff.mp (mem_toList.mp prepared)
    cases waits
  | dispatched _ source effectActive _ dispatch _ _ fenced =>
    refine (valid.mem_updateEffect effectActive.found member).imp_right ?_
    rintro rfl
    refine ⟨⟨rfl, ?_⟩, fun _ last => Option.some.inj last ▸ fenced⟩
    simp [fence, moveEffect, updateEffect, effectActive.present]
  | claimed _ source effectActive | committed _ source effectActive | blocked _ source effectActive
  | settled _ source effectActive =>
    refine .inl ((valid.mem_updateEffect effectActive.found member).resolve_right ?_)
    rintro rfl
    simp [SessionEffect.waits, SessionEffect.hasStart, SessionEffect.claimStart, SessionEffect.commitExternally,
      SessionEffect.settle] at waits

/-- Every waiting dispatch has the current generations. -/
def World.Current (world : World) : Prop :=
  ∀ effect ∈ world.state.effects, effect.waits = true →
    ∀ dispatch ∈ effect.lastDispatch, dispatch.toSessionFence = fence world.state

theorem Step.current (step : Step codec before application after) (current : before.Current)
    (kept : before.state.effects.any (·.waits) = true → fence after.state = fence before.state) : after.Current := by
  obtain ⟨rfl, _⟩ | ⟨digest, label, candidate, moved⟩ := step.cases
  · exact current
  obtain ⟨promotion, next, change, same⟩ := moved.committed.changed
  have partition := moved.compacted.partition
  have effects : candidate.records.effects = _ := congrArg (·.effects) same
  have fences : fence candidate.records = _ := congrArg fence same
  intro effect member waits dispatch last
  have hot : effect ∈ next.effects := by
    rw [← promoteQueuedTurns_effects promotion next]
    exact effects ▸ partition.keptEffects.subset member
  rcases change.waits (validateSessionState_effects (applySessionCommand_applied _ _ step.accepted).1) hot waits with
    old | ⟨⟨rfl, fenced⟩, issued⟩
  · rw [kept (any_eq_true.mpr ⟨effect, old, waits⟩)]
    exact current effect old waits dispatch last
  · exact (issued dispatch last).trans (partition.fence.trans (fences.trans fenced)).symm

theorem Run.current {applications : List Application} (run : Run (Step codec) before applications after)
    (current : before.Current) (kept : steady before.state applications = true) : after.Current := by
  induction run with
  | nil => exact current
  | cons head _ ih =>
    simp only [steady, Bool.and_eq_true, Bool.or_eq_true, Bool.not_eq_true', decide_eq_true_eq] at kept
    obtain ⟨same, rest⟩ := kept
    have state := congrArg World.state head.moved
    refine ih (head.current current fun waits => ?_) (state ▸ rest)
    rw [state]
    exact same.resolve_left (by simp [waits])

/-- The turn that a command names as the active one, and the generations that it shows. -/
def SessionCommand.named? : SessionCommand → Option (String × SessionFence)
  | .core command => command.activeTurnBase?.map fun base => (base.turnId, base.fence)
  | .broker command => some (command.request.snapshot.turnId, command.request.snapshot.fence)

/-- An accepted command names the active turn and shows the current generations. -/
theorem Recorded.named {command : SessionCommand} {digest : Digest} {turnId : String} {shown : SessionFence}
    (recorded : Recorded codec state context command digest label) (names : command.named? = some (turnId, shown)) :
    (∃ active ∈ state.activeTurn, active.turnId = turnId) ∧ shown = fence state := by
  have broker {command : SessionBrokerCommand} {time : Nat}
      (names : (SessionCommand.broker command).named? = some (turnId, shown))
      (reserved : assertReservation codec state command time = .ok ()) :
      (∃ active ∈ state.activeTurn, active.turnId = turnId) ∧ shown = fence state := by
    simp only [assertReservation, assertSnapshot, steps_ok, sessionErrorIf_ok, not_not] at reserved
    cases names
    exact ⟨reserved.1.1, reserved.1.2.1⟩
  cases recorded with
  | core command transition ok =>
    have gated := ok.gated
    obtain ⟨base, based, equal⟩ := map_eq_some_iff.mp names
    cases equal
    simp only [coreGate, based, whenPresent, assertActiveFence, assertFence, steps_ok, sessionErrorIf_ok, not_not,
      filter_eq_some_iff, decide_eq_true_eq] at gated
    obtain ⟨-, active, ⟨present, same⟩, ⟨-, lease, -, placement, -, sandbox, -, authorization⟩, -⟩ := gated
    exact ⟨⟨active, present, same⟩, SessionFence.ext lease placement sandbox authorization⟩
  | routed _ _ _ _ _ accepted => exact broker names accepted.reserved
  | direct _ _ _ _ accepted => exact broker names accepted.reserved

/-- While the generations stay as long as a dispatch waits, a fresh claim returns a permit of the current ones. In
general it does exactly when the permit that it shows has the generations of the claim itself. -/
theorem fresh_start_is_current {input : CreateSessionStateInput} {applications : List Application} {world : World}
    (reached : Reached codec input applications world) :
    (steady (initialState input) applications = true →
      ∀ application after, Step codec world application after → ∀ permit ∈ application.startPermit?,
        ∃ active, world.state.activeTurn = some active ∧ permit.dispatchPermitClaims.toSessionFence =
          ⟨active.turnLeaseGeneration, world.state.placementGeneration, world.state.sandboxGeneration,
            world.state.authorizationGeneration⟩) ∧
      ∀ command context result after, Step codec world ⟨.core (.claimDispatchStart command), context, result⟩ after →
        result.replayed = false →
        ∃ permit, (Application.mk (.core (.claimDispatchStart command)) context result).startPermit? = some permit ∧
          (permit.dispatchPermitClaims.toSessionFence = fence world.state ↔
            command.dispatchPermitClaims.toSessionFence = command.fence) := by
  refine ⟨fun kept application after step permit returned => ?_, fun command context result after step new => ?_⟩
  · obtain ⟨initial, created, run⟩ := reached
    obtain ⟨rfl, -⟩ := createSessionState_ok created
    have current : world.Current := Run.current run (fun _ member => absurd member not_mem_nil) kept
    unfold Application.startPermit? at returned
    split at returned
    · next effectId _ outcome =>
        cases returned
        obtain ⟨digest, candidate, moved⟩ := step.claimedFresh outcome
        obtain ⟨promotion, next, change, -⟩ := moved.committed.changed
        generalize application.command.submitted? = submitted at change
        cases change with
        | claimed active effect effectActive _ dispatch phase last fresh _ _ matching =>
          refine ⟨active, effectActive.present, matching.fence.trans ?_⟩
          have waits : effect.waits = true := by simp [SessionEffect.waits, phase, SessionEffect.hasStart, last, fresh]
          rw [current effect effectActive.member waits dispatch last, fence, effectActive.present]
          rfl
        | dispatched _ _ _ _ _ _ _ _ _ _ _ issued => cases issued
        | blocked _ _ _ _ _ _ quiet | settled _ _ _ _ _ _ quiet => cases quiet
        | runtime _ _ _ move => cases move
    · cases returned
  · obtain ⟨-, digest, outcome, -, equal⟩ | ⟨digest, label, candidate, moved⟩ := step.cases
    · cases equal
      cases new
    have returned := moved.advance.returned
    have shown := (moved.advance.recorded.named rfl).2
    cases moved.advance.recorded with
    | core _ transition ok =>
      have claimed := ok.moved
      simp only [coreTransition, claimDispatchStart, steps_ok, Prod.exists] at claimed
      obtain ⟨_, _, -, -, -, -, -, -, _, -, -, -, -, -, -, -, -, -, -, -, -, rfl⟩ := claimed
      rw [Application.startPermit?, show result.outcome = _ from (Option.some.inj returned).symm]
      exact ⟨_, rfl, shown ▸ Iff.rfl⟩

/-- A dispatch is started under the lease that issued it. -/
theorem fresh_start_is_current_sample :
    ∃ applications world application after, Reached referenceCodec sampleInput applications world ∧
      steady (initialState sampleInput) applications = true ∧ Step referenceCodec world application after ∧
      ∃ permit ∈ application.startPermit?, ∃ active, world.state.activeTurn = some active ∧
        permit.dispatchPermitClaims.toSessionFence =
          ⟨active.turnLeaseGeneration, world.state.placementGeneration, world.state.sandboxGeneration,
            world.state.authorizationGeneration⟩ := by
  obtain ⟨applications, world, reached, holds⟩ := Reached.exists_sample
    [(.core (sampleEnqueue "turn" 0), none), (.core sampleStep, none), (.core sampleDispatch, none)]
    (fun applications world => steady (initialState sampleInput) applications &&
      (applySessionCommand referenceCodec world.state (.core (sampleClaim 1)) none).toOption.any
        (Application.mk (.core (sampleClaim 1)) none · |>.startPermit?.isSome)) (by decide +kernel)
  obtain ⟨kept, claims⟩ := (Bool.and_eq_true_iff ..).mp holds
  obtain ⟨result, after, step, claimed⟩ := World.exists_step claims
  obtain ⟨permit, returned⟩ := isSome_iff_exists.mp claimed
  exact ⟨applications, world, _, after, reached, kept, step, permit, returned,
    (fresh_start_is_current reached).1 kept _ after step permit returned⟩

/-- A lease is rotated between a dispatch and its start, and the permit of the old lease still starts. -/
theorem rotated_permit_starts :
    ∃ applications world application after, Reached referenceCodec sampleInput applications world ∧
      Step referenceCodec world application after ∧
      world.state.activeTurn.map (·.turnLeaseGeneration) = some 2 ∧
      ∃ permit ∈ application.startPermit?, permit.dispatchPermitClaims.turnLeaseGeneration = 1 := by
  obtain ⟨applications, world, reached, holds⟩ := Reached.exists_sample
    [(.core (sampleEnqueue "turn" 0), none), (.core sampleStep, none), (.core sampleDispatch, none),
      (.core (.rotateTurnLease ⟨⟨⟨"rotate", 3⟩, "turn", sampleFence 1⟩, 3, 2, 100⟩), none)]
    (fun _ world => world.state.activeTurn.map (·.turnLeaseGeneration) = some 2 &&
      (applySessionCommand referenceCodec world.state (.core (sampleClaim 2)) none).toOption.any
        (Application.mk (.core (sampleClaim 2)) none · |>.startPermit?.any
          (·.dispatchPermitClaims.turnLeaseGeneration = 1))) (by decide +kernel)
  obtain ⟨lease, claims⟩ := (Bool.and_eq_true_iff ..).mp holds
  obtain ⟨result, after, step, claimed⟩ := World.exists_step claims
  obtain ⟨permit, returned, old⟩ := (Option.any_eq_true ..).mp claimed
  exact ⟨applications, world, _, after, reached, step, of_decide_eq_true lease, permit, returned, of_decide_eq_true old⟩

end Permits

section Aborts

variable {codec : Codec} {before after : World} {application : Application} {state next : SessionAggregateState}
  {context : Option SessionApplyContext} {clock : Nat} {submitted : Option AgentCheckpoint}
  {label : Option StoredSessionCommandOutcome} {promotion : Option Nat} {turnId effectId : String}

/-- The application commits a step or gives a grant, a permit or a start. -/
def Application.authorizes (application : Application) : Bool :=
  match application.command, application.result.outcome with
  | .broker command, _ => command.request.kindForOperation ∈
      [SessionBrokerReceiptKind.acquire, .commit, .dispatch, .claim, .retry]
  | .core _, .engineStepCommitted .. => true
  | .core _, .dispatchStartClaimed _ fresh _ => fresh
  | .core _, outcome => outcome.issuedPermit?.isSome

/-- The turn is active and waits for its abort under one effect. -/
def World.AwaitsAbort (world : World) (turnId effectId : String) : Prop :=
  ∃ active, world.state.activeTurn = some active ∧ active.turnId = turnId ∧ active.abortRequested = true ∧
    active.activeEffectId = some effectId

def World.EndedAborted (world : World) (turnId : String) : Prop :=
  ∃ ended ∈ world.terminalTurns, ended.turnId = turnId ∧ ended.result = .aborted

def World.Settled (world : World) (effectId : String) : Prop :=
  ∃ effect ∈ world.effects, effect.effectId = effectId ∧ effect.phase = .settled

/-- The turn waits for its abort under one effect, or it was aborted after the effect was settled. -/
def World.Aborts (world : World) (turnId effectId : String) : Prop :=
  world.AwaitsAbort turnId effectId ∨ world.EndedAborted turnId ∧ world.Settled effectId

/-- Only a turn that is not to be aborted is given work. -/
theorem Moved.live {digest : Digest} {candidate : SessionAggregateState}
    (moved : Moved codec before application after digest label candidate) (authorizes : application.authorizes = true) :
    ∃ active, before.state.activeTurn = some active ∧ active.abortRequested = false := by
  obtain ⟨command, context, result⟩ := application
  unfold Application.authorizes at authorizes
  cases command with
  | broker command =>
    have operation : ∃ now transition, brokerTransition codec before.state command now = .ok transition := by
      cases moved.advance.recorded with
      | routed _ _ _ _ _ broker => exact ⟨_, _, broker.moved⟩
      | direct _ _ _ _ broker => exact ⟨_, _, broker.moved⟩
    obtain ⟨now, transition, ok⟩ := operation
    have live {turn : ActiveTurn} (live : assertLive before.state now = .ok turn) :
        ∃ active, before.state.activeTurn = some active ∧ active.abortRequested = false :=
      ⟨turn, ((assertLive_ok_iff ..).mp live).imp_right And.right⟩
    unfold brokerTransition at ok
    cases request : command.request with simp only [request, map_ok_iff] at ok
    | acquireStep | commitStep | dispatch | claimStart | prepareRetry =>
      obtain ⟨_, operation, -⟩ := ok
      obtain ⟨turn, first, -⟩ := (bind_ok ..).mp operation
      exact live first
    | confirm | settle | block | settleRecovery =>
      simp [request, SessionBrokerMutation.kindForOperation] at authorizes
  | core command =>
    obtain rfl : label = _ := moved.advance.returned
    obtain ⟨promotion, next, change, -⟩ := moved.committed.changed
    dsimp only at change authorizes
    generalize result.outcome = outcome at change authorizes
    generalize SessionCommand.submitted? _ = submitted at change
    cases change with
    | stepped active present live | finished active present live => exact ⟨active, present, live⟩
    | reserved active _ effectActive live | dispatched active _ effectActive live
    | claimed active _ effectActive live => exact ⟨active, effectActive.present, live⟩
    | runtime _ _ _ move => cases move <;> cases authorizes
    | blocked _ _ _ _ _ _ quiet | settled _ _ _ _ _ _ quiet =>
      cases outcome <;>
        simp [StoredSessionCommandOutcome.isQuiet, StoredSessionCommandOutcome.issuedPermit?] at quiet authorizes
    | _ =>
      cases authorizes

/-- A turn that is to be aborted waits for the settlement of its effect and ends aborted. -/
theorem SessionChange.aborts (change : SessionChange codec state context clock submitted label promotion next)
    {active : ActiveTurn} (present : state.activeTurn = some active) (requested : active.abortRequested = true)
    (named : active.activeEffectId = some effectId) :
    (promotion = none ∧ ∃ current, next.activeTurn = some current ∧ current.turnId = active.turnId ∧
        current.abortRequested = true ∧ current.activeEffectId = some effectId) ∨
      (∃ ended ∈ next.terminalTurns, ended.turnId = active.turnId ∧ ended.result = .aborted) ∧
        ∃ effect ∈ state.effects, effect.effectId = effectId ∧ effect.phase = .settled := by
  have only {other : ActiveTurn} (also : state.activeTurn = some other) : other = active :=
    Option.some.inj (also.symm.trans present)
  cases change with
  | granted _ also live | stepped _ also live | finished _ also live => simp [only also, requested] at live
  | reserved _ _ effectActive live | dispatched _ _ effectActive live | claimed _ _ effectActive live =>
    simp [only effectActive.present, requested] at live
  | runtime | generationsRotated => exact .inl ⟨rfl, active, present, rfl, requested, named⟩
  | admitted turn => exact .inl ⟨rfl, active, by simp [admitTurn, present], rfl, requested, named⟩
  | leaseRotated _ also =>
    obtain rfl := only also
    exact .inl ⟨rfl, _, rfl, rfl, requested, named⟩
  | abortRequested _ also =>
    obtain rfl := only also
    exact .inl ⟨rfl, _, rfl, rfl, rfl, named⟩
  | abortedAtOnce _ also _ idle => simp [only also, named] at idle
  | abortFinalized _ also _ _ _ consumption =>
    obtain rfl := only also
    cases consumption with
    | idle absent => simp [named] at absent
    | consumed effect effectActive settled =>
      refine .inr ⟨⟨_, mem_append_right _ (mem_singleton_self _), rfl, rfl⟩, ?_⟩
      exact ⟨effect, effectActive.member, Option.some.inj (effectActive.named.symm.trans named), settled⟩
  | committed _ _ effectActive | blocked _ _ effectActive | settled _ _ effectActive =>
    obtain rfl := only effectActive.present
    exact .inl ⟨rfl, _, rfl, rfl, requested, named⟩

theorem promoteQueuedTurns_terminal (promotion : Option Nat) (state : SessionAggregateState) :
    state.terminalTurns <+: (promoteQueuedTurns promotion state).terminalTurns := by
  cases promotion with
  | none => exact prefix_rfl
  | some time => exact (promoteTurns_fate time state.queuedTurns state).1

/-- A turn that waits for its abort goes on waiting, or it ends aborted when its effect is already settled. -/
theorem Step.awaitsAbort (step : Step codec before application after) (awaits : before.AwaitsAbort turnId effectId) :
    after.AwaitsAbort turnId effectId ∨ after.EndedAborted turnId ∧ before.Settled effectId := by
  obtain ⟨rfl, _⟩ | ⟨digest, label, candidate, moved⟩ := step.cases
  · exact .inl awaits
  obtain ⟨active, present, rfl, requested, named⟩ := awaits
  obtain ⟨promotion, next, change, same⟩ := moved.committed.changed
  rcases change.aborts present requested named with ⟨rfl, waiting⟩ | ⟨⟨ended, member, aborted⟩, effect, hot, settles⟩
  · have kept : candidate.records.activeTurn = _ := congrArg (·.activeTurn) same
    refine .inl ?_
    rwa [World.AwaitsAbort, moved.compacted.partition.activeTurn, show candidate.activeTurn = _ from kept]
  · refine .inr ⟨⟨ended, ?_, aborted⟩, effect, mem_append_right _ hot, settles⟩
    have terminal : candidate.records.terminalTurns = _ := congrArg (·.terminalTurns) same
    rw [moved.terminalTurns, show candidate.terminalTurns = _ from terminal]
    exact mem_append_right _ ((promoteQueuedTurns_terminal promotion next).subset member)

theorem Step.aborts (step : Step codec before application after) (aborts : before.Aborts turnId effectId) :
    after.Aborts turnId effectId := by
  have settled (settled : before.Settled effectId) : after.Settled effectId := by
    obtain ⟨effect, member, rfl, settled⟩ := settled
    obtain ⟨_, -, each⟩ := step.lives
    obtain ⟨next, present, lives⟩ := each effect member
    exact ⟨next, present, lives.effectId, (lives.kept.settled settled).1⟩
  rcases aborts with awaits | ⟨⟨ended, member, aborted⟩, effect⟩
  · exact (step.awaitsAbort awaits).imp_right (And.imp_right settled)
  · refine .inr ⟨⟨ended, ?_, aborted⟩, settled effect⟩
    obtain ⟨rfl, _⟩ | ⟨digest, label, candidate, moved⟩ := step.cases
    · exact member
    · rw [moved.terminalTurns]
      exact ((prefix_append_right_inj _).mpr moved.committed.fate.1).subset member

/-- An ended turn is not the active one. -/
theorem World.Lined.ended_ne (lined : before.Lined) {ended : TerminalTurn} {active : ActiveTurn}
    (member : ended ∈ before.terminalTurns) (present : before.state.activeTurn = some active) :
    ended.turnId ≠ active.turnId := by
  have distinct := before.turnIds ▸ lined.distinct
  refine (nodup_append.mp distinct).2.2 _ (mem_map_of_mem member) _ ?_
  simp [SessionAggregateState.liveTurns, present]

/-- After an accepted abort request the turn is given no work, and it ends aborted once its effect is settled. -/
theorem abort_wins {input : CreateSessionStateInput} {applications : List Application} {world : World}
    {status : AbortedTurnStatus} {active : ActiveTurn} (reached : Reached codec input applications before)
    (step : Step codec before application world) (new : application.result.replayed = false)
    (accepted : application.result.outcome = .abortRequested turnId status)
    (present : world.state.activeTurn = some active) (same : active.turnId = turnId) :
    ∃ effectId, active.activeEffectId = some effectId ∧ active.abortRequested = true ∧
      ∀ later last, Run (Step codec) world later last → last.Aborts turnId effectId ∧
        ∀ application after, Step codec last application after →
          (application.result.replayed = false → application.authorizes = true →
            (∀ current ∈ last.state.activeTurn, current.turnId ≠ turnId) ∧
              ∀ shown, application.command.named? ≠ some (turnId, shown)) ∧
          (last.AwaitsAbort turnId effectId → ¬ after.AwaitsAbort turnId effectId →
            after.EndedAborted turnId ∧ last.Settled effectId) := by
  -- The request leaves the turn active only when it has an effect.
  have asked : ∃ effectId, active.activeEffectId = some effectId ∧ active.abortRequested = true := by
    obtain ⟨-, digest, outcome, -, equal⟩ | ⟨digest, label, candidate, moved⟩ := step.cases
    · simp [equal, replayResult] at new
    obtain ⟨promotion, next, change, records⟩ := moved.committed.changed
    have lined := step.lined reached.lined
    have kept : candidate.records.activeTurn = _ := congrArg (·.activeTurn) records
    have terminal : candidate.records.terminalTurns = _ := congrArg (·.terminalTurns) records
    have ended (turn : TerminalTurn) (member : turn ∈ next.terminalTurns) : turn.turnId ≠ turnId := by
      refine same ▸ lined.ended_ne ?_ present
      rw [moved.terminalTurns, show candidate.terminalTurns = _ from terminal]
      exact mem_append_right _ ((promoteQueuedTurns_terminal promotion next).subset member)
    have recorded := moved.advance.returned
    obtain ⟨command, context, result⟩ := application
    cases command with
    | broker command =>
      obtain ⟨_, other⟩ := recorded
      cases accepted.symm.trans other
    | core command =>
      obtain rfl : label = _ := recorded
      dsimp only at change accepted
      rw [accepted] at change
      generalize SessionCommand.submitted? _ = submitted at change
      cases change with
      | abortRequested requested _ _ pending =>
        rw [moved.compacted.partition.activeTurn, show candidate.activeTurn = _ from kept] at present
        cases present
        obtain ⟨effectId, named⟩ := ne_none_iff_exists'.mp pending
        exact ⟨effectId, named, rfl⟩
      | abortedAtOnce requested =>
        exact absurd rfl (ended _ (mem_append_right _ (mem_singleton_self _)))
      | runtime _ _ _ move => cases move
      | dispatched _ _ _ _ _ _ _ _ _ _ _ issued => cases issued
      | blocked _ _ _ _ _ _ quiet | settled _ _ _ _ _ _ quiet => cases quiet
  obtain ⟨effectId, named, requested⟩ := asked
  refine ⟨effectId, named, requested, fun later last run => ?_⟩
  have aborts : last.Aborts turnId effectId :=
    run.invariant (.inl ⟨active, present, same, requested, named⟩) fun _ _ _ step aborts => step.aborts aborts
  refine ⟨aborts, fun application after further => ⟨fun new authorizes => ?_, fun awaits ended =>
    (further.awaitsAbort awaits).resolve_left ended⟩⟩
  obtain ⟨-, digest, outcome, -, repeated⟩ | ⟨digest, label, candidate, moved⟩ := further.cases
  · simp [repeated, replayResult] at new
  have elsewhere : ∀ current ∈ last.state.activeTurn, current.turnId ≠ turnId := by
    intro current now equal
    obtain ⟨live, running, unaborted⟩ := moved.live authorizes
    rcases aborts with ⟨waiting, found, -, requested, -⟩ | ⟨⟨ended, member, named, -⟩, -⟩
    · cases running.symm.trans found
      simp [requested] at unaborted
    · obtain ⟨initial, created, past⟩ := reached
      have lined : last.Lined := Reached.lined ⟨initial, created, (past.concat step).append run⟩
      exact lined.ended_ne member now (named.trans equal.symm)
  refine ⟨elsewhere, fun shown names => ?_⟩
  obtain ⟨current, now, equal⟩ := (moved.advance.recorded.named names).1
  exact elsewhere current now equal

/-- A turn with a prepared effect is asked to abort. -/
theorem abort_wins_sample :
    ∃ applications before application world active, Reached referenceCodec sampleInput applications before ∧
      Step referenceCodec before application world ∧ world.state.activeTurn = some active ∧
      ∃ effectId, active.activeEffectId = some effectId ∧
        ∀ later last, Run (Step referenceCodec) world later last → last.Aborts "turn" effectId := by
  obtain ⟨applications, before, reached, holds⟩ := Reached.exists_sample
    [(.core (sampleEnqueue "turn" 0), none), (.core sampleStep, none)]
    (fun _ world => (applySessionCommand referenceCodec world.state
      (.core (.requestAbort ⟨⟨⟨"abort", 2⟩, "turn", sampleFence 1⟩, 3, "stop"⟩)) none).toOption.any
        (fun result => result.replayed = false ∧ result.outcome = .abortRequested "turn" .active ∧
          result.state.activeTurn.any (·.turnId = "turn"))) (by decide +kernel)
  obtain ⟨result, world, step, accepted⟩ := World.exists_step holds
  obtain ⟨new, outcome, running⟩ := of_decide_eq_true accepted
  obtain ⟨active, present, same⟩ := (Option.any_eq_true ..).mp running
  have now : world.state.activeTurn = some active := by rwa [step.moved]
  obtain ⟨effectId, named, -, wins⟩ := abort_wins reached step new outcome now (of_decide_eq_true same)
  exact ⟨applications, before, _, world, active, reached, step, now, effectId, named, fun later last run =>
    (wins later last run).1⟩

end Aborts

end Circulusd.Session
