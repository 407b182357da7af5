import Circulusd.Session.Apply
import Circulusd.Session.Change
import Circulusd.Session.Compaction

/-
What an accepted application of a command does to the whole session.
-/

namespace Circulusd.Session

open Checked Protocol List Option Prod

variable (time : Nat) (queue : List QueuedTurn) (command : SessionBrokerCommand)
variable {first second : SessionAggregateState}

/-- The state without its broker. -/
def SessionAggregateState.unbrokered (state : SessionAggregateState) : SessionAggregateState :=
  { state with broker := none }

/-- Two states that differ at most in their broker. -/
def SameUnbrokered (first second : SessionAggregateState) : Prop := first.unbrokered = second.unbrokered

theorem SameUnbrokered.trans {first second third : SessionAggregateState} (left : SameUnbrokered first second)
    (right : SameUnbrokered second third) : SameUnbrokered first third := Eq.trans left right

theorem SameUnbrokered.records (same : SameUnbrokered first second) :
    SameRecords first second := by
  have equal : first.unbrokered.records = second.unbrokered.records := congrArg SessionAggregateState.records same
  exact equal

theorem SameUnbrokered.journals (same : SameUnbrokered first second) :
    first.journals = second.journals := by
  have equal : first.unbrokered.journals = second.unbrokered.journals := congrArg SessionAggregateState.journals same
  exact equal

/-- A queued turn whose lease ended before it could be activated. -/
def QueuedTurn.expire (queued : QueuedTurn) : TerminalTurn :=
  queued.terminate queued.checkpoint true (some leaseExpiredReason) .aborted

/-- The queued turns that promotion passes over. -/
def expiredTurns : List QueuedTurn :=
  queue.takeWhile (fun queued => queued.leaseExpiresAt ≤ time)

/-- The queued turns from the first one that promotion activates. -/
def waitingTurns : List QueuedTurn :=
  queue.dropWhile (fun queued => queued.leaseExpiresAt ≤ time)

/-- Promotion ends the expired turns in order and activates the first live one. -/
theorem promoteTurns_eq (state : SessionAggregateState) :
    promoteTurns time queue state = { state with
      terminalTurns := state.terminalTurns ++ (expiredTurns time queue).map QueuedTurn.expire
      latestSettledTurn := ((expiredTurns time queue).getLast?.map (·.turnId)).or state.latestSettledTurn
      queuedTurns := (waitingTurns time queue).tail
      activeTurn := ((waitingTurns time queue).head?.map (·.activate)).or state.activeTurn
      status := if waitingTurns time queue = [] then state.status else .running } := by
  induction queue generalizing state with
  | nil => simp [promoteTurns, expiredTurns, waitingTurns]
  | cons queued rest ih =>
    unfold promoteTurns
    split
    · next expired =>
        rw [ih]
        have skipped : expiredTurns time (queued :: rest) = queued :: expiredTurns time rest := by
          simp [expiredTurns, expired]
        have waiting : waitingTurns time (queued :: rest) = waitingTurns time rest := by
          simp [waitingTurns, expired]
        have latest : ((expiredTurns time rest).getLast?.map (·.turnId)).or (some queued.turnId) =
            ((queued :: expiredTurns time rest).getLast?.map (·.turnId)).or state.latestSettledTurn := by
          cases last : (expiredTurns time rest).getLast? <;> simp [getLast?_cons, last]
        rw [skipped, waiting, ← latest]
        simp [QueuedTurn.expire]
    · next live => simp [expiredTurns, waitingTurns, live]

theorem promoteQueuedTurns_internal (promotion : Option Nat) (state : SessionAggregateState) :
    (promoteQueuedTurns promotion state).internal = promoteQueuedTurns promotion state.internal := by
  cases promotion with
  | none => rfl
  | some time =>
    simp only [promoteQueuedTurns, promoteTurns_eq]
    rfl

theorem SameInternal.promote (same : SameInternal first second) (promotion : Option Nat) :
    SameInternal (promoteQueuedTurns promotion first) (promoteQueuedTurns promotion second) := by
  rw [SameInternal, promoteQueuedTurns_internal, promoteQueuedTurns_internal, same]

section Publishing

variable {former before after : SessionAggregateState} {effect : SessionEffect}

theorem appendPreparedEvent_publishes (ok : appendPreparedEvent before effect = .ok after) : Publishes before after := by
  unfold appendPreparedEvent at ok
  split at ok
  · obtain ⟨_, _, appended⟩ := (bind_ok ..).mp ok
    exact appendPublicEvent_publishes appended
  · exact Except.ok.inj ok ▸ .refl _

theorem appendTransitionEvent_publishes (ok : appendTransitionEvent former before effect = .ok after) :
    Publishes before after := by
  unfold appendTransitionEvent at ok
  split at ok
  · simp only [bind_ok] at ok
    obtain ⟨_, _, body, _, appended⟩ := ok
    cases body with
    | none => exact (pure_ok ..).mp appended ▸ .refl _
    | some body => exact appendPublicEvent_publishes appended
  · exact Except.ok.inj ok ▸ .refl _

theorem appendConfirmationEvent_publishes (ok : appendConfirmationEvent former before = .ok after) :
    Publishes before after := by
  unfold appendConfirmationEvent at ok
  split at ok
  · exact Except.ok.inj ok ▸ .refl _
  · split at ok
    · obtain ⟨_, _, appended⟩ := (bind_ok ..).mp ok
      exact appendPublicEvent_publishes appended
    · exact Except.ok.inj ok ▸ .refl _

theorem appendTerminalEvent_publishes {turn : TerminalTurn} (ok : appendTerminalEvent before turn = .ok after) :
    Publishes before after := by
  unfold appendTerminalEvent at ok
  split at ok
  · exact appendPublicEvent_publishes ok
  · exact Except.ok.inj ok ▸ .refl _

theorem appendBrokerPublicEvent_publishes {turn : ActiveTurn} {body : SessionPublicEventBody}
    (ok : appendBrokerPublicEvent before turn effect body = .ok after) : Publishes before after := by
  unfold appendBrokerPublicEvent at ok
  split at ok
  · simp only [steps_ok] at ok
    obtain ⟨_, _, rfl⟩ := ok
    exact ⟨rfl, _, rfl, rfl, rfl⟩
  · exact Except.ok.inj ok ▸ .refl _

/-- A loop of public events changes only the public journal. -/
theorem foldlM_publishes {α : Type} {next : SessionAggregateState → α → Checked SessionAggregateState} {entries : List α}
    (ok : entries.foldlM next before = .ok after)
    (step : ∀ before entry after, next before entry = .ok after → Publishes before after) : Publishes before after :=
  foldlM_ok_relation (fun after before => Publishes before after) next Publishes.refl
    (fun _ _ _ later earlier => earlier.trans later) step entries before after ok

theorem publishEvents_publishes (ok : publishEvents former before = .ok after) : Publishes before after := by
  simp only [publishEvents, bind_ok] at ok
  obtain ⟨prepared, preparing, transitioned, moving, confirmed, confirming, terminating⟩ := ok
  have first := foldlM_publishes preparing fun _ _ _ => appendPreparedEvent_publishes
  have second := foldlM_publishes moving fun _ _ _ => appendTransitionEvent_publishes
  have third := appendConfirmationEvent_publishes confirming
  have fourth := foldlM_publishes terminating fun _ _ _ => appendTerminalEvent_publishes
  exact ((first.trans second).trans third).trans fourth

end Publishing

theorem appendReceipt_unbrokered (codec : Codec) (before after : SessionAggregateState)
    (request : SessionBrokerMutation) (value : SessionBrokerReceiptValue) (blobs stored : BlobMap)
    (receipt : SessionBrokerStoredReceipt)
    (ok : appendReceipt codec before request value blobs = .ok (after, stored, receipt)) :
    SameUnbrokered after before := by
  simp only [appendReceipt, bind_ok, pure_ok, mk.injEq] at ok
  obtain ⟨_, _, _, _, _, _, rfl, _⟩ := ok
  rfl

/-- The result of a broker operation changes only the broker. -/
def BrokerResult.OnlyBroker (result : BrokerResult) : Prop :=
  ∀ before blobs after value stored, result before blobs = .ok (after, value, stored) → SameUnbrokered after before

theorem finalizeWith_unbrokered (codec : Codec) (request : SessionBrokerMutation) (result : BrokerResult)
    (only : result.OnlyBroker) (before after : SessionAggregateState) (blobs stored : BlobMap)
    (receipt : SessionBrokerStoredReceipt)
    (ok : finalizeWith codec request result before blobs = .ok (after, stored, receipt)) :
    SameUnbrokered after before := by
  simp only [finalizeWith, bind_ok, Prod.exists] at ok
  obtain ⟨finalized, value, ingested, produced, appended⟩ := ok
  have kept : SameUnbrokered finalized before :=
    only (setBroker before (brokerOf before)) blobs finalized value ingested produced
  exact (appendReceipt_unbrokered codec finalized after request value ingested stored receipt appended).trans kept

theorem commitResult_onlyBroker (codec : Codec) (command : SessionBrokerCommand) (body : SessionBrokerCommit)
    (now : Nat) : (commitResult codec command body now).OnlyBroker := by
  intro before blobs after value stored ok
  simp only [commitResult, bind_ok] at ok
  obtain ⟨preparation, _, ok⟩ := ok
  cases effect : activeEffect before with
  | none =>
    simp only [effect, ok_bind, pure_ok, mk.injEq] at ok
    exact ok.1 ▸ rfl
  | some effect =>
    simp only [effect, steps_ok] at ok
    obtain ⟨_, _, _, _, rfl, _⟩ := ok
    rfl

theorem dispatchResult_onlyBroker (body : SessionBrokerDispatch) (preparation : SessionBrokerPreparation) :
    (dispatchResult command body preparation).OnlyBroker := by
  intro before blobs after value stored ok
  exact (pair_ok ok).1 ▸ rfl

theorem claimResult_onlyBroker (body : SessionBrokerClaim)
    (dispatch : SessionBrokerDispatchPermit) : (claimResult command body dispatch).OnlyBroker := by
  intro before blobs after value stored ok
  exact (pair_ok ok).1 ▸ rfl

theorem confirmResult_onlyBroker (body : SessionBrokerConfirm) (effect : SessionEffect) :
    (confirmResult body effect).OnlyBroker := by
  intro before blobs after value stored ok
  simp only [confirmResult, steps_ok] at ok
  obtain ⟨_, _, rfl, _⟩ := ok
  rfl

theorem settleResult_onlyBroker (codec : Codec) (body : SessionBrokerSettle) :
    (settleResult codec body).OnlyBroker := by
  intro before blobs after value stored ok
  simp only [settleResult, steps_ok] at ok
  obtain ⟨_, _, rfl, _⟩ := ok
  rfl

/-- A candidate of a command, with the outcome that it records. -/
structure Committed (codec : Codec) (state : SessionAggregateState) (context : Option SessionApplyContext)
    (clock : Nat) (submitted : Option AgentCheckpoint) (commandId : String) (commandDigest : Digest)
    (label : Option StoredSessionCommandOutcome) (candidate : SessionAggregateState) : Prop where
  changed : ∃ promotion next, SessionChange codec state context clock submitted label promotion next ∧
    SameRecords candidate (promoteQueuedTurns promotion next)
  receipts : candidate.commandReceipts = state.commandReceipts ++
    (label.map (CommandReceipt.mk commandId commandDigest (state.eventSequence + 1))).toList
  sequence : candidate.eventSequence = state.eventSequence + label.toList.length
  published : Appends state candidate

theorem compactCandidate_compacted (state next : SessionAggregateState) (context : Option SessionApplyContext)
    (delta : Option SessionArchiveDelta) (ok : compactCandidate state context = .ok (next, delta)) :
    Compacted state next (delta.getD emptyArchive) := by
  unfold compactCandidate at ok
  split at ok
  · obtain ⟨rfl, rfl⟩ := pair_ok ok
    exact .kept
  · simp only [bind_ok, Prod.exists] at ok
    obtain ⟨compacted, archive, compact, ok⟩ := ok
    split at ok
    · obtain ⟨rfl, rfl⟩ := pair_ok ok
      exact .kept
    · obtain ⟨rfl, rfl⟩ := pair_ok ok
      exact compactSessionHistory_compacted _ _ _ _ compact

theorem compactBrokerCandidate_compacted (state next : SessionAggregateState) (context : SessionApplyContext)
    (delta : Option SessionArchiveDelta) (ok : compactBrokerCandidate state context = .ok (next, delta)) :
    Compacted state next (delta.getD emptyArchive) := by
  unfold compactBrokerCandidate at ok
  split at ok
  · obtain ⟨rfl, rfl⟩ := pair_ok ok
    exact .kept
  · simp only [steps_ok, Prod.exists] at ok
    obtain ⟨compacted, archive, compact, rfl, rfl⟩ := ok
    exact compactSessionHistory_compacted _ _ _ _ compact

section

variable {codec : Codec} {state : SessionAggregateState} {context : Option SessionApplyContext} {clock : Nat}

/-- Promotion keeps the journals and the broker. -/
theorem promoteQueuedTurns_journals (promotion : Option Nat) (before : SessionAggregateState) :
    (promoteQueuedTurns promotion before).journals = before.journals ∧
      (promoteQueuedTurns promotion before).broker = before.broker := by
  cases promotion with
  | none => exact ⟨rfl, rfl⟩
  | some time =>
    rw [promoteQueuedTurns, promoteTurns_eq]
    exact ⟨rfl, rfl⟩

theorem SameInternal.commandReceipts {first second : SessionAggregateState} (same : SameInternal first second) :
    first.journals.1 = second.journals.1 := by
  have equal : first.internal.journals.1 = second.internal.journals.1 :=
    congrArg (fun state : SessionAggregateState => state.journals.1) same
  exact equal

/-- No change touches the journals or the broker; the receipt is appended afterwards. -/
theorem SessionChange.journals {submitted : Option AgentCheckpoint} {label : Option StoredSessionCommandOutcome}
    {promotion : Option Nat} {next : SessionAggregateState}
    (change : SessionChange codec state context clock submitted label promotion next) :
    next.journals = state.journals ∧ next.broker = state.broker := by
  have consumptions : ∀ {active update consumed effectId}, Consumption state active update consumed effectId →
      consumed.journals = state.journals ∧ consumed.broker = state.broker := by
    intro active update consumed effectId consumption
    cases consumption <;> exact ⟨rfl, rfl⟩
  cases change with
  | admitted turn =>
    unfold admitTurn
    dsimp only
    split <;> exact ⟨rfl, rfl⟩
  | abortFinalized _ _ _ _ _ consumption | stepped _ _ _ _ _ _ _ _ _ consumption
  | finished _ _ _ _ _ _ _ _ _ consumption =>
    obtain ⟨journals, broker⟩ := consumptions consumption
    exact ⟨journals, broker⟩
  | _ => exact ⟨rfl, rfl⟩

/-- A core command records its outcome. -/
theorem coreCandidate_committed (command : CoreCommand) (finalize : Option BrokerFinalize)
    (candidate : CoreCandidate) (valid : ValidEffects state)
    (only : ∀ present ∈ finalize, ∀ before blobs after stored receipt,
      present before blobs = .ok (after, stored, receipt) → SameUnbrokered after before)
    (ok : coreCandidate codec state command context finalize = .ok candidate) :
    ∃ transition, coreTransition codec state command context = .ok transition ∧ candidate.outcome = transition.outcome ∧
      Committed codec state context (command.leaseTime context) command.submitted? command.commandId
        (codec.commandDigest command) (some transition.outcome) candidate.state := by
  simp only [coreCandidate, steps_ok] at ok
  obtain ⟨transition, moved, published, publish, _, ok⟩ := ok
  obtain ⟨next, change, publishes⟩ := coreTransition_refines command valid moved
  have events := publishEvents_publishes publish
  have tail : SameInternal published (promoteQueuedTurns transition.turnPromotionTime next) :=
    events.internal.trans (publishes.internal.promote _)
  -- The receipt and the reconciled broker come after the public events.
  have final : candidate.outcome = transition.outcome ∧ SameUnbrokered candidate.state
      (recordCommandReceipt published command.commandId (codec.commandDigest command) transition.outcome) := by
    cases finalize with
    | none =>
      simp only [pure_ok] at ok
      exact ok ▸ ⟨rfl, rfl⟩
    | some finalize =>
      simp only [steps_ok, Prod.exists] at ok
      obtain ⟨finalized, blobs, receipt, finalizing, rfl⟩ := ok
      have same := only finalize rfl _ _ finalized blobs receipt finalizing
      exact ⟨rfl, same⟩
  obtain ⟨outcome, unbrokered⟩ := final
  have recorded := unbrokered.journals
  have journal : published.journals.1 = state.journals.1 := by
    rw [tail.commandReceipts, (promoteQueuedTurns_journals _ next).1, change.journals.1]
  simp only [SessionAggregateState.journals, recordCommandReceipt, Prod.mk.injEq] at journal recorded
  refine ⟨transition, moved, outcome, ⟨_, next, change, ?_⟩, ?_, ?_, ?_⟩
  · have same : SameRecords candidate.state published := unbrokered.records
    exact same.trans tail.records
  · simp [recorded.1.1, journal]
  · simp [recorded.1.2, journal]
  · have moved : Appends state published :=
      (((Appends.of_journals change.journals.1).trans publishes.events).trans
        (.of_journals (promoteQueuedTurns_journals _ _).1)).trans events.events
    obtain ⟨added, appended, sequences, cursor⟩ := moved
    exact ⟨added, recorded.2.1.trans appended, sequences, recorded.2.2.trans cursor⟩

/-- The journals of a state are those that the command found, up to new public events. -/
structure JournalKept (state before : SessionAggregateState) : Prop where
  journal : before.journals.1 = state.journals.1
  events : Appends state before

theorem JournalKept.of_publishes {before middle : SessionAggregateState} (publishes : Publishes before middle)
    (same : before.journals = state.journals) : JournalKept state middle :=
  ⟨publishes.internal.commandReceipts.trans (congrArg (·.1) same), (Appends.of_journals same).trans publishes.events⟩

/-- The command receipt of a direct operation. -/
def boundaryOutcome (boundary : SessionBrokerBoundary × String) : StoredSessionCommandOutcome :=
  .brokerBoundary boundary.1 boundary.2

theorem brokerCandidate_committed (value : SessionBrokerReceiptValue)
    (blobs : BlobMap) (boundary : Option (SessionBrokerBoundary × String)) (before next : SessionAggregateState)
    (candidate : BrokerCandidate) (ok : brokerCandidate codec before command value blobs boundary = .ok candidate)
    (change : SessionChange codec state context clock none (boundary.map boundaryOutcome) none next)
    (same : SameRecords before next) (kept : JournalKept state before) :
    Committed codec state context clock none command.commandId (brokerRequestDigest codec command.request)
      (boundary.map boundaryOutcome) candidate.state := by
  simp only [brokerCandidate, steps_ok, Prod.exists] at ok
  obtain ⟨appended, stored, receipt, append, rfl⟩ := ok
  have unbrokered := appendReceipt_unbrokered codec before appended _ _ _ _ _ append
  have same : SameRecords appended next := unbrokered.records.trans same
  have journal := kept.journal
  have recorded := unbrokered.journals
  obtain ⟨added, events, sequences, cursor⟩ := kept.events
  simp only [SessionAggregateState.journals, Prod.mk.injEq] at recorded journal
  have published : Appends state appended :=
    ⟨added, recorded.2.1.trans events, sequences, recorded.2.2.trans cursor⟩
  cases boundary with
  | none =>
    refine ⟨⟨none, next, change, same⟩, ?_, ?_, published⟩
    · simp [reconcileSessionBrokerState, recorded, journal]
    · simp [reconcileSessionBrokerState, recorded, journal]
  | some boundary =>
    refine ⟨⟨none, next, change, same⟩, ?_, ?_, published⟩
    · simp [reconcileSessionBrokerState, recordCommandReceipt, recorded, journal, boundaryOutcome]
    · simp [reconcileSessionBrokerState, recordCommandReceipt, recorded, journal]

theorem assertLive_ok_iff (now : Nat) (turn : ActiveTurn) : assertLive state now = .ok turn ↔
      state.activeTurn = some turn ∧ now < turn.leaseExpiresAt ∧ turn.abortRequested = false := by
  simp only [assertLive, steps_ok, sessionErrorIf_ok, not_le, Bool.not_eq_true]
  constructor
  · rintro ⟨_, present, live, running, rfl⟩
    exact ⟨present, live, running⟩
  · rintro ⟨present, live, running⟩
    exact ⟨turn, present, live, running, rfl⟩

theorem assertNoStart_ok_iff (effect : SessionEffect) (result : Unit) :
    assertNoStart effect = .ok result ↔ effect.hasStart = false := by
  simp [assertNoStart]

/-- The key of an operation names the active effect. -/
theorem assertKey_active (key : SessionBrokerEffectKey) (effect : SessionEffect) (active : ActiveTurn)
    (ok : assertKey state key = .ok effect) (present : state.activeTurn = some active) :
    ActiveEffect state active effect ∧ effectKey effect.toEffectClaim = key := by
  simp only [assertKey, require_ok, filter_eq_some_iff, decide_eq_true_eq] at ok
  obtain ⟨active_eq, named⟩ := ok
  simp only [activeEffect, present, bind_eq_bind, bind_some, bind_eq_some_iff] at active_eq
  obtain ⟨effectId, effect_eq, found⟩ := active_eq
  have same : effect.effectId = effectId := by simpa using find?_some found
  subst same
  exact ⟨⟨present, effect_eq, found⟩, named⟩

/-- The boundary that a direct operation records. -/
def SessionBrokerMutation.boundary? : SessionBrokerMutation → Option (SessionBrokerBoundary × String)
  | .prepareRetry body => some (.retry, body.key.effectId)
  | .block body => some (.block, body.key.effectId)
  | .settleRecovery body => some (.recoverySettlement, body.key.effectId)
  | _ => none

/-- The checkpoint on the wire that a broker operation carries. -/
def SessionBrokerMutation.submitted? : SessionBrokerMutation → Option AgentCheckpoint
  | .commitStep body => some body.step.committed
  | _ => none

theorem acquireStep_committed (body : SessionBrokerAcquire) (now : Nat)
    (candidate : BrokerCandidate) (ok : acquireStep codec state command body now = .ok candidate) :
    Committed codec state context clock none command.commandId (brokerRequestDigest codec command.request) none
      candidate.state := by
  simp only [acquireStep, steps_ok, Prod.exists, assertLive_ok_iff] at ok
  obtain ⟨turn, ⟨present, _, live⟩, _, _, _, _, _, _, _, _, _, _, _, _, _, committed⟩ := ok
  exact brokerCandidate_committed command _ _ none _ state candidate committed
    (.granted turn present live) rfl (.of_publishes (.refl _) rfl)

theorem prepareRetry_committed (body : SessionBrokerRetry) (now : Nat)
    (candidate : BrokerCandidate) (ok : prepareRetry codec state command body now = .ok candidate) :
    Committed codec state context clock none command.commandId (brokerRequestDigest codec command.request)
      (some (.brokerBoundary .retry body.key.effectId)) candidate.state := by
  simp only [prepareRetry, steps_ok, assertLive_ok_iff, assertNoStart_ok_iff] at ok
  obtain ⟨active, ⟨present, _, live⟩, effect, keyed, unstarted, _, _, _, _, _, _, committed⟩ := ok
  obtain ⟨effectActive, named⟩ := assertKey_active _ effect active keyed present
  rw [← named] at committed ⊢
  exact brokerCandidate_committed command _ _ (some (.retry, effect.effectId)) _ state candidate
    committed (.reserved active effect effectActive live unstarted) rfl (.of_publishes (.refl _) rfl)

theorem blockOperation_committed (body : SessionBrokerBlock)
    (candidate : BrokerCandidate) (ok : blockOperation codec state command body = .ok candidate) :
    Committed codec state context clock none command.commandId (brokerRequestDigest codec command.request)
      (some (.brokerBoundary .block body.key.effectId)) candidate.state := by
  simp only [blockOperation, steps_ok, assertNoStart_ok_iff, sessionErrorIf_ok, not_or] at ok
  obtain ⟨effect, keyed, unstarted, ⟨phase, _⟩, active, present, published, publish, committed⟩ := ok
  obtain ⟨effectActive, named⟩ := assertKey_active _ effect active keyed present
  rw [← named] at committed ⊢
  have publishes := appendBrokerPublicEvent_publishes publish
  exact brokerCandidate_committed command _ _ (some (.block, effect.effectId)) published _ candidate
    committed (.blocked active effect effectActive phase unstarted _ rfl) publishes.internal.records
    (.of_publishes publishes rfl)

/-- Recovery settles an effect that is not settled yet. -/
theorem assertRecoverable_unsettled (turn : ActiveTurn) (effect : SessionEffect) (kind : SessionBrokerRecoveryKind)
    (ok : assertRecoverable turn effect kind = .ok ()) : effect.phase ≠ .settled := by
  simp only [assertRecoverable, steps_ok, sessionErrorIf_ok] at ok
  intro settled
  simp [settled] at ok

theorem settleRecovery_committed (body : SessionBrokerRecoverySettlement)
    (candidate : BrokerCandidate) (ok : settleRecovery codec state command body = .ok candidate) :
    Committed codec state context clock none command.commandId (brokerRequestDigest codec command.request)
      (some (.brokerBoundary .recoverySettlement body.key.effectId)) candidate.state := by
  simp only [settleRecovery, steps_ok, Prod.exists] at ok
  obtain ⟨effect, keyed, active, present, recoverable, published, publish, _, _, _, committed⟩ := ok
  obtain ⟨effectActive, named⟩ := assertKey_active _ effect active keyed present
  rw [← named] at committed ⊢
  have unsettled := assertRecoverable_unsettled active effect body.kind recoverable
  have publishes := appendBrokerPublicEvent_publishes publish
  -- Only a blocked effect had stopped its turn.
  by_cases blocked : effect.phase = .blocked
  · rw [if_pos blocked] at publishes
    exact brokerCandidate_committed command _ _ (some (.recoverySettlement, effect.effectId)) published _ candidate
      committed (.settled active effect effectActive unsettled (recoverySettlement body) _ rfl .active .running)
      publishes.internal.records (.of_publishes publishes rfl)
  · rw [if_neg blocked, updateEffect_eq_moveEffect _ _ active effectActive.present] at publishes
    exact brokerCandidate_committed command _ _ (some (.recoverySettlement, effect.effectId)) published _ candidate
      committed (.settled active effect effectActive unsettled (recoverySettlement body) _ rfl active.status state.status)
      publishes.internal.records (.of_publishes publishes rfl)

/-- A direct operation records its boundary. -/
theorem brokerTransition_direct (now : Nat) (candidate : BrokerCandidate)
    (ok : brokerTransition codec state command now = .ok (.direct candidate)) :
    Committed codec state context clock command.request.submitted? command.commandId
      (brokerRequestDigest codec command.request) (command.request.boundary?.map boundaryOutcome) candidate.state := by
  unfold brokerTransition at ok
  split at ok <;> simp only [map_ok_iff, BrokerTransition.direct.injEq, reduceCtorEq, and_false,
    exists_false, exists_eq_right] at ok
  all_goals rename_i request
  all_goals rw [congrArg SessionBrokerMutation.boundary? request, congrArg SessionBrokerMutation.submitted? request]
  · exact acquireStep_committed command _ now candidate ok
  · exact prepareRetry_committed command _ now candidate ok
  · exact blockOperation_committed command _ candidate ok
  · exact settleRecovery_committed command _ candidate ok

/-- A dispatch spends the live preparation of the active effect. -/
theorem dispatchOperation_ok (body : SessionBrokerDispatch) (now : Nat) (core : CoreCommand) (result : BrokerResult)
    (ok : dispatchOperation state command body now = .ok (core, result)) :
    ∃ turn effect preparation, assertLive state now = .ok turn ∧ assertKey state body.key = .ok effect ∧
      ((brokerOf state).preparation = some preparation ∧ PreparationLive state preparation body now) ∧
      (preparation.retry = true → effect.hasStart = false) ∧
      core = dispatchCommand state command body effect preparation.retry now ∧
      result = dispatchResult command body preparation := by
  simp only [dispatchOperation, steps_ok, filter_eq_some_iff, decide_eq_true_eq] at ok
  obtain ⟨turn, live, effect, keyed, preparation, prepared, ok⟩ := ok
  refine ⟨turn, effect, preparation, live, keyed, prepared, ?_⟩
  split at ok
  · simp only [steps_ok, assertNoStart_ok_iff] at ok
    obtain ⟨unstarted, rfl, rfl⟩ := ok
    exact ⟨fun _ => unstarted, rfl, rfl⟩
  · next initial =>
      simp only [ok_bind] at ok
      obtain ⟨rfl, rfl⟩ := pair_ok ok
      exact ⟨fun retry => absurd retry initial, rfl, rfl⟩

/-- The turn that a command asks to admit. -/
def CoreCommand.enqueued? : CoreCommand → Option String
  | .enqueueTurn command => some command.turnId
  | _ => none

/-- A routed operation admits no turn, and the result that it adds changes only the broker. -/
theorem brokerTransition_routed (now : Nat) (core : CoreCommand)
    (result : BrokerResult) (ok : brokerTransition codec state command now = .ok (.routed core result)) :
    (core.commandId = command.commandId ∧ core.enqueued? = none) ∧ core.submitted? = command.request.submitted? ∧
      result.OnlyBroker := by
  unfold brokerTransition at ok
  split at ok <;> simp only [map_ok_iff, BrokerTransition.routed.injEq, reduceCtorEq, and_false,
    exists_false, Prod.exists] at ok
  all_goals rename_i request
  all_goals rw [congrArg SessionBrokerMutation.submitted? request]
  all_goals obtain ⟨_, _, operation, rfl, rfl⟩ := ok
  · simp only [commitStep, steps_ok] at operation
    obtain ⟨_, _, _, _, _, _, _, _, rfl, rfl⟩ := operation
    exact ⟨⟨rfl, rfl⟩, rfl, commitResult_onlyBroker codec command _ now⟩
  · obtain ⟨_, effect, preparation, _, _, _, _, rfl, rfl⟩ := dispatchOperation_ok command _ now _ _ operation
    rw [← and_assoc]
    refine ⟨?_, dispatchResult_onlyBroker command _ _⟩
    unfold dispatchCommand
    split_ifs <;> exact ⟨⟨rfl, rfl⟩, rfl⟩
  · simp only [claimStart, steps_ok] at operation
    obtain ⟨_, _, _, _, _, _, _, _, rfl, rfl⟩ := operation
    exact ⟨⟨rfl, rfl⟩, rfl, claimResult_onlyBroker command _ _⟩
  · simp only [confirmOperation, steps_ok] at operation
    obtain ⟨_, _, _, rfl, rfl⟩ := operation
    exact ⟨⟨rfl, rfl⟩, rfl, confirmResult_onlyBroker _ _⟩
  · simp only [settleOperation, steps_ok] at operation
    obtain ⟨_, _, _, _, _, rfl, rfl⟩ := operation
    exact ⟨⟨rfl, rfl⟩, rfl, settleResult_onlyBroker codec _⟩

/-- A core command that is no replay passes the gate and moves the state. -/
structure CoreAccepted (codec : Codec) (state : SessionAggregateState) (context : Option SessionApplyContext)
    (command : CoreCommand) (transition : Transition) : Prop where
  unreplayed : coreReplay codec state command (SessionApplyContext.witness? context) = .ok none
  gated : coreGate state command = .ok ()
  moved : coreTransition codec state command context = .ok transition

/-- A broker command that is no replay has a current snapshot. -/
structure BrokerAccepted (codec : Codec) (state : SessionAggregateState) (context : SessionApplyContext)
    (command : SessionBrokerCommand) (transition : BrokerTransition) : Prop where
  unreplayed : brokerReplay codec state command.request context.history = .ok none
  reserved : assertReservation codec state command context.transactionTime = .ok ()
  moved : brokerTransition codec state command context.transactionTime = .ok transition

/-- The digest and the outcome that an accepted command records. -/
inductive Recorded (codec : Codec) (state : SessionAggregateState) (context : Option SessionApplyContext) :
    SessionCommand → Digest → Option StoredSessionCommandOutcome → Prop where
  | core (command : CoreCommand) (transition : Transition) (ok : CoreAccepted codec state context command transition) :
      Recorded codec state context (.core command) (codec.commandDigest command) (some transition.outcome)
  | routed (command : SessionBrokerCommand) (present : SessionApplyContext) (trusted : context = some present)
      (core : CoreCommand) (result : BrokerResult)
      (broker : BrokerAccepted codec state present command (.routed core result)) (transition : Transition)
      (ok : CoreAccepted codec state context core transition) :
      Recorded codec state context (.broker command) (codec.commandDigest core) (some transition.outcome)
  | direct (command : SessionBrokerCommand) (present : SessionApplyContext) (trusted : context = some present)
      (candidate : BrokerCandidate)
      (broker : BrokerAccepted codec state present command (.direct candidate)) :
      Recorded codec state context (.broker command) (brokerRequestDigest codec command.request)
        (command.request.boundary?.map boundaryOutcome)

/-- The outcome that an accepted command repeats. -/
inductive Replayed (codec : Codec) (state : SessionAggregateState) (context : Option SessionApplyContext) :
    SessionCommand → Digest → StoredSessionCommandOutcome → Prop where
  | core (command : CoreCommand) (outcome : StoredSessionCommandOutcome)
      (replay : coreReplay codec state command (SessionApplyContext.witness? context) = .ok (some outcome)) :
      Replayed codec state context (.core command) (codec.commandDigest command) outcome
  | broker (command : SessionBrokerCommand) (present : SessionApplyContext) (trusted : context = some present)
      (original : SessionBrokerStoredReceipt)
      (replay : brokerReplay codec state command.request present.history = .ok (some original)) :
      Replayed codec state context (.broker command) (brokerRequestDigest codec command.request)
        (.brokerResult original (command.request.kindForOperation = .claim))

def SessionCommand.commandId : SessionCommand → String
  | .core command => command.commandId
  | .broker command => command.commandId

def SessionCommand.submitted? : SessionCommand → Option AgentCheckpoint
  | .core command => command.submitted?
  | .broker command => command.request.submitted?

/-- A core command returns what it records, a broker command returns its own receipt. -/
def SessionCommand.Returns (command : SessionCommand) (label : Option StoredSessionCommandOutcome)
    (outcome : StoredSessionCommandOutcome) : Prop :=
  match command with
  | .core _ => label = some outcome
  | .broker _ => ∃ receipt, outcome = .brokerResult receipt false

def SessionCommand.leaseTime (context : Option SessionApplyContext) : SessionCommand → Nat
  | .core command => command.leaseTime context
  | .broker _ => verificationTime context 0

/-- The new state of an application that is no replay. -/
structure Advanced (codec : Codec) (state : SessionAggregateState) (command : SessionCommand)
    (context : Option SessionApplyContext) (digest : Digest) (label : Option StoredSessionCommandOutcome)
    (result : ApplySessionCommandResult) : Prop where
  new : result.replayed = false
  recorded : Recorded codec state context command digest label
  returned : command.Returns label result.outcome
  moved : ∃ candidate, Committed codec state context (command.leaseTime context) command.submitted? command.commandId
      digest label candidate ∧ Compacted candidate result.state (result.archiveDelta.getD emptyArchive)
  valid : validateSessionState codec result.state = .ok ()

/-- An accepted application repeats an earlier outcome or advances the session. -/
inductive Applied (codec : Codec) (state : SessionAggregateState) (command : SessionCommand)
    (context : Option SessionApplyContext) : ApplySessionCommandResult → Prop where
  | replayed (digest : Digest) (outcome : StoredSessionCommandOutcome)
      (repeated : Replayed codec state context command digest outcome) :
      Applied codec state command context (replayResult state outcome digest)
  | advanced (digest : Digest) (label : Option StoredSessionCommandOutcome) (result : ApplySessionCommandResult)
      (advance : Advanced codec state command context digest label result) :
      Applied codec state command context result

theorem commitCandidate_ok (candidate : CoreCandidate) (digest : Digest) (result : ApplySessionCommandResult)
    (ok : commitCandidate codec state candidate digest context = .ok result) :
    (result.replayed = false ∧ result.outcome = candidate.outcome) ∧
      Compacted candidate.state result.state (result.archiveDelta.getD emptyArchive) ∧
      validateSessionState codec result.state = .ok () := by
  simp only [commitCandidate, steps_ok, Prod.exists] at ok
  obtain ⟨next, delta, compact, valid, _, _, _, rfl⟩ := ok
  exact ⟨⟨rfl, rfl⟩, compactCandidate_compacted _ _ _ _ compact, valid⟩

theorem finish_ok (candidate : BrokerCandidate) (digest : Digest) (present : SessionApplyContext)
    (result : ApplySessionCommandResult) (ok : finish codec state candidate digest present = .ok result) :
    (result.replayed = false ∧ result.outcome = .brokerResult candidate.receipt false) ∧
      Compacted candidate.state result.state (result.archiveDelta.getD emptyArchive) ∧
      validateSessionState codec result.state = .ok () := by
  simp only [finish, steps_ok, Prod.exists] at ok
  obtain ⟨next, delta, compact, valid, _, rfl⟩ := ok
  exact ⟨⟨rfl, rfl⟩, compactBrokerCandidate_compacted _ _ _ _ compact, valid⟩

/-- A core command is replayed or committed. -/
theorem applySessionCoreCommand_ok (command : CoreCommand) (finalize : Option BrokerFinalize)
    (result : ApplySessionCommandResult) (receipt : Option SessionBrokerStoredReceipt)
    (ok : applySessionCoreCommand codec state command context finalize = .ok (result, receipt)) :
    validateSessionState codec state = .ok () ∧
      ((∃ outcome, coreReplay codec state command (SessionApplyContext.witness? context) = .ok (some outcome) ∧
        result = replayResult state outcome (codec.commandDigest command) ∧ receipt = none) ∨
      ∃ candidate, coreReplay codec state command (SessionApplyContext.witness? context) = .ok none ∧
        coreGate state command = .ok () ∧
        coreCandidate codec state command context finalize = .ok candidate ∧
        commitCandidate codec state candidate (codec.commandDigest command) context = .ok result) := by
  simp only [applySessionCoreCommand, validateCoreCommand, steps_ok] at ok
  obtain ⟨⟨valid, _⟩, replay, replayed, ok⟩ := ok
  refine ⟨valid, ?_⟩
  cases replay with
  | some outcome =>
    obtain ⟨rfl, rfl⟩ := pair_ok ok
    exact .inl ⟨outcome, replayed, rfl, rfl⟩
  | none =>
    simp only [steps_ok] at ok
    obtain ⟨gate, candidate, produced, _, committed, rfl, rfl⟩ := ok
    exact .inr ⟨candidate, replayed, gate, produced, committed⟩

/-- A committed core command advances the session by its own transition. -/
theorem coreCandidate_advances (command : CoreCommand) (finalize : Option BrokerFinalize)
    (candidate : CoreCandidate) (result : ApplySessionCommandResult) (valid : ValidEffects state)
    (only : ∀ present ∈ finalize, ∀ before blobs after stored receipt,
      present before blobs = .ok (after, stored, receipt) → SameUnbrokered after before)
    (replay : coreReplay codec state command (SessionApplyContext.witness? context) = .ok none)
    (gate : coreGate state command = .ok ())
    (produced : coreCandidate codec state command context finalize = .ok candidate)
    (committed : commitCandidate codec state candidate (codec.commandDigest command) context = .ok result) :
    ∃ transition, CoreAccepted codec state context command transition ∧ result.replayed = false ∧
      result.outcome = transition.outcome ∧
      (∃ next, Committed codec state context (command.leaseTime context) command.submitted? command.commandId
          (codec.commandDigest command) (some transition.outcome) next ∧
        Compacted next result.state (result.archiveDelta.getD emptyArchive)) ∧
      validateSessionState codec result.state = .ok () := by
  obtain ⟨transition, moved, outcome, change⟩ :=
    coreCandidate_committed command finalize candidate valid only produced
  obtain ⟨⟨new, returned⟩, compacted, valid⟩ := commitCandidate_ok candidate _ result committed
  exact ⟨transition, ⟨replay, gate, moved⟩, new, returned.trans outcome, ⟨_, change, compacted⟩, valid⟩

/-- What an accepted application does to a session. -/
theorem applySessionCommand_applied (command : SessionCommand) (result : ApplySessionCommandResult)
    (ok : applySessionCommand codec state command context = .ok result) :
    validateSessionState codec state = .ok () ∧ Applied codec state command context result := by
  cases command with
  | core command =>
    simp only [applySessionCommand, steps_ok, Prod.exists] at ok
    obtain ⟨_, receipt, applied, rfl⟩ := ok
    obtain ⟨valid, ⟨outcome, replay, rfl, _⟩ | ⟨candidate, replay, gate, produced, committed⟩⟩ :=
      applySessionCoreCommand_ok command none _ receipt applied
    · exact ⟨valid, .replayed _ outcome (.core command outcome replay)⟩
    · obtain ⟨transition, core, new, outcome, moved, after⟩ := coreCandidate_advances command none candidate _
        (validateSessionState_effects valid) (by simp) replay gate produced committed
      exact ⟨valid, .advanced _ _ _ ⟨new, .core command transition core, congrArg some outcome.symm, moved, after⟩⟩
  | broker command =>
    simp only [applySessionCommand, applySessionBrokerCommand, validateBrokerCommand, steps_ok] at ok
    obtain ⟨present, ⟨valid, _, _, _, trusted, _, _, rfl⟩, replay, replayed, ok⟩ := ok
    refine ⟨valid, ?_⟩
    cases replay with
    | some original =>
      obtain rfl := (pure_ok ..).mp ok
      exact .replayed _ _ (.broker command _ trusted original replayed)
    | none =>
      simp only [steps_ok] at ok
      obtain ⟨reserved, transition, moved, ok⟩ := ok
      cases transition with
      | direct candidate =>
        obtain ⟨⟨new, outcome⟩, compacted, after⟩ := finish_ok candidate _ _ result ok
        exact .advanced _ _ _ ⟨new, .direct command _ trusted candidate ⟨replayed, reserved, moved⟩,
          ⟨_, outcome⟩, ⟨_, brokerTransition_direct command _ candidate moved, compacted⟩, after⟩
      | routed core added =>
        simp only [applyBrokerTransition, steps_ok, Prod.exists] at ok
        obtain ⟨applied, _, application, receipt, rfl, rfl⟩ := ok
        obtain ⟨⟨identity, -⟩, checkpoint, only⟩ := brokerTransition_routed command _ core added moved
        obtain ⟨_, ⟨_, _, _, absent⟩ | ⟨candidate, replay, gate, produced, committed⟩⟩ :=
          applySessionCoreCommand_ok core _ applied (some receipt) application
        · cases absent
        · obtain ⟨transition, ok, new, _, change, after⟩ := coreCandidate_advances core _ candidate
            applied (validateSessionState_effects valid) (fun _ member => Option.mem_some.mp member ▸
              fun before blobs finalized stored receipt =>
              finalizeWith_unbrokered codec command.request added only before finalized blobs stored receipt)
            (trusted ▸ replay) gate (trusted ▸ produced) (trusted ▸ committed)
          have time : core.leaseTime context = verificationTime context 0 := by
            rw [trusted]
            cases core <;> rfl
          rw [identity, checkpoint, time] at change
          exact .advanced _ _ _ ⟨new, .routed command _ trusted core added ⟨replayed, reserved, moved⟩
            transition ok, ⟨receipt, rfl⟩, change, after⟩

end

end Circulusd.Session
