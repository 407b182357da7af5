import Circulusd.Session.Validate

/-
The lookups in the archive and the compaction that moves records into it.
-/

namespace Circulusd.Session

open Protocol

variable (state : SessionAggregateState) (remaining : Nat) (plan : CompactionPlan)

/-- A null answer proves absence; missing evidence never does once a prefix is archived. -/
def historyWitness {κ α : Type} [DecidableEq κ] (state : SessionAggregateState)
    (entry : Option (κ × Option α)) (expectedKey : κ) (keyField : String) : Checked (Option α) :=
  match entry with
  | none => do
    sessionErrorIf (state.history ≠ none) .failedPrecondition ("missing authenticated history lookup for " ++ keyField)
    return none
  | some (key, value) => do
    sessionErrorIf (key ≠ expectedKey) .failedPrecondition ("history lookup is not bound to " ++ keyField)
    return value

/-- The hot record is used when there is one; otherwise the answered lookup is. -/
def hotOrArchived {κ α : Type} [DecidableEq κ] (state : SessionAggregateState) (hot : Option α)
    (entry : Option (κ × Option α)) (expectedKey : κ) (keyField : String) : Checked (Option α) :=
  match hot with
  | some record => .ok (some record)
  | none => historyWitness state entry expectedKey keyField

def SessionApplyContext.witness? (context : Option SessionApplyContext) : Option SessionHistoryWitness :=
  context.bind (·.history)

/-- The supplied pair of tenant and actor must be complete. -/
def PublicTurnAdmission.ScopeValid (codec : Codec) (admission : PublicTurnAdmission) : Prop :=
  (admission.tenantId = none ∧ admission.actorSubjectId = none) ∨
    ((∃ tenant ∈ admission.tenantId, codec.IsIdentifier tenant) ∧
      ∃ actor ∈ admission.actorSubjectId, codec.IsIdentifier actor)
deriving Decidable

def validatePublicAdmissionAuthority (codec : Codec) (state : SessionAggregateState)
    (admission : PublicTurnAdmission) : Checked Unit := do
  sessionErrorIf (¬ admission.ScopeValid codec) .invalidArgument
    "public admission tenant and actor must be supplied together"
  sessionErrorIf ((∃ tenant ∈ admission.tenantId, tenant ≠ state.tenantId) ∨
      ∃ actor ∈ admission.actorSubjectId, actor ≠ state.userId)
    .permissionDenied "public turn admission authority belongs to another principal"
  sessionErrorIf (¬ IsSafeInteger 0 admission.authorizationGeneration) .invalidArgument
    "public admission authorization generation is invalid"
  sessionErrorIf (admission.authorizationGeneration ≠ state.authorizationGeneration) .staleGeneration
    "public turn admission authority is stale"

/-- The pointer after the runtime outcomes of the archived receipts. -/
def advancePointerStep (pointer : RuntimePointer) (receipt : CommandReceipt) : RuntimePointer :=
  match receipt.outcome with
  | .runtimeRevisionStaged _ candidate _ => { pointer with candidateRevision := some candidate }
  | .runtimeCandidateDiscarded .. => { pointer with candidateRevision := none }
  | .runtimeRevisionActivated active previous switchGeneration _ _ =>
    ⟨active, none, some previous, switchGeneration⟩
  | .runtimeRevisionRolledBack active previous switchGeneration _ =>
    ⟨active, none, some previous, switchGeneration⟩
  | _ => pointer

def advancePointer (pointer : RuntimePointer) (receipts : List CommandReceipt) : RuntimePointer :=
  receipts.foldl advancePointerStep pointer

def StoredSessionCommandOutcome.stagedFrom? : StoredSessionCommandOutcome → Option Digest
  | .runtimeRevisionStaged active _ _ => some active
  | _ => none

def initialHistory : SessionHistoryState where
  commandThrough := 0
  publicEventThrough := 0
  turnThrough := 0
  runtimePointerAtCommandThrough :=
    ⟨(state.commandReceipts.findSome? (·.outcome.stagedFrom?)).getD state.runtimeRevisionDigest, none, none, 1⟩
  latestSettledTurnAtTurnThrough := none
  publicEventAnchors := []
  dispatchStartReceipts := []
  runtimeRevisionDigests := []

def SessionEffect.consumed (effect : SessionEffect) : Bool := !effect.unconsumed

/-- The length of the shortest prefix that holds every entry with the property. -/
def lastIndexBound {α : Type} (property : α → Bool) (entries : List α) : Nat :=
  entries.length - (entries.reverse.takeWhile (fun entry => !property entry)).length

/-- The terminal turns beyond the hot window. -/
def pressuredTurnIds : List String :=
  (state.terminalTurns.take (state.terminalTurns.length - sessionHistoryHotTerminalTurns)).map (·.turnId)

def pressuredEffectIds : List String :=
  ((state.effects.zipIdx.filter (fun (effect, index) =>
    effect.consumed && (index + sessionHistoryHotEffects < state.effects.length ||
        (pressuredTurnIds state).contains effect.turnId))).map (·.1)).map (·.effectId)

/-- The number of command receipts that one batch archives. -/
def archivedCommandCount : Nat :=
  min remaining (max (state.commandReceipts.length - sessionHistoryHotCommands)
    (lastIndexBound (fun receipt : CommandReceipt =>
      receipt.outcome.claimedEffectId?.any (pressuredEffectIds state).contains) state.commandReceipts))

def archivedBrokerReceiptCount : Nat :=
  min remaining ((state.broker.map (·.receipts.length)).getD 0 - sessionBrokerHotReceipts)

def SessionPublicEvent.pinned (event : SessionPublicEvent) (turnIds effectIds : List String) : Bool :=
  turnIds.contains event.turnId || event.body.effect?.any (fun effect => effectIds.contains effect.effectId)

def archivedEventCount : Nat :=
  min remaining (max (state.publicEvents.length - sessionHistoryHotPublicEvents)
    (lastIndexBound (·.pinned (pressuredTurnIds state) (pressuredEffectIds state)) state.publicEvents))

/-- The result of one pass over a collection: kept entries, archived entries, budget left. -/
structure ArchivePass (α : Type) where
  kept : List α
  archived : List α
  remaining : Nat

/-- The hot count shrinks as the loop archives effects. -/
def archiveEffects (mayLeave : SessionEffect → Bool) (pressured : List String) :
    Nat → Nat → List SessionEffect → ArchivePass SessionEffect
  | _, remaining, [] => ⟨[], [], remaining⟩
  | hotCount, remaining, effect :: rest =>
    if 0 < remaining ∧ (sessionHistoryHotEffects < hotCount ∨ effect.turnId ∈ pressured) ∧ mayLeave effect = true then
      let pass := archiveEffects mayLeave pressured (hotCount - 1) (remaining - 1) rest
      { pass with archived := effect :: pass.archived }
    else
      let pass := archiveEffects mayLeave pressured hotCount remaining rest
      { pass with kept := effect :: pass.kept }

/-- The records that leave together with a terminal turn. -/
def archiveTurnCost (admissions : List TurnAdmissionReceipt) (turn : TerminalTurn) : Nat :=
  if admissions.any (·.turnId = turn.turnId) then 3 else 2

/-- Terminal turns leave in order until one is still referenced or the budget is spent. -/
def archiveTurns (admissions : List TurnAdmissionReceipt) (mayLeave : TerminalTurn → Bool) :
    Nat → List TerminalTurn → ArchivePass TerminalTurn
  | remaining, [] => ⟨[], [], remaining⟩
  | remaining, turn :: rest =>
    if sessionHistoryHotTerminalTurns ≤ rest.length ∧ archiveTurnCost admissions turn ≤ remaining ∧
        mayLeave turn = true then
      let pass := archiveTurns admissions mayLeave (remaining - archiveTurnCost admissions turn) rest
      { pass with archived := turn :: pass.archived }
    else ⟨turn :: rest, [], remaining⟩

/-- Only the first anchor of each key is kept. -/
def dedupeAnchors : List (SessionPublicEventType × String) → List SessionPublicEvent → List SessionPublicEvent
  | _, [] => []
  | keys, event :: rest =>
    if event.key ∈ keys then dedupeAnchors keys rest
    else event :: dedupeAnchors (event.key :: keys) rest

def emptyArchive : SessionArchiveDelta := ⟨[], [], [], [], [], [], []⟩

def SessionArchiveDelta.isEmpty (delta : SessionArchiveDelta) : Bool :=
  delta.commandReceipts.isEmpty && delta.publicEvents.isEmpty && delta.terminalTurns.isEmpty &&
    delta.effects.isEmpty && delta.turnAdmissionReceipts.isEmpty && delta.turnIdentities.isEmpty &&
    delta.brokerReceipts.isEmpty

/-- An effect may leave once it is consumed and no hot event or start receipt names it. -/
def effectMayLeave (events : List SessionPublicEvent) (receipts : List CommandReceipt)
    (effect : SessionEffect) : Bool :=
  effect.consumed &&
    !events.any (fun event => event.body.effect?.any (fun identity => identity.effectId = effect.effectId)) &&
    !receipts.any (fun receipt => receipt.outcome.claimedEffectId? = some effect.effectId)

def turnMayLeave (events : List SessionPublicEvent) (effects : List SessionEffect) (turn : TerminalTurn) :
    Bool :=
  !effects.any (·.turnId = turn.turnId) && !events.any (·.turnId = turn.turnId)

/-- The counts and passes of one compaction batch. -/
structure CompactionPlan where
  commands : Nat
  brokerReceipts : Nat
  events : Nat
  effects : ArchivePass SessionEffect
  turns : ArchivePass TerminalTurn

def planCompaction (maxRecords : Nat) : CompactionPlan :=
  let commands := archivedCommandCount state maxRecords
  let brokerReceipts := archivedBrokerReceiptCount state (maxRecords - commands)
  let events := archivedEventCount state (maxRecords - commands - brokerReceipts)
  let hotReceipts := state.commandReceipts.drop commands
  let hotEvents := state.publicEvents.drop events
  let effects := archiveEffects (effectMayLeave hotEvents hotReceipts) (pressuredTurnIds state)
    state.effects.length (maxRecords - commands - brokerReceipts - events) state.effects
  { commands := commands
    brokerReceipts := brokerReceipts
    events := events
    effects := effects
    turns := archiveTurns state.turnAdmissionReceipts (turnMayLeave hotEvents effects.kept)
      effects.remaining state.terminalTurns }

/-- Each public turn has one admission receipt, which leaves together with the turn. -/
def compactionArchive : SessionArchiveDelta where
  commandReceipts := state.commandReceipts.take plan.commands
  publicEvents := state.publicEvents.take plan.events
  terminalTurns := plan.turns.archived
  effects := plan.effects.archived
  turnAdmissionReceipts := plan.turns.archived.filterMap (fun turn =>
    state.turnAdmissionReceipts.find? (·.turnId = turn.turnId))
  turnIdentities := plan.turns.archived.map (fun turn => ⟨turn.turnId, turn.sequence⟩)
  brokerReceipts := (state.broker.map (·.receipts.take plan.brokerReceipts)).getD []

def SessionPublicEvent.hot (event : SessionPublicEvent) (turnIds effectIds : List String) : Bool :=
  turnIds.contains event.turnId && event.body.effect?.all (fun effect => effectIds.contains effect.effectId)

/-- Only evidence that hot records still reference survives in the anchors. -/
def compactedHistory : SessionHistoryState :=
  let history := state.history.getD (initialHistory state)
  let archive := compactionArchive state plan
  let hotTurnIds := state.knownTurnIds.drop plan.turns.archived.length
  let hotEffectIds := plan.effects.kept.map (·.effectId)
  { commandThrough := history.commandThrough + plan.commands
    publicEventThrough := history.publicEventThrough + plan.events
    turnThrough := history.turnThrough + plan.turns.archived.length
    runtimePointerAtCommandThrough :=
      advancePointer history.runtimePointerAtCommandThrough archive.commandReceipts
    latestSettledTurnAtTurnThrough :=
      match plan.turns.archived.getLast? with
      | some turn => some turn.turnId
      | none => history.latestSettledTurnAtTurnThrough
    publicEventAnchors := dedupeAnchors []
      ((history.publicEventAnchors ++ archive.publicEvents).filter (·.hot hotTurnIds hotEffectIds))
    dispatchStartReceipts := (history.dispatchStartReceipts ++ archive.commandReceipts).filter
      (fun receipt => receipt.outcome.claimedEffectId?.any hotEffectIds.contains)
    runtimeRevisionDigests :=
      (plan.turns.kept.map (·.finalCheckpoint.metadata.runtimeRevisionDigest)).eraseDups }

def compactedState : SessionAggregateState :=
  { state with
    commandReceipts := state.commandReceipts.drop plan.commands
    publicEvents := state.publicEvents.drop plan.events
    effects := plan.effects.kept
    terminalTurns := plan.turns.kept
    knownTurnIds := state.knownTurnIds.drop plan.turns.archived.length
    turnAdmissionReceipts := state.turnAdmissionReceipts.filter (fun receipt =>
      !plan.turns.archived.any (·.turnId = receipt.turnId))
    history := some (compactedHistory state plan)
    broker := state.broker.map (fun broker => { broker with
      receipts := broker.receipts.drop plan.brokerReceipts
      receiptsThrough := broker.receiptsThrough + plan.brokerReceipts }) }

/-- A batch that archives nothing leaves the state and its anchors alone. -/
def compactSessionHistory (maxRecords : Nat) : Checked (SessionAggregateState × SessionArchiveDelta) := do
  sessionErrorIf (sessionHistoryMaxRecords < maxRecords) .invalidArgument
    "history archive batch exceeds its bounded record budget"
  let plan := planCompaction state maxRecords
  let archive := compactionArchive state plan
  if archive.isEmpty then return (state, archive)
  else return (compactedState state plan, archive)

end Circulusd.Session
