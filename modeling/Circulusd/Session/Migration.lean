import Circulusd.Host.Contracts
import Circulusd.Session.Transitions

/-
The migration of stored session states to the current schema.
-/

namespace Circulusd.Session

open Protocol Checked Host

variable (codec : Codec) (stored : StoredSessionState)

def sessionStateSchemaVersion : Nat := 7

/-- A stored state keeps its schema version and says whether it has the public fields. -/
structure StoredSessionState extends SessionAggregateState where
  schemaVersion : Nat
  publicFields : Bool
deriving DecidableEq

/-- The fields that the legacy schemas do not share with the current one. -/
def legacyFields : Checked Unit := do
  let field := "legacy schema-v" ++ toString stored.schemaVersion ++ " session state"
  sessionErrorIf (stored.broker.isSome = true) .failedPrecondition (field ++ " has unknown field broker")
  sessionErrorIf (stored.history.isSome = true ∧ stored.schemaVersion ≠ 6) .failedPrecondition
    (field ++ " has unknown field history")
  sessionErrorIf (stored.publicFields = true ∧ stored.schemaVersion = 1) .failedPrecondition
    (field ++ " has unknown field publicEvents")
  sessionErrorIf (stored.publicFields = false ∧ stored.schemaVersion ≠ 1) .failedPrecondition
    (field ++ " is missing field publicEventSequence")

/-- The first schema starts with an empty public journal. -/
def StoredSessionState.upgraded : StoredSessionState :=
  if stored.schemaVersion = 1 then
    { stored with
      schemaVersion := sessionStateSchemaVersion
      publicFields := true
      publicEventSequence := 0
      publicEvents := []
      turnAdmissionReceipts := [] }
  else { stored with schemaVersion := sessionStateSchemaVersion, publicFields := true }

/-- An externalized checkpoint does not have the fields of an inline one. -/
def migrateInlineCheckpoint (checkpoint : StoredSessionCheckpoint) (field : String) : Checked Unit :=
  protocolFailureAs
    (match checkpoint with
      | .inline full => validateAgentCheckpoint codec full
      | .external _ => .error (.protocol ⟨"$checkpoint.payloadSize", "unknown field \"payloadSize\""⟩))
    .failedPrecondition (field ++ " is not a valid inline checkpoint: ")

/-- Every checkpoint with the text that names it. -/
def SessionAggregateState.namedCheckpoints (state : SessionAggregateState) : List (StoredSessionCheckpoint × String) :=
  state.queuedTurns.mapIdx (fun index turn =>
    (turn.checkpoint, "queuedTurns[" ++ toString index ++ "].checkpoint")) ++
  (state.activeTurn.map (fun turn => (turn.checkpoint, "activeTurn.checkpoint"))).toList ++
  state.terminalTurns.mapIdx (fun index turn =>
    (turn.finalCheckpoint, "terminalTurns[" ++ toString index ++ "].finalCheckpoint"))

def migrateSessionState : Checked (AggregateMigrationResult StoredSessionState) :=
  if stored.schemaVersion < 1 ∨ 6 < stored.schemaVersion then
    .ok { state := stored, migrated := false, blobs := none, referencedBlobs := none }
  else do
    legacyFields stored
    let migrated := stored.upgraded
    if 5 ≤ stored.schemaVersion then
      return { state := migrated, migrated := true, blobs := none, referencedBlobs := none }
    else do
      sessionErrorIf (stored.schemaVersion ≤ 3 ∧ migrated.effects.any (·.lastDispatch.isSome) = true)
        .failedPrecondition ("schema-v" ++ toString stored.schemaVersion ++
          " Session dispatch history lacks a provable provider route")
      forEach (fun named => migrateInlineCheckpoint codec named.1 named.2)
        migrated.toSessionAggregateState.namedCheckpoints
      return {
        state := migrated
        migrated := true
        blobs := none
        referencedBlobs := some (sessionReferencedBlobDigests migrated.toSessionAggregateState) }

/-- The upgrade keeps every payload reference. -/
@[simp]
theorem StoredSessionState.upgraded_references : sessionReferencedBlobDigests stored.upgraded.toSessionAggregateState =
      sessionReferencedBlobDigests stored.toSessionAggregateState := by
  unfold StoredSessionState.upgraded
  split <;> rfl

/-- What an accepted migration of a legacy state returns. -/
theorem migrateSessionState_legacy (result : AggregateMigrationResult StoredSessionState)
    (legacy : 1 ≤ stored.schemaVersion ∧ stored.schemaVersion ≤ 6)
    (ok : migrateSessionState codec stored = .ok result) :
    result.state = stored.upgraded ∧ result.migrated = true ∧ result.blobs = none ∧
      result.referencedBlobs = if 5 ≤ stored.schemaVersion then none
        else some (sessionReferencedBlobDigests stored.toSessionAggregateState) := by
  have current : ¬ (stored.schemaVersion < 1 ∨ 6 < stored.schemaVersion) := by omega
  rw [migrateSessionState, if_neg current] at ok
  obtain ⟨_, _, ok⟩ := (bind_ok ..).mp ok
  by_cases recent : 5 ≤ stored.schemaVersion
  · simp only [if_pos recent, pure_ok] at ok
    subst ok
    exact ⟨rfl, rfl, rfl, (if_pos recent).symm⟩
  · simp only [if_neg recent, steps_ok] at ok
    obtain ⟨_, _, rfl⟩ := ok
    exact ⟨rfl, rfl, rfl, by simp [recent]⟩

/-- The checks of the host before it uses a stored state. -/
def validateStoredSessionState : Checked Unit := do
  sessionErrorIf (stored.publicFields = false) .failedPrecondition "session state is missing field publicEventSequence"
  sessionErrorIf (stored.schemaVersion ≠ sessionStateSchemaVersion) .failedPrecondition
    "unsupported session state schemaVersion"
  validateSessionState codec stored.toSessionAggregateState

end Circulusd.Session
