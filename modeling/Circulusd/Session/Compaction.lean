import Circulusd.Session.History

/-
What a compaction batch moves from a session to its archive.
-/

namespace Circulusd.Session

open Checked List

section

variable (mayLeave : SessionEffect → Bool) (pressured : List String) (hotCount remaining : Nat)
  (effects : List SessionEffect)
include mayLeave pressured hotCount remaining effects

theorem archiveEffects_perm : ((archiveEffects mayLeave pressured hotCount remaining effects).archived ++
      (archiveEffects mayLeave pressured hotCount remaining effects).kept).Perm effects := by
  induction effects generalizing hotCount remaining with
  | nil => exact .nil
  | cons effect rest ih =>
    unfold archiveEffects
    split
    · exact .cons effect (ih _ _)
    · exact perm_middle.trans (.cons effect (ih _ _))

theorem archiveEffects_mayLeave :
    ∀ effect ∈ (archiveEffects mayLeave pressured hotCount remaining effects).archived, mayLeave effect = true := by
  induction effects generalizing hotCount remaining with
  | nil => simp [archiveEffects]
  | cons effect rest ih =>
    unfold archiveEffects
    split
    · next leaves =>
        intro archived member
        rcases mem_cons.mp member with rfl | later
        · exact leaves.2.2
        · exact ih _ _ archived later
    · exact ih _ _

theorem archiveEffects_sublist :
    (archiveEffects mayLeave pressured hotCount remaining effects).kept.Sublist effects := by
  induction effects generalizing hotCount remaining with
  | nil => exact .slnil
  | cons effect rest ih =>
    unfold archiveEffects
    split
    · exact .cons effect (ih _ _)
    · exact .cons_cons effect (ih _ _)

end

theorem archiveTurns_append (admissions : List TurnAdmissionReceipt) (mayLeave : TerminalTurn → Bool)
    (remaining : Nat) (turns : List TerminalTurn) :
    (archiveTurns admissions mayLeave remaining turns).archived ++
      (archiveTurns admissions mayLeave remaining turns).kept = turns := by
  induction turns generalizing remaining with
  | nil => rfl
  | cons turn rest ih =>
    unfold archiveTurns
    split
    · exact congrArg (turn :: ·) (ih _)
    · rfl

/-- Compaction moves a prefix of the journals and the finished records to the archive. -/
inductive Compacted (candidate : SessionAggregateState) : SessionAggregateState → SessionArchiveDelta → Prop where
  | kept : Compacted candidate candidate emptyArchive
  | archived (maxRecords : Nat) (bounded : maxRecords ≤ sessionHistoryMaxRecords) :
      Compacted candidate (compactedState candidate (planCompaction candidate maxRecords))
        (compactionArchive candidate (planCompaction candidate maxRecords))

theorem SessionArchiveDelta.eq_empty {delta : SessionArchiveDelta} (empty : delta.isEmpty = true) :
    delta = emptyArchive := by
  rcases delta with ⟨commands, events, turns, effects, admissions, identities, brokers⟩
  simp only [SessionArchiveDelta.isEmpty, Bool.and_eq_true, List.isEmpty_iff] at empty
  simp [emptyArchive, empty]

theorem compactSessionHistory_compacted (state compacted : SessionAggregateState) (maxRecords : Nat)
    (archive : SessionArchiveDelta) (ok : compactSessionHistory state maxRecords = .ok (compacted, archive)) :
    Compacted state compacted archive := by
  simp only [compactSessionHistory, steps_ok, sessionErrorIf_ok, not_lt] at ok
  obtain ⟨bounded, ok⟩ := ok
  split at ok
  · next empty =>
      obtain ⟨rfl, rfl⟩ := pair_ok ok
      rw [SessionArchiveDelta.eq_empty empty]
      exact .kept
  · obtain ⟨rfl, rfl⟩ := pair_ok ok
    exact .archived maxRecords bounded

/-- Compaction loses nothing and keeps the order of the sequenced records. -/
structure Compacted.Partition (candidate next : SessionAggregateState) (delta : SessionArchiveDelta) : Prop where
  commandReceipts : delta.commandReceipts ++ next.commandReceipts = candidate.commandReceipts
  publicEvents : delta.publicEvents ++ next.publicEvents = candidate.publicEvents
  terminalTurns : delta.terminalTurns ++ next.terminalTurns = candidate.terminalTurns
  effects : (delta.effects ++ next.effects).Perm candidate.effects
  keptEffects : next.effects.Sublist candidate.effects
  consumed : ∀ effect ∈ delta.effects, effect.unconsumed = false
  turnIdentities : delta.turnIdentities = delta.terminalTurns.map (fun turn => ⟨turn.turnId, turn.sequence⟩)
  knownTurnIds : next.knownTurnIds = candidate.knownTurnIds.drop delta.terminalTurns.length
  nextTurnSequence : next.nextTurnSequence = candidate.nextTurnSequence
  activeTurn : next.activeTurn = candidate.activeTurn
  queuedTurns : next.queuedTurns = candidate.queuedTurns
  fence : fence next = fence candidate
  eventSequence : next.eventSequence = candidate.eventSequence
  publicEventSequence : next.publicEventSequence = candidate.publicEventSequence
  runtimePointer : next.runtimePointer = candidate.runtimePointer
  runtimeConfiguration : next.toSessionRuntimeConfiguration = candidate.toSessionRuntimeConfiguration
  unarchived : next.history = none → candidate.history = none ∧ delta = emptyArchive

theorem Compacted.partition {candidate next : SessionAggregateState} {delta : SessionArchiveDelta}
    (compacted : Compacted candidate next delta) : Compacted.Partition candidate next delta := by
  cases compacted with
  | kept =>
    exact ⟨rfl, rfl, rfl, .refl _, .refl _, by simp [emptyArchive], rfl, rfl, rfl, rfl, rfl, rfl, rfl, rfl, rfl,
      rfl, fun absent => ⟨absent, rfl⟩⟩
  | archived maxRecords _ =>
    refine ⟨take_append_drop _ _, take_append_drop _ _, archiveTurns_append _ _ _ _,
      archiveEffects_perm _ _ _ _ _, archiveEffects_sublist _ _ _ _ _, ?_, rfl, rfl, rfl, rfl, rfl, rfl, rfl, rfl, rfl,
      rfl, ?_⟩
    · intro effect member
      have leaves := archiveEffects_mayLeave _ _ _ _ _ effect member
      simp only [effectMayLeave, SessionEffect.consumed, Bool.and_eq_true] at leaves
      simpa using leaves.1.1
    · intro absent
      simp [compactedState] at absent

end Circulusd.Session
