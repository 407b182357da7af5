import Circulusd.Library.Trace
import Circulusd.Session.Application

/-
Runs of a session together with its archive.
-/

namespace Circulusd.Session

open Checked Trace

/-- A session and everything that compaction has archived from it. -/
structure World where
  state : SessionAggregateState
  archive : SessionArchiveDelta

def SessionArchiveDelta.append (archive delta : SessionArchiveDelta) : SessionArchiveDelta where
  commandReceipts := archive.commandReceipts ++ delta.commandReceipts
  publicEvents := archive.publicEvents ++ delta.publicEvents
  terminalTurns := archive.terminalTurns ++ delta.terminalTurns
  effects := archive.effects ++ delta.effects
  turnAdmissionReceipts := archive.turnAdmissionReceipts ++ delta.turnAdmissionReceipts
  turnIdentities := archive.turnIdentities ++ delta.turnIdentities
  brokerReceipts := archive.brokerReceipts ++ delta.brokerReceipts

/-- All effects that the session ever prepared. -/
def World.effects (world : World) : List SessionEffect := world.archive.effects ++ world.state.effects

/-- All command receipts in the order of their events. -/
def World.commandReceipts (world : World) : List CommandReceipt :=
  world.archive.commandReceipts ++ world.state.commandReceipts

def World.terminalTurns (world : World) : List TerminalTurn :=
  world.archive.terminalTurns ++ world.state.terminalTurns

/-- A positive answer is an archived record with the key, a negative one excludes every such record. -/
def Answers {κ α : Type} (records : List α) (keyed : α → κ → Prop) : Option (κ × Option α) → Prop
  | none => True
  | some (key, none) => ∀ record ∈ records, ¬ keyed record key
  | some (key, some record) => record ∈ records ∧ keyed record key

instance {κ α : Type} [DecidableEq α] (records : List α) (keyed : α → κ → Prop)
    [∀ record key, Decidable (keyed record key)] : (answer : Option (κ × Option α)) → Decidable (Answers records keyed answer)
  | none => .isTrue trivial
  | some (key, none) => inferInstanceAs (Decidable (∀ record ∈ records, ¬ keyed record key))
  | some (key, some record) => inferInstanceAs (Decidable (record ∈ records ∧ keyed record key))

def SessionEffect.invocation (effect : SessionEffect) : SessionInvocationIdentity :=
  ⟨effect.invocationId, effect.effectId⟩

/-- The answered lookups describe the archive. -/
@[mk_iff truthful_iff]
structure Truthful (archive : SessionArchiveDelta) (witness : SessionHistoryWitness) : Prop where
  command : Answers archive.commandReceipts (fun receipt key => receipt.commandId = key) witness.command
  admission : Answers archive.turnAdmissionReceipts (fun receipt key => receipt.idempotencyKeyDigest = key)
    witness.admission
  turn : Answers archive.turnIdentities (fun identity key => identity.turnId = key) witness.turn
  effect : Answers archive.effects (fun effect key => effect.effectId = key) witness.effect
  invocation : Answers (archive.effects.map (·.invocation)) (fun identity key => identity.invocationId = key)
    witness.invocation
  issuingReceipt : Answers archive.commandReceipts (fun receipt key => receipt.committedEventSequence = key)
    witness.issuingReceipt
  brokerOperation : Answers archive.brokerReceipts (fun receipt key => receipt.kind = key.kind ∧
    receipt.operationKeyDigest = key.operationKeyDigest) witness.brokerOperation

instance (archive : SessionArchiveDelta) (witness : SessionHistoryWitness) : Decidable (Truthful archive witness) :=
  decidable_of_iff _ (truthful_iff archive witness).symm

/-- The context of an application carries only truthful lookups. -/
def TruthfulContext (archive : SessionArchiveDelta) (context : Option SessionApplyContext) : Prop :=
  ∀ witness ∈ SessionApplyContext.witness? context, Truthful archive witness
deriving Decidable

/-- An accepted application; a rejected one throws and changes nothing. -/
structure Application where
  command : SessionCommand
  context : Option SessionApplyContext
  result : ApplySessionCommandResult

/-- The archive grows by the records that an application moves out of the state. -/
def World.applied (world : World) (result : ApplySessionCommandResult) : World :=
  ⟨result.state, world.archive.append (result.archiveDelta.getD emptyArchive)⟩

structure Step (codec : Codec) (before : World) (application : Application) (after : World) : Prop where
  truthful : TruthfulContext before.archive application.context
  accepted : applySessionCommand codec before.state application.command application.context = .ok application.result
  moved : after = before.applied application.result

/-- A run starts from a created session with an empty archive. -/
def Reached (codec : Codec) (input : CreateSessionStateInput) (applications : List Application) (world : World) :
    Prop :=
  ∃ state, createSessionState codec input = .ok state ∧ Run (Step codec) ⟨state, emptyArchive⟩ applications world

section Lookups

variable {κ α : Type} {records : List α} {keyed : α → κ → Prop}

/-- A null lookup proves absence, also when nothing is archived yet. -/
theorem historyWitness_none [DecidableEq κ] {state : SessionAggregateState} {entry : Option (κ × Option α)}
    (unarchived : state.history = none → records = []) (answers : Answers records keyed entry) {key : κ}
    {field : String} (ok : historyWitness state entry key field = .ok none) :
    ∀ record ∈ records, ¬ keyed record key := by
  match entry with
  | none =>
    simp only [historyWitness, steps_ok, sessionErrorIf_ok] at ok
    simp [unarchived ok.1]
  | some (wanted, answer) =>
    simp only [historyWitness, steps_ok, sessionErrorIf_ok] at ok
    obtain ⟨rfl, rfl⟩ := ok
    exact answers

/-- A lookup of an absent witness claims nothing. -/
theorem Answers.of_bind {witness : Option SessionHistoryWitness}
    (select : SessionHistoryWitness → Option (κ × Option α))
    (each : ∀ present ∈ witness, Answers records keyed (select present)) :
    Answers records keyed (witness.bind select) := by
  cases witness with
  | none => trivial
  | some present => exact each present rfl

end Lookups

end Circulusd.Session
