import Circulusd.Celld.Calls
import Circulusd.Library.Trace

/-
Hosts over one native transport: the logs of its objects, what it may answer, and the steps of the calls.
-/

namespace Circulusd.Celld

open Dialogue Protocol Function List

section Logs

/-- A commit of an object, with the call that made it. -/
structure Entry where
  caller : Nat
  request : Request
  commit : CommitRequest
deriving DecidableEq

abbrev Log := List Entry

/-- The state after the commits of a log. -/
def Log.state (log : Log) : Bytes :=
  log.foldl (fun state entry => if entry.commit.stateWritten then entry.commit.state else state) []

def Log.receipts (log : Log) : List ReceiptWrite := log.flatMap (·.commit.receipts)

/-- The revision of an object is the number of its commits. -/
def Log.snapshot (platform : Platform) (objectId : String) (log : Log) : Snapshot where
  objectId
  present := decide (log ≠ [])
  revision := log.length
  stateDigest := platform.sha256 log.state
  state := log.state

/-- What a read of a receipt finds at a snapshot. -/
def Log.lookup (platform : Platform) (objectId commandId : String) (log : Log) : ReceiptResult :=
  match log.receipts.find? (·.commandId = commandId) with
  | some write => ⟨(log.snapshot platform objectId).toSnapshotRef, commandId, true, write.receipt⟩
  | none => ⟨(log.snapshot platform objectId).toSnapshotRef, commandId, false, .zero⟩

end Logs

section Transport

/-- The objects of the transport: their logs, and how many commits of each passed a barrier. -/
structure Store where
  logs : String → Log
  durable : String → Nat

def Store.append (store : Store) (objectId : String) (entry : Entry) : Store :=
  { store with logs := update store.logs objectId (store.logs objectId ++ [entry]) }

variable (platform : Platform) (aggregate : Bytes → Bytes → ApplyResult → Prop)

/-- What may be answered to a call, and what the answer does. Reads are those of one snapshot, a commit is
for the current one, and a receipt stays as it is. Every question may be answered with an error; that of a
commit may come after the commit took effect, unless it is a snapshot conflict. -/
inductive Answers (caller : Nat) (request : Request) (store : Store) :
    (question : Question) → Answer question → Store → Prop where
  | check (check : Check) (answer : Option Error) : Answers caller request store (.check check) answer store
  | randomMarker (answer : Except Error Bytes) : Answers caller request store .randomMarker answer store
  | seal (binding : PermitBinding) (claims : RawCapabilityClaims) (answer : Except Error Bytes) :
      Answers caller request store (.seal binding claims) answer store
  | apply {state command : Bytes} {result : ApplyResult} (applied : aggregate state command result) :
      Answers caller request store (.apply state command) (.ok result) store
  | applyError (state command : Bytes) (error : Error) :
      Answers caller request store (.apply state command) (.error error) store
  | readSnapshot (objectId : String) : Answers caller request store (.readSnapshot objectId)
      (.ok ((store.logs objectId).snapshot platform objectId)) store
  | readSnapshotError (objectId : String) (error : Error) :
      Answers caller request store (.readSnapshot objectId) (.error error) store
  | readReceipt (objectId commandId : String) {revision : Nat} (present : revision ≤ (store.logs objectId).length) :
      Answers caller request store
        (.readReceipt ⟨(Log.snapshot platform objectId ((store.logs objectId).take revision)).toSnapshotRef, commandId⟩)
        (.ok (Log.lookup platform objectId commandId ((store.logs objectId).take revision))) store
  | readReceiptError (read : ReceiptRequest) (error : Error) :
      Answers caller request store (.readReceipt read) (.error error) store
  | commit {commit : CommitRequest} {answer : Except Error CommitResult} (current : commit.snapshot =
        ((store.logs commit.snapshot.objectId).snapshot platform commit.snapshot.objectId).toSnapshotRef)
      (immutable : ∀ write ∈ commit.receipts, ∀ stored ∈ (store.logs commit.snapshot.objectId).receipts,
        stored.commandId = write.commandId → stored = write)
      (indefinite : ∀ error, answer = .error error → error.is .snapshotConflict = false) :
      Answers caller request store (.compareAndCommit commit) answer
        (store.append commit.snapshot.objectId ⟨caller, request, commit⟩)
  | commitError (commit : CommitRequest) (error : Error) :
      Answers caller request store (.compareAndCommit commit) (.error error) store
  | barrier {barrier : BarrierRequest} (response : BarrierResult) {durable : Nat}
      (reached : barrier.token.revision ≤ durable) (kept : store.durable barrier.token.objectId ≤ durable)
      (present : durable ≤ (store.logs barrier.token.objectId).length) :
      Answers caller request store (.confirmBarrier barrier) (.ok response)
        { store with durable := update store.durable barrier.token.objectId durable }
  | barrierError (barrier : BarrierRequest) (error : Error) :
      Answers caller request store (.confirmBarrier barrier) (.error error) store

end Transport

section Worlds

/-- A call of `Execute` by some host: what it has heard, and the rest of its program. -/
structure Call where
  host : Host
  request : Request
  past : Past
  program : Program Question Answer (Except Error Result)

structure World where
  store : Store
  calls : Nat → Option Call

def World.initial : World := ⟨⟨fun _ => [], fun _ => 0⟩, fun _ => none⟩

inductive Event where
  | begin (caller : Nat) (host : Host) (request : Request)
  | turn (caller : Nat) (exchange : Exchange Answer)

/-- The steps of the calls in any order; a retry is another call. -/
inductive Step (platform : Platform) (aggregate : Bytes → Bytes → ApplyResult → Prop) :
    World → Event → World → Prop where
  | begin {world : World} {caller : Nat} (host : Host) (request : Request) (free : world.calls caller = none) :
      Step platform aggregate world (.begin caller host request)
        { world with
          calls := update world.calls caller (some ⟨host, request, [], host.call platform request⟩) }
  | turn {world : World} {caller : Nat} {call : Call} {question : Question}
      {next : Answer question → Program Question Answer (Except Error Result)} {answer : Answer question} {store : Store}
      (running : world.calls caller = some call) (asks : call.program = .ask question next)
      (served : Answers platform aggregate caller call.request world.store question answer store) :
      Step platform aggregate world (.turn caller ⟨question, answer⟩) ⟨store, update world.calls caller
          (some { call with past := call.past ++ [⟨question, answer⟩], program := next answer })⟩

end Worlds

section Truth

variable (platform : Platform) (aggregate : Bytes → Bytes → ApplyResult → Prop)

/-- What an answer says of the objects from then on. -/
def Truthful (store : Store) : Exchange Answer → Prop
  | ⟨.apply state command, .ok result⟩ => aggregate state command result
  | ⟨.readSnapshot objectId, .ok snapshot⟩ => ∃ log,
      log <+: store.logs objectId ∧ snapshot = Log.snapshot platform objectId log
  | ⟨.readReceipt read, .ok response⟩ => ∃ objectId log, log <+: store.logs objectId ∧
      read.snapshot = (Log.snapshot platform objectId log).toSnapshotRef ∧
      response = Log.lookup platform objectId read.commandId log
  | ⟨.compareAndCommit commit, .ok _⟩ => ∃ log entry, log ++ [entry] <+: store.logs commit.snapshot.objectId ∧
      entry.commit = commit ∧ commit.snapshot = (Log.snapshot platform commit.snapshot.objectId log).toSnapshotRef
  | ⟨.confirmBarrier barrier, .ok _⟩ => barrier.token.revision ≤ store.durable barrier.token.objectId
  | _ => True

/-- The objects have only moved on. -/
structure Store.Before (store later : Store) : Prop where
  logs : ∀ objectId, store.logs objectId <+: later.logs objectId
  durable : ∀ objectId, store.durable objectId ≤ later.durable objectId

theorem Store.Before.refl (store : Store) : store.Before store :=
  ⟨fun _ => prefix_rfl, fun _ => le_rfl⟩

theorem Store.before_append (store : Store) (objectId : String) (entry : Entry) :
    store.Before (store.append objectId entry) := by
  refine ⟨fun other => ?_, fun _ => le_rfl⟩
  by_cases same : other = objectId
  · subst same
    simp [Store.append]
  · simp [Store.append, update_of_ne same]

variable {platform aggregate} {store later : Store}

/-- What was true of the objects stays true. -/
theorem Truthful.mono {exchange : Exchange Answer} (truth : Truthful platform aggregate store exchange)
    (before : store.Before later) : Truthful platform aggregate later exchange := by
  unfold Truthful at truth ⊢
  split at truth
  · exact truth
  · obtain ⟨log, initial, same⟩ := truth
    exact ⟨log, initial.trans (before.logs _), same⟩
  · obtain ⟨objectId, log, initial, same⟩ := truth
    exact ⟨objectId, log, initial.trans (before.logs _), same⟩
  · obtain ⟨log, entry, initial, same⟩ := truth
    exact ⟨log, entry, initial.trans (before.logs _), same⟩
  · exact truth.trans (before.durable _)
  · simp_all

section

variable {caller : Nat} {request : Request} {question : Question} {answer : Answer question}
  (served : Answers platform aggregate caller request store question answer later)
include served

theorem Answers.before : store.Before later := by
  cases served with
  | commit => exact store.before_append _ _
  | barrier response reached kept present =>
    refine ⟨fun _ => prefix_rfl, fun objectId => ?_⟩
    simp only [update_apply]
    split
    case isTrue same => rwa [same]
    case isFalse => exact le_rfl
  | _ => exact .refl store

theorem Answers.truthful : Truthful platform aggregate later ⟨question, answer⟩ := by
  cases served with
  | apply applied => exact applied
  | readSnapshot objectId => exact ⟨_, prefix_rfl, rfl⟩
  | readReceipt objectId commandId present => exact ⟨objectId, _, take_prefix _ _, rfl, rfl⟩
  | @commit commit answer current immutable indefinite =>
    cases answer with
    | error => trivial
    | ok result =>
      exact ⟨store.logs commit.snapshot.objectId, ⟨caller, request, commit⟩, by simp [Store.append], rfl, current⟩
  | barrier response reached kept present => simpa [Truthful] using reached
  | _ => trivial

end

end Truth

end Circulusd.Celld
