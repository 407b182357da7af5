import Circulusd.NativeStorage.Refinement

/-
What the callers of the kernel see over a whole history of calls.
-/

namespace Circulusd.NativeStorage

open Canonical Checked KeyValue Protocol Trace List Option
open Kernel

section Histories

/-- A call and its answer. -/
abbrev Event := Call × Except ErrorCode Answer

def Kernel.Step (kernel : Kernel) (store : Storage) (event : Event) (later : Storage) : Prop :=
  kernel.execute store event.1 = (event.2, later)

/-- The body of a commit that succeeded. -/
def committed (kernel : Kernel) : Event → Option CommitBody
  | (.compareAndCommit value, .ok _) =>
    (kernel.parseCommitRequest kernel.bounds value).toOption.map CommitRequest.toCommitBody
  | _ => none

/-- The bodies that the history committed, in order. -/
def commits (kernel : Kernel) (history : List Event) : List CommitBody :=
  history.filterMap (committed kernel)

/-- The state of the last commit that wrote one. -/
def lastState (bodies : List CommitBody) : Bytes :=
  ((bodies.filter CommitBody.stateWritten).getLast?.map CommitBody.state).getD []

/-- The snapshot after the commits: its revision is their number. -/
def snapshotOf (kernel : Kernel) (bodies : List CommitBody) (objectId : String) : SnapshotRef :=
  if bodies.length = 0 then ⟨objectId, false, 0, emptyDigest⟩
  else ⟨objectId, true, bodies.length, kernel.digestBytes (lastState bodies)⟩

/-- Every receipt of the commits. -/
def receiptsOf (bodies : List CommitBody) : List ReceiptWrite :=
  bodies.flatMap CommitBody.receipts

end Histories

section Record

variable {kernel : Kernel} {bodies : List CommitBody} {cell : Cell} {body : CommitBody}

/-- The cell holds what the commits wrote. -/
structure Recorded (bodies : List CommitBody) (cell : Cell) : Prop where
  revision : cell.revision = bodies.length
  state : cell.state = lastState bodies
  receipts : ∀ commandId receipt, cell.receipts commandId = some receipt ↔ ⟨commandId, receipt⟩ ∈ receiptsOf bodies

theorem recorded_empty : Recorded [] Cell.empty where
  revision := rfl
  state := rfl
  receipts commandId receipt := by simp [Cell.empty, receiptsOf]

theorem lastState_concat (bodies : List CommitBody) (body : CommitBody) :
    lastState (bodies ++ [body]) = if body.stateWritten then body.state else lastState bodies := by
  unfold lastState
  rw [filter_append, filter_singleton]
  cases body.stateWritten <;> simp

theorem Recorded.ref_eq (recorded : Recorded bodies cell) (objectId : String) :
    cell.ref kernel.digestBytes objectId = snapshotOf kernel bodies objectId := by
  rw [Cell.ref, snapshotOf, recorded.revision, recorded.state]

/-- An admitted commit keeps the record. -/
theorem Recorded.commit (recorded : Recorded bodies cell) (admitted : cell.Admits body)
    (distinct : (body.receipts.map ReceiptWrite.commandId).Nodup) : Recorded (bodies ++ [body]) (cell.commit body) where
  revision := by rw [length_append, ← recorded.revision]; rfl
  state := by rw [lastState_concat, ← recorded.state]; rfl
  receipts commandId receipt := by
    have unique {left right : ReceiptWrite} (one : left ∈ body.receipts) (two : right ∈ body.receipts)
        (same : left.commandId = right.commandId) : left = right :=
      inj_on_of_nodup_map distinct one two same
    rw [receiptsOf, flatMap_append, flatMap_singleton, mem_append]
    change (cell.receipts commandId).or _ = some receipt ↔ ⟨commandId, receipt⟩ ∈ receiptsOf bodies ∨ _
    rw [← recorded.receipts]
    cases known : cell.receipts commandId with
    | some stored =>
      rw [some_or]
      refine ⟨.inl, ?_⟩
      rintro (same | again)
      · exact same
      · rcases admitted _ again with unknown | same
        · rw [known] at unknown
          cases unknown
        · exact known.symm.trans same
    | none =>
      rw [none_or, map_eq_some_iff]
      constructor
      · rintro ⟨write, first, rfl⟩
        have named : write.commandId = commandId := by simpa using find?_some first
        subst named
        exact .inr (mem_of_find?_eq_some first)
      · rintro (impossible | there)
        · cases impossible
        · have some_write : (body.receipts.find? fun write => write.commandId = commandId).isSome = true :=
            find?_isSome.mpr ⟨_, there, by simp⟩
          obtain ⟨write, first⟩ := isSome_iff_exists.mp some_write
          have named : write.commandId = commandId := by simpa using find?_some first
          exact ⟨write, first, congrArg ReceiptWrite.receipt (unique (mem_of_find?_eq_some first) there named)⟩

theorem committed_ok {value : Value} {request : CommitRequest} (answer : Answer)
    (parsed : kernel.parseCommitRequest kernel.bounds value = .ok request) :
    committed kernel (.compareAndCommit value, .ok answer) = some request.toCommitBody := by
  rw [committed, parsed]
  rfl

/-- An answer of the cell and the commits of the history agree. -/
theorem Recorded.answers (recorded : Recorded bodies cell) {event : Event} {next : Cell}
    (answers : cell.Answers kernel event.1 event.2 next) :
    Recorded (bodies ++ (committed kernel event).toList) next := by
  obtain ⟨call, result⟩ := event
  cases answers with
  | @refused _ code =>
    have nothing : committed kernel (call, .error code) = none := by cases call <;> rfl
    rw [nothing]
    simpa using recorded
  | commit parsed current admitted =>
    rw [committed_ok _ parsed]
    exact recorded.commit admitted (parseCommitRequest_valid parsed).distinct
  | snapshot | receipt | barrier => simpa [committed] using recorded

end Record

section Runs

variable {kernel : Kernel} {history past : List Event} {store : Storage}

/-- After any history the storage represents the cell that its commits describe. -/
theorem Kernel.represents_of_run {calls : List Call} (free : kernel.CollisionFree calls)
    (run : Run kernel.Step (fun _ => none) history store) (asked : ∀ event ∈ history, event.1 ∈ calls) :
    ∃ cell, kernel.Represents calls store cell ∧ Recorded (commits kernel history) cell := by
  have restricted := @Run.restrict _ _ _ (fun event => event.1 ∈ calls) _ _ _ run asked
  refine @Run.traceInvariant _ _ _
    (fun past store => ∃ cell, kernel.Represents calls store cell ∧ Recorded (commits kernel past) cell) _ _ _ restricted
    ⟨Cell.empty, kernel.represents_empty calls, recorded_empty⟩ ?_
  rintro past before event after ⟨step, member⟩ ⟨cell, represents, recorded⟩
  obtain ⟨next, answers, later⟩ := execute_answers represents free member
  rw [Kernel.Step] at step
  rw [step] at answers later
  refine ⟨next, later, ?_⟩
  have grown := recorded.answers answers
  rw [commits, filterMap_append]
  cases one : committed kernel event with
  | none => simpa [commits, one] using grown
  | some body => simpa [commits, one] using grown

/-- A barrier writes nothing but the metadata. -/
theorem confirmBarrier_frame {value : Value} {key : StorageKey} (other : key ≠ .metadata) :
    (kernel.execute store (.confirmBarrier value)).2 key = store key := by
  unfold Kernel.execute
  split
  case h_1 answer writes ok =>
    simp only [Kernel.outcome, Kernel.confirmBarrier, Kernel.transaction, steps_ok] at ok
    obtain ⟨_, -, _, -, _, -, _, -, _, -, _, -, encoded, -, -, rfl⟩ := ok
    exact writeAll_untouched _ _ _ (by simpa [Mutation.key] using other.symm)
  case h_2 => rfl

/-- The kernel is a compare-and-swap cell with immutable receipts. Reading gives the state of the last
commit that wrote one, under the number of the commits; a receipt is found as it was first written; a
commit succeeds against the current snapshot only; a barrier is no commit and writes nothing but the
metadata; and no call finds the storage corrupt. -/
theorem compare_and_swap_cell (kernel : Kernel) (history : List Event) (store : Storage)
    (run : Run kernel.Step (fun _ => none) history store)
    (free : kernel.CollisionFree (history.map Prod.fst)) (past future : List Event) (event : Event)
    (split : history = past ++ event :: future) :
    event.2 ≠ .error .corruptState ∧
    (∀ value answer, event = (.readSnapshot value, .ok answer) →
      ∃ objectId, answer = .snapshot (snapshotOf kernel (commits kernel past) objectId)
        (lastState (commits kernel past))) ∧
    (∀ value input objectId physicalId, event.1 = .readSnapshot value → record value ["objectId"] = .ok input →
      identifier kernel.normalizer (input "objectId") = .ok objectId → kernel.route objectId = .ok physicalId →
      event.2 = .ok (.snapshot (snapshotOf kernel (commits kernel past) objectId) (lastState (commits kernel past)))) ∧
    (∀ value answer, event = (.lookupReceipt value, .ok answer) →
      ∃ snapshot commandId found, answer = .receipt snapshot commandId found ∧
        ∀ receipt, found = some receipt ↔ ⟨commandId, receipt⟩ ∈ receiptsOf (commits kernel past)) ∧
    (∀ value request physicalId, event.1 = .lookupReceipt value →
      parseReceiptRequest kernel.normalizer value = .ok request →
      kernel.route request.snapshot.objectId = .ok physicalId →
      request.snapshot = snapshotOf kernel (commits kernel past) request.snapshot.objectId →
      ∃ found, event.2 = .ok (.receipt request.snapshot request.commandId found) ∧
        ∀ receipt, found = some receipt ↔ ⟨request.commandId, receipt⟩ ∈ receiptsOf (commits kernel past)) ∧
    (∀ value answer, event = (.compareAndCommit value, .ok answer) →
      ∃ request, kernel.parseCommitRequest kernel.bounds value = .ok request ∧
        request.snapshot = snapshotOf kernel (commits kernel past) request.snapshot.objectId ∧
        (∀ write ∈ request.receipts, ∀ receipt,
          ⟨write.commandId, receipt⟩ ∈ receiptsOf (commits kernel past) → receipt = write.receipt) ∧
        commits kernel (past ++ [event]) = commits kernel past ++ [request.toCommitBody]) ∧
    (∀ value, event.1 = .confirmBarrier value → commits kernel (past ++ [event]) = commits kernel past ∧
        ∀ before after, Run kernel.Step (fun _ => none) past before → kernel.Step before event after →
          ∀ key, key ≠ .metadata → after key = before key) := by
  subst split
  obtain ⟨call, result⟩ := event
  obtain ⟨before, after, front, step, -⟩ := run.at
  have asked : ∀ other ∈ past, other.1 ∈ (past ++ (call, result) :: future).map Prod.fst :=
    fun other member => List.mem_map_of_mem (List.mem_append_left _ member)
  have member : call ∈ (past ++ (call, result) :: future).map Prod.fst := by simp
  obtain ⟨cell, represents, recorded⟩ := kernel.represents_of_run free front asked
  obtain ⟨next, answers, -⟩ := execute_answers represents free member
  have executed : kernel.execute before call = (result, after) := step
  rw [executed] at answers
  refine ⟨?_, ?_, ?_, ?_, ?_, ?_, ?_⟩
  · rintro rfl
    cases answers with
    | refused sound => exact sound rfl
  · rintro value answer ⟨⟩
    cases answers with
    | snapshot => exact ⟨_, by rw [recorded.ref_eq, recorded.state]⟩
  · rintro value input objectId physicalId ⟨⟩ opened parsed routed
    have returned := readSnapshot_returns represents free member opened parsed routed
    simp only [Kernel.execute, Kernel.outcome, returned, Prod.mk.injEq] at executed
    rw [← executed.1, recorded.ref_eq, recorded.state]
  · rintro value answer ⟨⟩
    cases answers with
    | receipt => exact ⟨_, _, _, rfl, recorded.receipts _⟩
  · rintro value request physicalId ⟨⟩ parsed routed current
    have returned := lookupReceipt_returns represents free member parsed routed (by rw [recorded.ref_eq, ← current])
    simp only [Kernel.execute, Kernel.outcome, returned, Prod.mk.injEq] at executed
    exact ⟨_, executed.1.symm, recorded.receipts _⟩
  · rintro value answer ⟨⟩
    cases answers with
    | @commit _ request parsed current admitted =>
      refine ⟨request, parsed, by rw [← recorded.ref_eq, current], fun write member receipt there => ?_, ?_⟩
      · have known := (recorded.receipts _ _).mpr there
        rcases admitted write member with unknown | same
        · rw [known] at unknown
          cases unknown
        · exact Option.some.inj (known.symm.trans same)
      · rw [commits, List.filterMap_append, List.filterMap_cons, committed_ok _ parsed]
        rfl
  · rintro value ⟨⟩
    refine ⟨by simp [commits, committed], fun first second _ move key other => ?_⟩
    have frame := @confirmBarrier_frame kernel first value key other
    rw [show kernel.execute first (.confirmBarrier value) = (result, second) from move] at frame
    exact frame

end Runs

section Calls

/-- The storage after the calls, one after another. -/
def Kernel.after (kernel : Kernel) (store : Storage) (calls : List Call) : Storage :=
  calls.foldl (fun store call => (kernel.execute store call).2) store

/-- The calls with their answers. -/
def Kernel.events (kernel : Kernel) (store : Storage) : List Call → List Event
  | [] => []
  | call :: rest => (call, (kernel.execute store call).1) :: kernel.events (kernel.execute store call).2 rest

variable (kernel : Kernel)

theorem Kernel.run_events (store : Storage) (calls : List Call) :
    Run kernel.Step store (kernel.events store calls) (kernel.after store calls) := by
  induction calls generalizing store with
  | nil => exact .nil store
  | cons call rest ih => exact .cons rfl (ih _)

theorem Kernel.events_calls (store : Storage) (calls : List Call) :
    (kernel.events store calls).map Prod.fst = calls := by
  induction calls generalizing store with
  | nil => rfl
  | cons call rest ih => rw [Kernel.events, map_cons, ih]

theorem Kernel.events_concat (store : Storage) (calls : List Call) (last : Call) :
    kernel.events store (calls ++ [last]) =
      kernel.events store calls ++ [(last, (kernel.execute (kernel.after store calls) last).1)] := by
  induction calls generalizing store with
  | nil => rfl
  | cons call rest ih => rw [cons_append, Kernel.events, Kernel.events, ih, cons_append]; rfl

end Calls

section Sample

/-- The bytes as one number, in hexadecimal digits, the lowest of them first. -/
def sampleDigest (bytes : Bytes) : String :=
  if bytes = [] then emptyDigest
  else
    let sum := bytes.foldl (fun sum byte => 257 * sum + byte.toNat + 1) 0
    String.ofList ("sha256:".toList ++ (range 64).map fun place => hexCharacter (sum / 16 ^ place % 16))

theorem isLowerHex_hexCharacter : ∀ nibble < 16, isLowerHex (hexCharacter nibble) = true := by
  decide

theorem sampleDigest_isDigest (bytes : Bytes) : isDigest (sampleDigest bytes) = true := by
  unfold sampleDigest
  split
  · decide +kernel
  · simp only [isDigest, String.toList_ofList, List.all_eq_true, Bool.and_eq_true, beq_iff_eq]
    refine ⟨⟨rfl, by simp⟩, fun character member => ?_⟩
    obtain ⟨place, -, rfl⟩ := mem_map.mp member
    exact isLowerHex_hexCharacter _ (Nat.mod_lt _ (by decide))

def sampleKernel : Kernel where
  normalizer := .identity
  digestBytes := sampleDigest
  digest_isDigest := sampleDigest_isDigest
  digest_nil := rfl
  bounds := maximumBounds
  idFromName name :=
    match name with
    | [_, _, .text objectId] => objectId
    | _ => ""
  id := "object"

def sampleReceipt : StoredReceipt := ⟨sampleDigest [1], [7], [⟨"permit", [1, 2]⟩]⟩

/-- A first commit of a state and a receipt. -/
def sampleBody : CommitBody :=
  ⟨⟨"object", false, 0, emptyDigest⟩, true, [5, 6], [⟨"cmd", sampleReceipt⟩]⟩

def sampleRequestDigest : String :=
  match sampleKernel.commitDigest sampleBody with
  | .ok digest => digest
  | .error _ => ""

def sampleCommit : Value :=
  .map [("snapshot", sampleBody.snapshot.toValue), ("stateWritten", .bool true), ("state", .bytes sampleBody.state),
    ("receipts", .array [ReceiptWrite.toValue ⟨"cmd", sampleReceipt⟩]), ("requestDigest", .text sampleRequestDigest)]

def sampleCalls : List Call := [.compareAndCommit sampleCommit]

def sampleRead : Call := .readSnapshot (.map [("objectId", .text "object")])

def sampleHistory : List Event := sampleKernel.events (fun _ => none) sampleCalls

theorem sample_parsed : sampleKernel.parseCommitRequest sampleKernel.bounds sampleCommit =
    .ok { sampleBody with requestDigest := sampleRequestDigest } := by
  decide +kernel

theorem sample_collisionFree : sampleKernel.CollisionFree (sampleCalls ++ [sampleRead]) := by
  have commands : (sampleCalls ++ [sampleRead]).flatMap (Call.commandIds sampleKernel) = ["cmd"] := by
    rw [flatMap_append, sampleCalls, flatMap_singleton, flatMap_singleton, Call.commandIds, sample_parsed]
    rfl
  have objects : (sampleCalls ++ [sampleRead]).flatMap (Call.objectIds sampleKernel) = ["object", "object"] := by
    rw [flatMap_append, sampleCalls, flatMap_singleton, flatMap_singleton, Call.objectIds, sample_parsed]
    decide +kernel
  constructor
  · rw [commands]
    simp
  · rw [objects]
    simp

theorem compare_and_swap_cell_sample :
    (sampleKernel.execute (sampleKernel.after (fun _ => none) sampleCalls) sampleRead).1 =
        .ok (.snapshot (snapshotOf sampleKernel (commits sampleKernel sampleHistory) "object")
          (lastState (commits sampleKernel sampleHistory))) ∧
      commits sampleKernel sampleHistory = [sampleBody] := by
  have run := sampleKernel.run_events (fun _ => none) (sampleCalls ++ [sampleRead])
  have free := sample_collisionFree
  rw [← sampleKernel.events_calls (fun _ => none) (sampleCalls ++ [sampleRead])] at free
  obtain ⟨-, -, read, -⟩ := compare_and_swap_cell sampleKernel _ _ run free _ [] _
    (sampleKernel.events_concat (fun _ => none) sampleCalls sampleRead)
  dsimp only at read
  exact ⟨read _ _ "object" "object" rfl (record_map rfl) (by decide) (by decide), by decide +kernel⟩

end Sample

end Circulusd.NativeStorage
