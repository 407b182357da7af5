import Circulusd.Library.Trace
import Circulusd.NativeStorage.Stored

/-
The kernel is a compare-and-swap cell with immutable receipts: what its storage represents, and what each
call does to it.
-/

namespace Circulusd.NativeStorage

open Canonical Checked KeyValue Protocol List

section Cell

/-- What the kernel is for: a state that is replaced under a revision, and receipts that stay. -/
structure Cell where
  revision : Nat
  state : Bytes
  receipts : Store String StoredReceipt

def Cell.empty : Cell := ⟨0, [], fun _ => none⟩

/-- The reference that a reader of the cell gets. -/
def Cell.ref (cell : Cell) (digestBytes : Bytes → String) (objectId : String) : SnapshotRef :=
  if cell.revision = 0 then ⟨objectId, false, 0, emptyDigest⟩
  else ⟨objectId, true, cell.revision, digestBytes cell.state⟩

/-- The revision goes up, and only new receipts are added. -/
def Cell.commit (cell : Cell) (body : CommitBody) : Cell where
  revision := cell.revision + 1
  state := if body.stateWritten then body.state else cell.state
  receipts commandId :=
    (cell.receipts commandId).or
      ((body.receipts.find? fun write => write.commandId = commandId).map ReceiptWrite.receipt)

/-- A receipt may be written again as it is. -/
def Cell.Admits (cell : Cell) (body : CommitBody) : Prop :=
  ∀ write ∈ body.receipts, cell.receipts write.commandId = none ∨ cell.receipts write.commandId = some write.receipt

end Cell

section Names

open Kernel

/-- The command ids that a call may look up. -/
def Kernel.Call.commandIds (kernel : Kernel) : Call → List String
  | .lookupReceipt value =>
    match parseReceiptRequest kernel.normalizer value with
    | .ok request => [request.commandId]
    | .error _ => []
  | .compareAndCommit value =>
    match kernel.parseCommitRequest kernel.bounds value with
    | .ok request => request.receipts.map ReceiptWrite.commandId
    | .error _ => []
  | _ => []

/-- The objects that a call may be routed to. -/
def Kernel.Call.objectIds (kernel : Kernel) : Call → List String
  | .readSnapshot value =>
    match (do let input ← record value ["objectId"]; identifier kernel.normalizer (input "objectId")) with
    | .ok objectId => [objectId]
    | .error _ => []
  | .lookupReceipt value =>
    match parseReceiptRequest kernel.normalizer value with
    | .ok request => [request.snapshot.objectId]
    | .error _ => []
  | .compareAndCommit value =>
    match kernel.parseCommitRequest kernel.bounds value with
    | .ok request => [request.snapshot.objectId]
    | .error _ => []
  | .confirmBarrier value =>
    match parseBarrierRequest kernel.normalizer value with
    | .ok request => [request.token.objectId]
    | .error _ => []

/-- No two command ids and no two object names of the calls share a hash. -/
structure Kernel.CollisionFree (kernel : Kernel) (calls : List Call) : Prop where
  commands : ∀ left ∈ calls.flatMap (Call.commandIds kernel), ∀ right ∈ calls.flatMap (Call.commandIds kernel),
    kernel.receiptPrefix left = kernel.receiptPrefix right → left = right
  objects : ∀ left ∈ calls.flatMap (Call.objectIds kernel), ∀ right ∈ calls.flatMap (Call.objectIds kernel),
    kernel.idFromName (nativeStorageObjectName left) = kernel.idFromName (nativeStorageObjectName right) → left = right

end Names

section Representation

variable {kernel : Kernel} {store : Storage} {cell : Cell} {calls : List Kernel.Call} {metadata : Option Metadata}

/-- Before the first commit there is no metadata; later it describes the cell. -/
inductive Kernel.Anchored (kernel : Kernel) (calls : List Kernel.Call) (store : Storage) (cell : Cell) :
    Option Metadata → Prop where
  | fresh (absent : store .metadata = none) (revision : cell.revision = 0) (state : cell.state = [])
      (receipts : ∀ commandId, cell.receipts commandId = none) : Anchored kernel calls store cell none
  | stored {metadata : Metadata} {encoded : Bytes} (valid : metadata.Valid kernel)
      (written : encodeWire kernel.normalizer metadata.toValue kernel.bounds = .ok encoded)
      (present : store .metadata = some encoded)
      (object : metadata.objectId ∈ calls.flatMap (Kernel.Call.objectIds kernel))
      (routed : kernel.idFromName (nativeStorageObjectName metadata.objectId) = kernel.id)
      (physicalId : metadata.physicalId = kernel.id) (revision : metadata.revision = cell.revision)
      (stateDigest : metadata.stateDigest = kernel.digestBytes cell.state)
      (stateBytes : metadata.stateBytes = cell.state.length) : Anchored kernel calls store cell (some metadata)

/-- The storage represents the cell, as far as the calls ask for it. -/
structure Kernel.Represents (kernel : Kernel) (calls : List Kernel.Call) (store : Storage) (cell : Cell) : Prop where
  anchor : ∃ metadata, kernel.Anchored calls store cell metadata
  chunks : ∀ index < Chunks.count chunkBytes cell.state.length,
    store (.state index) = some (Chunks.chunk chunkBytes index cell.state)
  held : ∀ commandId ∈ calls.flatMap (Kernel.Call.commandIds kernel), ∀ receipt,
    cell.receipts commandId = some receipt → kernel.Holds store ⟨commandId, receipt⟩
  absent : ∀ commandId ∈ calls.flatMap (Kernel.Call.commandIds kernel), cell.receipts commandId = none →
    store (.manifest (kernel.receiptPrefix commandId)) = none

theorem Kernel.represents_empty (kernel : Kernel) (calls : List Kernel.Call) :
    kernel.Represents calls (fun _ => none) Cell.empty where
  anchor := ⟨none, .fresh rfl rfl rfl fun _ => rfl⟩
  chunks index inside := by
    have none_left : Chunks.count chunkBytes ([] : Bytes).length = 0 := by decide
    change index < Chunks.count chunkBytes ([] : Bytes).length at inside
    omega
  held commandId _ receipt found := by cases found
  absent commandId _ _ := rfl

theorem Kernel.Anchored.ref_eq (anchored : kernel.Anchored calls store cell metadata) (objectId : String) :
    NativeStorage.ref objectId metadata = cell.ref kernel.digestBytes objectId := by
  cases anchored with
  | fresh _ revision => rw [Cell.ref, if_pos revision]; rfl
  | stored valid _ _ _ _ _ revision stateDigest =>
    have positive := valid.positive
    rw [Cell.ref, if_neg (by omega), ← revision, ← stateDigest]
    rfl

/-- A call is routed to the kernel of its object. -/
theorem route_ok_iff {objectId physicalId : String} : kernel.route objectId = .ok physicalId ↔
    kernel.idFromName (nativeStorageObjectName objectId) = kernel.id ∧ physicalId = kernel.id ∧
      Identifier kernel.normalizer kernel.id := by
  simp only [Kernel.route, steps_ok, identifier_ok_iff, Value.text.injEq]
  constructor
  · rintro ⟨routed, rfl, valid⟩
    exact ⟨routed, rfl, valid⟩
  · rintro ⟨routed, rfl, valid⟩
    exact ⟨routed, rfl, valid⟩

theorem Kernel.Anchored.read (anchored : kernel.Anchored calls store cell metadata) (free : kernel.CollisionFree calls)
    {call : Kernel.Call} (asked : call ∈ calls) {objectId : String} (names : objectId ∈ call.objectIds kernel)
    (routed : kernel.idFromName (nativeStorageObjectName objectId) = kernel.id) :
    kernel.metadata store objectId kernel.id = .ok metadata := by
  cases anchored with
  | fresh absent => rw [Kernel.metadata, absent]
  | stored valid written present object named physicalId =>
    obtain rfl := free.objects _ object _ (List.mem_flatMap.mpr ⟨call, asked, names⟩) (named.trans routed.symm)
    rw [Kernel.metadata, present, ← physicalId]
    simp only [parseMetadata_stored valid written, orCorrupt]
    rfl

theorem Kernel.Anchored.read_state (anchored : kernel.Anchored calls store cell metadata)
    (chunks : ∀ index < Chunks.count chunkBytes cell.state.length,
      store (.state index) = some (Chunks.chunk chunkBytes index cell.state)) :
    kernel.stateBytes store metadata = .ok cell.state := by
  cases anchored with
  | fresh _ _ state => rw [state]; rfl
  | stored valid _ _ _ _ _ _ stateDigest stateBytes =>
    simp only [Kernel.stateBytes, steps_ok]
    rw [valid.stateChunks, stateBytes]
    exact ⟨cell.state, readChunks_stored chunks, stateDigest.symm, rfl⟩

theorem Kernel.Represents.read_receipt (represents : kernel.Represents calls store cell)
    (anchored : kernel.Anchored calls store cell metadata) {commandId : String}
    (asked : commandId ∈ calls.flatMap (Kernel.Call.commandIds kernel)) :
    kernel.readReceipt store commandId metadata.isSome = .ok (cell.receipts commandId) := by
  cases found : cell.receipts commandId with
  | none => exact readReceipt_absent _ (represents.absent commandId asked found)
  | some receipt =>
    cases anchored with
    | fresh _ _ _ receipts => rw [receipts] at found; cases found
    | stored => exact readReceipt_stored (represents.held commandId asked receipt found)

end Representation

section Soundness

variable {α β : Type}

/-- The call does not find its storage corrupt. -/
def Uncorrupted (result : Except ErrorCode α) : Prop := result ≠ .error .corruptState

section

variable {first : Except ErrorCode α} {next : α → Except ErrorCode β} {code : ErrorCode}

/-- A sequence is sound when every step is, after what the steps before it returned. -/
@[simp]
theorem uncorrupted_bind : Uncorrupted (first >>= next) ↔
    Uncorrupted first ∧ ∀ value, first = .ok value → Uncorrupted (next value) := by
  cases first with
  | error code => simp [Uncorrupted, Bind.bind, Except.bind]
  | ok value => simp [Uncorrupted, Bind.bind, Except.bind]

@[simp]
theorem uncorrupted_map {change : α → β} : Uncorrupted (change <$> first) ↔ Uncorrupted first := by
  cases first <;> simp [Uncorrupted, Functor.map, Except.map]

@[simp]
theorem uncorrupted_ok (value : α) : Uncorrupted (.ok value) := nofun

@[simp]
theorem uncorrupted_pure (value : α) : Uncorrupted (pure value) := nofun

@[simp]
theorem uncorrupted_ite {condition : Prop} [Decidable condition] {second : Except ErrorCode α} :
    Uncorrupted (if condition then first else second) ↔
      (condition → Uncorrupted first) ∧ (¬ condition → Uncorrupted second) := by
  split <;> simp [*]

@[simp]
theorem uncorrupted_refuseIf {condition : Prop} [Decidable condition] :
    Uncorrupted (refuseIf condition code) ↔ (condition → code ≠ .corruptState) := by
  unfold refuseIf
  split <;> simp [Uncorrupted, *]

@[simp]
theorem uncorrupted_require {value : Option α} :
    Uncorrupted (require value code) ↔ (value = none → code ≠ .corruptState) := by
  cases value <;> simp [require, Uncorrupted]

@[simp]
theorem uncorrupted_mapM {entries : List α} (each : ∀ entry ∈ entries, Uncorrupted (next entry)) :
    Uncorrupted (entries.mapM next) := by
  induction entries with
  | nil => exact uncorrupted_pure []
  | cons entry rest ih =>
    obtain ⟨first, others⟩ := forall_mem_cons.mp each
    simp [mapM_cons, first, ih others]

end

end Soundness

end Circulusd.NativeStorage
