import Circulusd.NativeStorage.Cell
import Mathlib.Data.List.ReduceOption

/-
Every call of the kernel answers as the cell that the storage represents.
-/

namespace Circulusd.NativeStorage

open Canonical Checked KeyValue Platform Protocol List Option

section Parsers

variable {normalizer : Normalizer} {value : Value} {bounds : Bounds}

section

variable (normalizer value bounds)

@[simp]
theorem uncorrupted_invalid {α : Type} : Uncorrupted (invalid : Except ErrorCode α) := nofun

@[simp]
theorem uncorrupted_record (fields : List String) : Uncorrupted (record value fields) := by
  cases value <;> simp [record]

@[simp]
theorem uncorrupted_identifier : Uncorrupted (identifier normalizer value) := by
  cases value <;> simp [identifier]

@[simp]
theorem uncorrupted_revision (minimum : Nat) : Uncorrupted (revision value minimum) := by
  cases value <;> simp [revision]

@[simp]
theorem uncorrupted_bytes (maximum : Nat) : Uncorrupted (bytes value maximum) := by
  cases value <;> simp [bytes]

@[simp]
theorem uncorrupted_boolean : Uncorrupted (boolean value) := by
  cases value <;> simp [boolean]

@[simp]
theorem uncorrupted_digest : Uncorrupted (digest value) := by
  cases value <;> simp [digest]

@[simp]
theorem uncorrupted_array (maximum : Nat) : Uncorrupted (array value maximum) := by
  cases value <;> simp [array]

@[simp]
theorem uncorrupted_encodeWire : Uncorrupted (encodeWire normalizer value bounds) := by
  simp [encodeWire]

@[simp]
theorem uncorrupted_snapshotRef : Uncorrupted (snapshotRef normalizer value) := by
  simp [snapshotRef]

@[simp]
theorem uncorrupted_storedClaims (maximum total : Nat) (values : List Value) :
    Uncorrupted (storedClaims normalizer maximum total values) := by
  induction values generalizing total with
  | nil => exact uncorrupted_pure _
  | cons value rest ih => simp [storedClaims, ih]

@[simp]
theorem uncorrupted_storedReceipt : Uncorrupted (storedReceipt normalizer bounds value) := by
  simp [storedReceipt]

@[simp]
theorem uncorrupted_receiptWrites (previous : String) (values : List Value) :
    Uncorrupted (receiptWrites normalizer bounds previous values) := by
  induction values generalizing previous with
  | nil => exact uncorrupted_pure _
  | cons value rest ih => simp [receiptWrites, ih]

@[simp]
theorem uncorrupted_parseReceiptRequest : Uncorrupted (parseReceiptRequest normalizer value) := by
  simp [parseReceiptRequest]

@[simp]
theorem uncorrupted_parseCommitRequest (runtime : Runtime) : Uncorrupted (runtime.parseCommitRequest bounds value) := by
  simp [Runtime.parseCommitRequest, Runtime.commitDigest, Runtime.structuredDigest]

@[simp]
theorem uncorrupted_parseBarrierRequest : Uncorrupted (parseBarrierRequest normalizer value) := by
  simp [parseBarrierRequest, commitToken]

end

/-- What the parser of a snapshot guarantees. -/
theorem snapshotRef_valid {snapshot : SnapshotRef} (ok : snapshotRef normalizer value = .ok snapshot) :
    Identifier normalizer snapshot.objectId ∧ snapshot.revision ≤ maximumRevision := by
  simp only [snapshotRef, steps_ok, identifier_ok_iff, revision_ok_iff] at ok
  obtain ⟨_, -, objectId, ⟨-, named⟩, number, ⟨-, -, safe⟩, present, -, stateDigest, -, -, rfl⟩ := ok
  exact ⟨named, safe⟩

/-- The writes of a request are in order, and each of them is valid. -/
theorem receiptWrites_valid {previous : String} {values : List Value} {writes : List ReceiptWrite}
    (ok : receiptWrites normalizer bounds previous values = .ok writes) :
    (∀ write ∈ writes, Identifier normalizer write.commandId ∧ write.receipt.Valid normalizer bounds ∧
        (previous ≠ "" → utf8 previous < utf8 write.commandId)) ∧
      writes.Pairwise (fun left right => utf8 left.commandId < utf8 right.commandId) := by
  induction values generalizing previous writes with
  | nil =>
    simp only [receiptWrites, pure_ok] at ok
    subst ok
    simp
  | cons value rest ih =>
    simp only [receiptWrites, steps_ok, identifier_ok_iff, not_and] at ok
    obtain ⟨_, -, commandId, ⟨-, named⟩, ascending, receipt, parsed, others, later, rfl⟩ := ok
    obtain ⟨each, pairwise⟩ := ih later
    refine ⟨?_, pairwise_cons.mpr ⟨fun write member => (each write member).2.2 named.present, pairwise⟩⟩
    rintro write (_ | ⟨_, member⟩)
    · exact ⟨named, storedReceipt_valid parsed, ascending⟩
    · obtain ⟨identifier, valid, after⟩ := each write member
      exact ⟨identifier, valid, fun present => List.lt_trans (ascending present) (after named.present)⟩

/-- What the parser of a commit guarantees. -/
structure CommitRequest.Valid (normalizer : Normalizer) (bounds : Bounds) (request : CommitRequest) : Prop where
  objectId : Identifier normalizer request.snapshot.objectId
  revision : request.snapshot.revision < maximumRevision
  state : request.state.length ≤ bounds.maxStateBytes
  commandIds : ∀ write ∈ request.receipts, Identifier normalizer write.commandId
  receipts : ∀ write ∈ request.receipts, write.receipt.Valid normalizer bounds
  distinct : (request.receipts.map ReceiptWrite.commandId).Nodup

theorem parseCommitRequest_valid {runtime : Runtime} {request : CommitRequest}
    (ok : runtime.parseCommitRequest bounds value = .ok request) : request.Valid runtime.normalizer bounds := by
  simp only [Runtime.parseCommitRequest, steps_ok, bytes_ok_iff] at ok
  obtain ⟨_, -, snapshot, parsed, below, stateWritten, -, writes, -, retained, -, state, ⟨-, fits⟩, -, receipts, written,
    _, -, computed, -, -, rfl⟩ := ok
  obtain ⟨named, safe⟩ := snapshotRef_valid parsed
  obtain ⟨each, pairwise⟩ := receiptWrites_valid written
  refine ⟨named, lt_of_le_of_ne safe below, fits, fun write member => (each write member).1,
    fun write member => (each write member).2.1, ?_⟩
  rw [nodup_iff_pairwise_ne, pairwise_map]
  refine pairwise.imp fun ascending same => ?_
  rw [same] at ascending
  exact List.lt_irrefl _ ascending

end Parsers

section Transactions

variable {kernel : Kernel} {calls : List Kernel.Call} {store : Storage} {cell : Cell} {metadata : Option Metadata}
  {objectId : String} {callback : Option Metadata → String → Kernel.Outcome} {call : Kernel.Call}

section

variable (anchored : kernel.Anchored calls store cell metadata) (free : kernel.CollisionFree calls) (asked : call ∈ calls)
  (names : objectId ∈ call.objectIds kernel)
include anchored free asked names

theorem transaction_ok {answer : Kernel.Answer × List Write}
    (ok : kernel.transaction store objectId callback = .ok answer) :
    kernel.idFromName (nativeStorageObjectName objectId) = kernel.id ∧ Identifier kernel.normalizer kernel.id ∧
      callback metadata kernel.id = .ok answer := by
  simp only [Kernel.transaction, bind_ok, route_ok_iff] at ok
  obtain ⟨_, ⟨routed, rfl, named⟩, found, read, answered⟩ := ok
  obtain rfl := Except.ok.inj ((anchored.read free asked names routed).symm.trans read)
  exact ⟨routed, named, answered⟩

theorem transaction_uncorrupted (sound : Uncorrupted (callback metadata kernel.id)) :
    Uncorrupted (kernel.transaction store objectId callback) := by
  have route : Uncorrupted (kernel.route objectId) := by simp [Kernel.route]
  refine uncorrupted_bind.mpr ⟨route, fun physicalId found => ?_⟩
  obtain ⟨routed, rfl, -⟩ := route_ok_iff.mp found
  rw [anchored.read free asked names routed]
  exact sound

end

end Transactions

section Receipts

variable {kernel : Kernel} {calls : List Kernel.Call} {store : Storage} {cell : Cell} {metadata : Option Metadata}

/-- Receipts with the same bytes are the same. -/
theorem receipt_eq_of_encodeWire {normalizer : Normalizer} {bounds : Bounds} {left right : StoredReceipt} {payload : Bytes}
    (leftValid : left.Valid normalizer bounds) (rightValid : right.Valid normalizer bounds)
    (first : encodeWire normalizer left.toValue bounds = .ok payload)
    (second : encodeWire normalizer right.toValue bounds = .ok payload) : left = right := by
  have fits := (encodeWire_length first).2
  have same : left.toValue.normalize normalizer = right.toValue.normalize normalizer :=
    Except.ok.inj ((decodeWire_encodeWire first fits).symm.trans (decodeWire_encodeWire second fits))
  have parsed := storedReceipt_toValue leftValid
  rw [same, storedReceipt_toValue rightValid] at parsed
  exact (Except.ok.inj parsed).symm

section

variable (represents : kernel.Represents calls store cell) (anchored : kernel.Anchored calls store cell metadata)
  {write : ReceiptWrite} (asked : write.commandId ∈ calls.flatMap (Kernel.Call.commandIds kernel))
include represents anchored asked

/-- A receipt is pending when the cell has none for its command, and otherwise it is there already. -/
theorem pendingReceipt_ok (valid : write.receipt.Valid kernel.normalizer kernel.bounds)
    {pending : Option (ReceiptWrite × Bytes)} (ok : kernel.pendingReceipt store metadata.isSome write = .ok pending) :
    (cell.receipts write.commandId = none ∧ ∃ payload, pending = some (write, payload) ∧
        encodeWire kernel.normalizer write.receipt.toValue kernel.bounds = .ok payload) ∨
      (cell.receipts write.commandId = some write.receipt ∧ pending = none) := by
  simp only [Kernel.pendingReceipt, bind_ok, represents.read_receipt anchored asked] at ok
  obtain ⟨existing, found, payload, encoded, decided⟩ := ok
  cases found
  cases known : cell.receipts write.commandId with
  | none =>
    rw [known, pure_ok] at decided
    exact .inl ⟨rfl, payload, decided.symm, encoded⟩
  | some existing =>
    rw [known] at decided
    simp only [steps_ok] at decided
    obtain ⟨stored, again, rfl, rfl⟩ := decided
    have held := represents.held _ asked existing known
    exact .inr ⟨congrArg some (receipt_eq_of_encodeWire held.valid valid again encoded), rfl⟩

theorem pendingReceipt_uncorrupted : Uncorrupted (kernel.pendingReceipt store metadata.isSome write) := by
  simp only [Kernel.pendingReceipt, represents.read_receipt anchored asked, uncorrupted_bind, uncorrupted_ok, true_and,
    uncorrupted_encodeWire]
  rintro existing - payload -
  cases existing <;> simp

end

/-- The pending receipts of a commit: those whose commands the cell does not know. -/
structure Pends (kernel : Kernel) (cell : Cell) (writes : List ReceiptWrite) (pending : List (ReceiptWrite × Bytes)) :
    Prop where
  admitted : ∀ write ∈ writes, cell.receipts write.commandId = none ∨ cell.receipts write.commandId = some write.receipt
  missing : ∀ write ∈ writes, cell.receipts write.commandId = none → ∃ payload, (write, payload) ∈ pending
  unknown : ∀ entry ∈ pending, cell.receipts entry.1.commandId = none
  encoded : ∀ entry ∈ pending, encodeWire kernel.normalizer entry.1.receipt.toValue kernel.bounds = .ok entry.2
  sublist : (pending.map Prod.fst).Sublist writes

theorem pends_of_mapM (represents : kernel.Represents calls store cell)
    (anchored : kernel.Anchored calls store cell metadata) {writes : List ReceiptWrite}
    {pending : List (Option (ReceiptWrite × Bytes))}
    (asked : ∀ write ∈ writes, write.commandId ∈ calls.flatMap (Kernel.Call.commandIds kernel))
    (valid : ∀ write ∈ writes, write.receipt.Valid kernel.normalizer kernel.bounds)
    (ok : writes.mapM (kernel.pendingReceipt store metadata.isSome) = .ok pending) :
    Pends kernel cell writes pending.reduceOption := by
  rw [mapM_ok_iff] at ok
  induction ok with
  | nil => exact ⟨by simp, by simp, by simp, by simp, by simp⟩
  | cons first _ ih =>
    obtain ⟨askedFirst, askedRest⟩ := forall_mem_cons.mp asked
    obtain ⟨validFirst, validRest⟩ := forall_mem_cons.mp valid
    have rest := ih askedRest validRest
    rcases pendingReceipt_ok represents anchored askedFirst validFirst first with
      ⟨unknown, payload, rfl, encoded⟩ | ⟨known, rfl⟩
    · rw [reduceOption_cons_of_some]
      exact ⟨forall_mem_cons.mpr ⟨.inl unknown, rest.admitted⟩,
        forall_mem_cons.mpr ⟨fun _ => ⟨payload, mem_cons_self⟩, fun write member missing =>
          (rest.missing write member missing).imp fun _ there => mem_cons_of_mem _ there⟩,
        forall_mem_cons.mpr ⟨unknown, rest.unknown⟩, forall_mem_cons.mpr ⟨encoded, rest.encoded⟩,
        rest.sublist.cons_cons _⟩
    · rw [reduceOption_cons_of_none]
      exact ⟨forall_mem_cons.mpr ⟨.inr known, rest.admitted⟩,
        forall_mem_cons.mpr ⟨fun missing => (by rw [known] at missing; cases missing), rest.missing⟩,
        rest.unknown, rest.encoded, rest.sublist.cons _⟩

end Receipts

section Writes

variable {kernel : Kernel} {write : Write} {key : StorageKey}

/-- A receipt with its bytes, as the parsers leave it. -/
structure Kernel.Storable (kernel : Kernel) (entry : ReceiptWrite × Bytes) : Prop where
  named : Identifier kernel.normalizer entry.1.commandId
  valid : entry.1.receipt.Valid kernel.normalizer kernel.bounds
  encoded : encodeWire kernel.normalizer entry.1.receipt.toValue kernel.bounds = .ok entry.2

/-- The keys of one receipt. -/
def ReceiptKey (digest : String) (key : StorageKey) : Prop :=
  key = .manifest digest ∨ ∃ index, key = .receipt digest index

theorem writeChunks_key {key : Nat → StorageKey} {value : Bytes}
    (member : write ∈ Kernel.writeChunks key value) : ∃ index, write.key = key index := by
  obtain ⟨index, -, rfl⟩ := mem_map.mp member
  exact ⟨index, rfl⟩

theorem writeReceipt_key {entry : ReceiptWrite × Bytes} {writes : List Write}
    (ok : kernel.writeReceipt entry = .ok writes) (member : write ∈ writes) :
    ReceiptKey (kernel.receiptPrefix entry.1.commandId) write.key := by
  simp only [Kernel.writeReceipt, steps_ok] at ok
  obtain ⟨manifest, -, rfl⟩ := ok
  rcases mem_append.mp member with chunk | last
  · exact .inr (writeChunks_key chunk)
  · obtain rfl := mem_singleton.mp last
    exact .inl rfl

/-- The writes of the receipts keep every key of another receipt, and every key of none. -/
theorem writeReceipts_untouched {pending : List (ReceiptWrite × Bytes)} {writes : List (List Write)}
    (ok : List.Forall₂ (fun entry result => kernel.writeReceipt entry = .ok result) pending writes) (store : Storage)
    (other : ∀ entry ∈ pending, ¬ ReceiptKey (kernel.receiptPrefix entry.1.commandId) key) :
    writeAll store writes.flatten key = store key := by
  refine writeAll_untouched _ _ _ fun write member same => ?_
  obtain ⟨result, there, inside⟩ := mem_flatten.mp member
  obtain ⟨entry, present, wrote⟩ := exists_of_forall₂_mem ok there
  exact other entry present (same ▸ writeReceipt_key wrote inside)

theorem writeReceipt_holds {entry : ReceiptWrite × Bytes} {writes : List Write}
    (ok : kernel.writeReceipt entry = .ok writes) (storable : kernel.Storable entry) (store : Storage) :
    kernel.Holds (writeAll store writes) entry.1 := by
  simp only [Kernel.writeReceipt, steps_ok] at ok
  obtain ⟨manifest, manifested, rfl⟩ := ok
  refine ⟨storable.named, storable.valid, entry.2, manifest, storable.encoded, manifested, ?_, fun index inside => ?_⟩
  · exact writeAll_put _ _ [] _ _ (by simp)
  · rw [writeAll_append, writeAll_untouched]
    · exact writeAll_puts store (.receipt (kernel.receiptPrefix entry.1.commandId))
        (Chunks.chunk chunkBytes · entry.2) (fun _ _ same => (StorageKey.receipt.inj same).2) nodup_range
        (mem_range.mpr inside)
    · intro write last
      obtain rfl := mem_singleton.mp last
      intro same
      cases same

/-- A held receipt stays when no key of it is written. -/
theorem Kernel.Holds.frame {store later : Storage} {write : ReceiptWrite} (holds : kernel.Holds store write)
    (same : ∀ key, ReceiptKey (kernel.receiptPrefix write.commandId) key → later key = store key) :
    kernel.Holds later write := by
  obtain ⟨payload, manifest, encoded, manifested, present, chunks⟩ := holds.stored
  refine ⟨holds.commandId, holds.valid, payload, manifest, encoded, manifested, ?_, fun index inside => ?_⟩
  · rw [same _ (.inl rfl), present]
  · rw [same _ (.inr ⟨index, rfl⟩), chunks index inside]

theorem ReceiptKey.ne_metadata {digest : String} (inside : ReceiptKey digest key) :
    key ≠ .metadata := by
  rcases inside with rfl | ⟨index, rfl⟩ <;> exact nofun

theorem ReceiptKey.ne_state {digest : String} (inside : ReceiptKey digest key) (index : Nat) :
    key ≠ .state index := by
  rcases inside with rfl | ⟨index, rfl⟩ <;> exact nofun

/-- Receipts of different prefixes share no key. -/
theorem ReceiptKey.unique {left right : String} (one : ReceiptKey left key)
    (two : ReceiptKey right key) : left = right := by
  rcases one with rfl | ⟨index, rfl⟩ <;> rcases two with same | ⟨other, same⟩ <;> cases same <;> rfl

/-- The writes of all the receipts store every one of them. -/
theorem writeReceipts_holds {pending : List (ReceiptWrite × Bytes)} {writes : List (List Write)}
    (ok : List.Forall₂ (fun entry result => kernel.writeReceipt entry = .ok result) pending writes)
    (distinct : (pending.map fun entry => kernel.receiptPrefix entry.1.commandId).Nodup)
    (storable : ∀ entry ∈ pending, kernel.Storable entry) (store : Storage) : ∀ entry ∈ pending, kernel.Holds (writeAll store writes.flatten) entry.1 := by
  induction ok generalizing store with
  | nil => simp
  | cons first others ih =>
    obtain ⟨fresh, distinct⟩ := nodup_cons.mp distinct
    obtain ⟨storableFirst, storable⟩ := forall_mem_cons.mp storable
    rw [flatten_cons, writeAll_append]
    refine forall_mem_cons.mpr ⟨?_, ih distinct storable _⟩
    refine (writeReceipt_holds first storableFirst store).frame fun key inside => ?_
    refine writeReceipts_untouched others _ fun entry member outside => fresh ?_
    exact mem_map.mpr ⟨entry, member, outside.unique inside⟩

/-- After the writes of a state its chunks are there. -/
theorem writeState_chunks (store : Storage) (previous : Nat) (state : Bytes) {index : Nat}
    (inside : index < Chunks.count chunkBytes state.length) :
    writeAll store (Kernel.writeState previous state) (.state index) = some (Chunks.chunk chunkBytes index state) := by
  rw [Kernel.writeState, writeAll_append, writeAll_untouched]
  · exact writeAll_puts store .state (Chunks.chunk chunkBytes · state) (fun _ _ same => StorageKey.state.inj same)
      nodup_range (mem_range.mpr inside)
  · intro write member
    obtain ⟨other, beyond, rfl⟩ := mem_map.mp member
    have := (mem_range'_1.mp beyond).1
    intro same
    have := StorageKey.state.inj same
    omega

theorem writeState_key {previous : Nat} {state : Bytes}
    (member : write ∈ Kernel.writeState previous state) : ∃ index, write.key = .state index := by
  rcases mem_append.mp member with chunk | deletion
  · exact writeChunks_key chunk
  · obtain ⟨index, -, rfl⟩ := mem_map.mp deletion
    exact ⟨index, rfl⟩

end Writes

section Steps

open Kernel

variable {kernel : Kernel} {calls : List Call} {store : Storage} {cell : Cell} {metadata : Option Metadata}

/-- The answers that the cell gives. A refusal leaves it as it is. -/
inductive Cell.Answers (kernel : Kernel) (cell : Cell) : Call → Except ErrorCode Answer → Cell → Prop where
  | refused {call : Call} {code : ErrorCode} (sound : code ≠ .corruptState) : Answers kernel cell call (.error code) cell
  | snapshot {value : Value} {objectId : String} : Answers kernel cell (.readSnapshot value)
        (.ok (.snapshot (cell.ref kernel.digestBytes objectId) cell.state)) cell
  | receipt {value : Value} {request : ReceiptRequest}
      (current : cell.ref kernel.digestBytes request.snapshot.objectId = request.snapshot) :
      Answers kernel cell (.lookupReceipt value)
        (.ok (.receipt request.snapshot request.commandId (cell.receipts request.commandId))) cell
  | commit {value : Value} {request : CommitRequest}
      (parsed : kernel.parseCommitRequest kernel.bounds value = .ok request)
      (current : cell.ref kernel.digestBytes request.snapshot.objectId = request.snapshot)
      (admitted : cell.Admits request.toCommitBody) :
      Answers kernel cell (.compareAndCommit value)
        (.ok (.commit ((cell.commit request.toCommitBody).ref kernel.digestBytes request.snapshot.objectId)
          request.requestDigest ⟨request.snapshot.objectId, cell.revision + 1⟩)) (cell.commit request.toCommitBody)
  | barrier {value : Value} {request : BarrierRequest} {barrierSerial : Nat}
      (known : request.token.revision ≤ cell.revision) :
      Answers kernel cell (.confirmBarrier value)
        (.ok (.barrier request.token request.marker cell.revision barrierSerial)) cell

theorem ref_objectId (objectId : String) (metadata : Option Metadata) :
    (NativeStorage.ref objectId metadata).objectId = objectId := by
  cases metadata <;> rfl

section

variable (anchored : kernel.Anchored calls store cell metadata)
include anchored

theorem Kernel.Anchored.ref_revision (objectId : String) :
    (NativeStorage.ref objectId metadata).revision = cell.revision := by
  cases anchored with
  | fresh _ revision => exact revision.symm
  | stored _ _ _ _ _ _ revision => exact revision

theorem Kernel.Anchored.ref_stateDigest (objectId : String) :
    (NativeStorage.ref objectId metadata).stateDigest = kernel.digestBytes cell.state := by
  cases anchored with
  | fresh _ _ state => rw [state, kernel.digest_nil]; rfl
  | stored _ _ _ _ _ _ _ stateDigest => exact stateDigest

theorem Kernel.Anchored.state_length : cell.state.length ≤ kernel.bounds.maxStateBytes := by
  cases anchored with
  | fresh _ _ state => rw [state]; exact Nat.zero_le _
  | stored valid _ _ _ _ _ _ _ stateBytes => rw [← stateBytes]; exact valid.stateBytes

theorem Kernel.Anchored.barrier : (metadata.map Metadata.barrierSerial).getD 0 ≤ maximumRevision ∧
      ((metadata.map Metadata.barrierMarker).getD []).length =
        if (metadata.map Metadata.barrierSerial).getD 0 = 0 then 0 else 32 := by
  cases anchored with
  | fresh => exact ⟨Nat.zero_le _, rfl⟩
  | stored valid => exact ⟨valid.barrierSerial, valid.barrierMarker⟩

end

/-- Writing only the metadata keeps the rest of the cell. -/
theorem Kernel.Represents.rewrite (represents : kernel.Represents calls store cell) {later : Storage}
    (same : ∀ key, key ≠ .metadata → later key = store key)
    (anchor : ∃ metadata, kernel.Anchored calls later cell metadata) : kernel.Represents calls later cell where
  anchor := anchor
  chunks index inside := (same (.state index) (by simp)).trans (represents.chunks index inside)
  held commandId asked receipt found :=
    (represents.held commandId asked receipt found).frame fun key inside => same key inside.ne_metadata
  absent commandId asked missing :=  (same (.manifest _) (by simp)).trans (represents.absent commandId asked missing)

/-- A barrier does not change the cell. -/
theorem confirmBarrier_answers (represents : kernel.Represents calls store cell) (free : kernel.CollisionFree calls)
    {value : Value} (asked : Call.confirmBarrier value ∈ calls) {answer : Answer} {writes : List Write}
    (ok : kernel.confirmBarrier store value = .ok (answer, writes)) :
    cell.Answers kernel (.confirmBarrier value) (.ok answer) cell ∧
      kernel.Represents calls (writeAll store writes) cell := by
  rw [Kernel.confirmBarrier, bind_ok] at ok
  obtain ⟨request, parsed, ok⟩ := ok
  obtain ⟨metadata, anchored⟩ := represents.anchor
  obtain ⟨routed, named, answered⟩ := transaction_ok anchored free asked (by simp [Call.objectIds, parsed]) ok
  simp only [steps_ok, not_lt] at answered
  obtain ⟨metadata, rfl, known, below, encoded, written, rfl, rfl⟩ := answered
  cases anchored with
  | stored valid _ _ place routed physicalId revision stateDigest stateBytes =>
    rw [revision] at known ⊢
    refine ⟨.barrier known, represents.rewrite (fun key other => ?_) ⟨_, .stored ?_ written ?_ place routed physicalId
      revision stateDigest stateBytes⟩⟩
    · exact writeAll_untouched _ _ _ (by simpa [Mutation.key] using other.symm)
    · simp only [parseBarrierRequest, steps_ok] at parsed
      obtain ⟨_, -, marker, -, length, token, -, rfl⟩ := parsed
      have serial := valid.barrierSerial
      exact { valid with
              barrierSerial := by
                change metadata.barrierSerial + 1 ≤ _
                omega
              barrierMarker := by simpa using length }
    · exact writeAll_put store [] [] .metadata encoded (by simp)

/-- The storage after the writes of a commit, key by key. -/
structure CommitWrites (kernel : Kernel) (store later : Storage) (stateWrites : List Write)
    (pending : List (ReceiptWrite × Bytes)) (encoded : Bytes) : Prop where
  metadata : later .metadata = some encoded
  state : ∀ index, later (.state index) = writeAll store stateWrites (.state index)
  held : ∀ entry ∈ pending, kernel.Holds later entry.1
  other : ∀ digest key, ReceiptKey digest key →
    (∀ entry ∈ pending, kernel.receiptPrefix entry.1.commandId ≠ digest) → later key = store key

theorem commitWrites_spec {stateWrites : List Write} {pending : List (ReceiptWrite × Bytes)}
    {writes : List (List Write)} {encoded : Bytes} (states : ∀ write ∈ stateWrites, ∃ index, write.key = .state index)
    (ok : List.Forall₂ (fun entry result => kernel.writeReceipt entry = .ok result) pending writes)
    (distinct : (pending.map fun entry => kernel.receiptPrefix entry.1.commandId).Nodup)
    (storable : ∀ entry ∈ pending, kernel.Storable entry) :
    CommitWrites kernel store (writeAll store (stateWrites ++ writes.flatten ++ [.put .metadata encoded])) stateWrites
      pending encoded := by
  have last (key : StorageKey) (different : key ≠ .metadata) :
      writeAll store (stateWrites ++ writes.flatten ++ [.put .metadata encoded]) key =
        writeAll (writeAll store stateWrites) writes.flatten key := by
    rw [writeAll_append, writeAll_append]
    exact writeAll_untouched _ _ _ (by simpa [Mutation.key] using different.symm)
  refine ⟨writeAll_put _ _ [] _ _ (by simp), fun index => ?_, fun entry member => ?_, fun digest key inside others => ?_⟩
  · rw [last (.state index) nofun]
    exact writeReceipts_untouched ok _ fun entry _ inside => inside.ne_state index rfl
  · refine (writeReceipts_holds ok distinct storable (writeAll store stateWrites) entry member).frame
      fun key inside => last key inside.ne_metadata
  · rw [last key inside.ne_metadata, writeReceipts_untouched ok _ fun entry member same =>
      others entry member (same.unique inside)]
    refine writeAll_untouched _ _ _ fun write member same => ?_
    obtain ⟨index, named⟩ := states write member
    exact inside.ne_state index (same.symm.trans named)

section Commit

variable {body : CommitBody} {pending : List (ReceiptWrite × Bytes)}

/-- The calls ask for the commands of a body. -/
def Asks (kernel : Kernel) (calls : List Call) (body : CommitBody) : Prop :=
  ∀ write ∈ body.receipts, write.commandId ∈ calls.flatMap (Call.commandIds kernel)

theorem asks_of_commit {value : Value} {request : CommitRequest} (asked : Call.compareAndCommit value ∈ calls)
    (parsed : kernel.parseCommitRequest kernel.bounds value = .ok request) : Asks kernel calls request.toCommitBody := by
  intro write member
  refine mem_flatMap.mpr ⟨_, asked, ?_⟩
  simp only [Call.commandIds, parsed]
  exact mem_map_of_mem member

theorem asked_of_lookup {value : Value} {request : ReceiptRequest} (asked : Call.lookupReceipt value ∈ calls)
    (parsed : parseReceiptRequest kernel.normalizer value = .ok request) :
    request.commandId ∈ calls.flatMap (Call.commandIds kernel) :=
  mem_flatMap.mpr ⟨_, asked, by simp [Call.commandIds, parsed]⟩

/-- Pending receipts stand under different prefixes. -/
theorem Pends.prefixes_nodup (pends : Pends kernel cell body.receipts pending) (free : kernel.CollisionFree calls)
    (asks : Asks kernel calls body) (distinct : (body.receipts.map ReceiptWrite.commandId).Nodup) :
    (pending.map fun entry => kernel.receiptPrefix entry.1.commandId).Nodup := by
  have ids : ((pending.map Prod.fst).map ReceiptWrite.commandId).Nodup :=
    (pends.sublist.map ReceiptWrite.commandId).nodup distinct
  have member {entry : ReceiptWrite × Bytes} (there : entry ∈ pending) : entry.1 ∈ body.receipts :=
    pends.sublist.subset (mem_map_of_mem there)
  rw [List.map_map, nodup_iff_pairwise_ne, pairwise_map] at ids
  rw [nodup_iff_pairwise_ne, pairwise_map]
  exact ids.imp_of_mem fun left right different same =>
    different (free.commands _ (asks _ (member left)) _ (asks _ (member right)) same)

/-- After its writes the storage represents the cell after the commit. -/
theorem Kernel.Represents.commit (represents : kernel.Represents calls store cell) (free : kernel.CollisionFree calls)
    (asks : Asks kernel calls body) (pends : Pends kernel cell body.receipts pending) {later : Storage}
    {stateWrites : List Write} {encoded : Bytes} (spec : CommitWrites kernel store later stateWrites pending encoded)
    (anchor : ∃ metadata, kernel.Anchored calls later (cell.commit body) metadata)
    (chunks : ∀ index < Chunks.count chunkBytes (cell.commit body).state.length,
      writeAll store stateWrites (.state index) = some (Chunks.chunk chunkBytes index (cell.commit body).state)) :
    kernel.Represents calls later (cell.commit body) := by
  have member {entry : ReceiptWrite × Bytes} (there : entry ∈ pending) : entry.1 ∈ body.receipts :=
    pends.sublist.subset (mem_map_of_mem there)
  -- A pending receipt with the hash of a command is a receipt of that command.
  have same_command {commandId : String} (asked : commandId ∈ calls.flatMap (Call.commandIds kernel))
      {entry : ReceiptWrite × Bytes} (there : entry ∈ pending)
      (same : kernel.receiptPrefix entry.1.commandId = kernel.receiptPrefix commandId) : entry.1.commandId = commandId :=
    free.commands _ (asks _ (member there)) _ asked same
  refine ⟨anchor, fun index inside => (spec.state index).trans (chunks index inside), ?held, ?absent⟩
  case held =>
    intro commandId asked receipt found
    change (cell.receipts commandId).or _ = some receipt at found
    cases known : cell.receipts commandId with
    | some stored =>
      rw [known, some_or] at found
      obtain rfl := some.inj found
      refine (represents.held commandId asked stored known).frame fun key inside =>
        spec.other _ key inside fun entry there same => ?_
      have unknown := pends.unknown entry there
      rw [same_command asked there same, known] at unknown
      cases unknown
    | none =>
      rw [known, none_or, map_eq_some_iff] at found
      obtain ⟨write, first, rfl⟩ := found
      have named : write.commandId = commandId := by simpa using find?_some first
      subst named
      obtain ⟨payload, there⟩ := pends.missing write (mem_of_find?_eq_some first) known
      exact spec.held _ there
  case absent =>
    intro commandId asked missing
    change (cell.receipts commandId).or _ = none at missing
    rw [or_eq_none_iff, map_eq_none_iff, find?_eq_none] at missing
    rw [spec.other (kernel.receiptPrefix commandId) _ (.inl rfl) fun entry there same =>
      missing.2 entry.1 (member there) (by simpa using same_command asked there same)]
    exact represents.absent commandId asked missing.1

end Commit

section

variable (represents : kernel.Represents calls store cell) (free : kernel.CollisionFree calls)
include represents free
variable {value : Value} {answer : Answer} {writes : List Write}

/-- A commit answers as the cell does. -/
theorem compareAndCommit_answers (asked : Call.compareAndCommit value ∈ calls)
    (ok : kernel.compareAndCommit store value = .ok (answer, writes)) :
    ∃ next, cell.Answers kernel (.compareAndCommit value) (.ok answer) next ∧
      kernel.Represents calls (writeAll store writes) next := by
  rw [Kernel.compareAndCommit, bind_ok] at ok
  obtain ⟨request, parsed, ok⟩ := ok
  obtain ⟨metadata, anchored⟩ := represents.anchor
  have names : request.snapshot.objectId ∈ (Call.compareAndCommit value).objectIds kernel := by
    simp [Call.objectIds, parsed]
  have asks := asks_of_commit asked parsed
  have valid := parseCommitRequest_valid parsed
  obtain ⟨routed, named, answered⟩ := transaction_ok anchored free asked names ok
  simp only [steps_ok, anchored.read_state represents.chunks, Except.ok.injEq, mapM_ok_iff] at answered
  obtain ⟨current, _, rfl, options, found, lists, wrote, encoded, written, rfl, rfl⟩ := answered
  have pends := pends_of_mapM represents anchored asks valid.receipts ((mapM_ok_iff _ _ _).mpr found)
  generalize options.reduceOption = pending at wrote pends
  have member {entry : ReceiptWrite × Bytes} (there : entry ∈ pending) : entry.1 ∈ request.receipts :=
    pends.sublist.subset (mem_map_of_mem there)
  rw [anchored.ref_eq] at current
  rw [anchored.ref_revision, anchored.ref_stateDigest, ref_objectId] at written ⊢
  have digested : (if request.stateWritten = true then
        kernel.digestBytes (if request.stateWritten = true then request.state else cell.state)
      else kernel.digestBytes cell.state) = kernel.digestBytes (cell.commit request.toCommitBody).state := by
    unfold Cell.commit
    split <;> rfl
  rw [digested] at written ⊢
  change encodeWire kernel.normalizer (Metadata.toValue ⟨request.snapshot.objectId, kernel.id, cell.revision + 1, _,
    (cell.commit request.toCommitBody).state.length,
    Chunks.count chunkBytes (cell.commit request.toCommitBody).state.length, _, _⟩) kernel.bounds = .ok encoded at written
  have revised : cell.revision < maximumRevision := by
    have same : (cell.ref kernel.digestBytes request.snapshot.objectId).revision = request.snapshot.revision := by
      rw [current]
    rw [← anchored.ref_eq, anchored.ref_revision] at same
    rw [same]
    exact valid.revision
  have length : (cell.commit request.toCommitBody).state.length ≤ kernel.bounds.maxStateBytes := by
    unfold Cell.commit
    dsimp only
    split
    · exact valid.state
    · exact anchored.state_length
  refine ⟨cell.commit request.toCommitBody, ?_, ?_⟩
  · have answers := @Cell.Answers.commit kernel cell value request parsed current pends.admitted
    rw [Cell.ref, if_neg (show (cell.commit request.toCommitBody).revision ≠ 0 from Nat.succ_ne_zero _)] at answers
    exact answers
  · refine represents.commit free asks pends (commitWrites_spec ?_ wrote
      (pends.prefixes_nodup free asks valid.distinct) fun entry there =>
        ⟨valid.commandIds _ (member there), valid.receipts _ (member there), pends.encoded entry there⟩)
      ⟨_, .stored ?_ written ?_ (mem_flatMap.mpr ⟨_, asked, names⟩) routed rfl rfl rfl rfl⟩ ?_
    · intro write there
      split at there
      · exact writeState_key there
      · cases there
    · exact ⟨valid.objectId, named, Nat.succ_pos _, revised, kernel.digest_isDigest _, length, rfl, anchored.barrier.1,
        anchored.barrier.2⟩
    · exact writeAll_put _ _ [] _ _ (by simp)
    · intro index inside
      unfold Cell.commit at inside ⊢
      by_cases stated : request.stateWritten = true
      · simp only [if_pos stated] at inside ⊢
        exact writeState_chunks store _ request.state inside
      · simp only [if_neg stated] at inside ⊢
        exact represents.chunks index inside

theorem readSnapshot_answers (asked : Call.readSnapshot value ∈ calls)
    (ok : kernel.readSnapshot store value = .ok (answer, writes)) :
    cell.Answers kernel (.readSnapshot value) (.ok answer) cell ∧ writes = [] := by
  simp only [Kernel.readSnapshot, bind_ok] at ok
  obtain ⟨input, opened, objectId, parsed, ok⟩ := ok
  obtain ⟨metadata, anchored⟩ := represents.anchor
  obtain ⟨-, -, answered⟩ := transaction_ok anchored free asked (by simp [Call.objectIds, opened, parsed]) ok
  simp only [steps_ok, anchored.read_state represents.chunks, anchored.ref_eq, Except.ok.injEq] at answered
  obtain ⟨_, rfl, rfl, rfl⟩ := answered
  exact ⟨.snapshot, rfl⟩

theorem lookupReceipt_answers (asked : Call.lookupReceipt value ∈ calls)
    (ok : kernel.lookupReceipt store value = .ok (answer, writes)) :
    cell.Answers kernel (.lookupReceipt value) (.ok answer) cell ∧ writes = [] := by
  rw [Kernel.lookupReceipt, bind_ok] at ok
  obtain ⟨request, parsed, ok⟩ := ok
  obtain ⟨metadata, anchored⟩ := represents.anchor
  have command := asked_of_lookup asked parsed
  obtain ⟨-, -, answered⟩ := transaction_ok anchored free asked (by simp [Call.objectIds, parsed]) ok
  simp only [steps_ok, represents.read_receipt anchored command, anchored.ref_eq, Except.ok.injEq] at answered
  obtain ⟨current, _, rfl, rfl, rfl⟩ := answered
  rw [current]
  exact ⟨.receipt current, rfl⟩

/-- A caller of the object itself gets its snapshot. -/
theorem readSnapshot_returns (asked : Call.readSnapshot value ∈ calls) {input : String → Value}
    {objectId physicalId : String} (opened : record value ["objectId"] = .ok input)
    (parsed : identifier kernel.normalizer (input "objectId") = .ok objectId)
    (routed : kernel.route objectId = .ok physicalId) :
    kernel.readSnapshot store value = .ok (.snapshot (cell.ref kernel.digestBytes objectId) cell.state, []) := by
  obtain ⟨metadata, anchored⟩ := represents.anchor
  have names : objectId ∈ (Call.readSnapshot value).objectIds kernel := by simp [Call.objectIds, opened, parsed]
  obtain ⟨named, rfl, -⟩ := route_ok_iff.mp routed
  simp only [Kernel.readSnapshot, Kernel.transaction, opened, parsed, routed, ok_bind,
    anchored.read free asked names named, anchored.read_state represents.chunks, anchored.ref_eq]
  rfl

/-- A caller with the current snapshot gets the receipt. -/
theorem lookupReceipt_returns (asked : Call.lookupReceipt value ∈ calls) {request : ReceiptRequest}
    {physicalId : String} (parsed : parseReceiptRequest kernel.normalizer value = .ok request)
    (routed : kernel.route request.snapshot.objectId = .ok physicalId)
    (current : cell.ref kernel.digestBytes request.snapshot.objectId = request.snapshot) :
    kernel.lookupReceipt store value =
      .ok (.receipt request.snapshot request.commandId (cell.receipts request.commandId), []) := by
  obtain ⟨metadata, anchored⟩ := represents.anchor
  have names : request.snapshot.objectId ∈ (Call.lookupReceipt value).objectIds kernel := by simp [Call.objectIds, parsed]
  have command := asked_of_lookup asked parsed
  obtain ⟨named, rfl, -⟩ := route_ok_iff.mp routed
  simp only [Kernel.lookupReceipt, Kernel.transaction, parsed, routed, ok_bind, anchored.read free asked names named,
    anchored.ref_eq, current, represents.read_receipt anchored command, refuseIf, ne_eq, not_true_eq_false, if_false]
  rfl

/-- No call finds corruption in a storage that represents a cell. -/
theorem outcome_uncorrupted {call : Call} (asked : call ∈ calls) : Uncorrupted (kernel.outcome store call) := by
  obtain ⟨metadata, anchored⟩ := represents.anchor
  cases call with
  | readSnapshot value =>
    refine uncorrupted_bind.mpr ⟨by simp, fun input opened => uncorrupted_bind.mpr ⟨by simp, fun objectId parsed =>
      transaction_uncorrupted anchored free asked (by simp [Call.objectIds, opened, parsed]) ?_⟩⟩
    simp [anchored.read_state represents.chunks]
  | lookupReceipt value =>
    refine uncorrupted_bind.mpr ⟨by simp, fun request parsed =>
      transaction_uncorrupted anchored free asked (by simp [Call.objectIds, parsed]) ?_⟩
    simp [represents.read_receipt anchored (asked_of_lookup asked parsed)]
  | compareAndCommit value =>
    refine uncorrupted_bind.mpr ⟨by simp, fun request parsed =>
      transaction_uncorrupted anchored free asked (by simp [Call.objectIds, parsed]) ?_⟩
    have pending (write : ReceiptWrite) (member : write ∈ request.receipts) :
        Uncorrupted (kernel.pendingReceipt store metadata.isSome write) :=
      pendingReceipt_uncorrupted represents anchored (asks_of_commit asked parsed write member)
    have written (entry : ReceiptWrite × Bytes) : Uncorrupted (kernel.writeReceipt entry) := by
      simp [Kernel.writeReceipt]
    simp [anchored.read_state represents.chunks, uncorrupted_mapM pending, written]
  | confirmBarrier value =>
    refine uncorrupted_bind.mpr ⟨by simp, fun request parsed =>
      transaction_uncorrupted anchored free asked (by simp [Call.objectIds, parsed]) ?_⟩
    simp

/-- Every call answers as the cell, and its writes represent the cell after it. -/
theorem execute_answers {call : Call} (asked : call ∈ calls) :
    ∃ next, cell.Answers kernel call (kernel.execute store call).1 next ∧
      kernel.Represents calls (kernel.execute store call).2 next := by
  have sound := outcome_uncorrupted represents free asked
  unfold Kernel.execute
  split
  case h_1 answer writes ok =>
    cases call with
    | readSnapshot value =>
      obtain ⟨answers, rfl⟩ := readSnapshot_answers represents free asked ok
      exact ⟨cell, answers, represents⟩
    | lookupReceipt value =>
      obtain ⟨answers, rfl⟩ := lookupReceipt_answers represents free asked ok
      exact ⟨cell, answers, represents⟩
    | compareAndCommit value => exact compareAndCommit_answers represents free asked ok
    | confirmBarrier value => exact ⟨cell, confirmBarrier_answers represents free asked ok⟩
  case h_2 code refused =>
    exact ⟨cell, .refused fun same => sound (by rw [refused, same]), represents⟩

end

end Steps

end Circulusd.NativeStorage
