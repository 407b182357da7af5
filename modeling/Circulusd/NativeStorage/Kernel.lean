import Circulusd.Library.Chunks
import Circulusd.Library.Store
import Circulusd.NativeStorage.Codec

/-
The native storage kernel over the storage of one object. A call reads the storage in one transaction and
gives its answer with the writes of that transaction.
-/

namespace Circulusd.NativeStorage

open Canonical Checked KeyValue Protocol

variable (store : Storage) (commandId : String) (objectId : String) (value : Value)

/-- One value of the storage holds at most this much. -/
def chunkBytes : Nat := 1 <<< 20

def receiptOverhead : Nat := 32768

/-- The anchor of an object: what its chunks must add up to. -/
structure Metadata where
  objectId : String
  physicalId : String
  revision : Nat
  stateDigest : String
  stateBytes : Nat
  stateChunks : Nat
  barrierSerial : Nat
  barrierMarker : Bytes
deriving DecidableEq

/-- The anchor of a receipt. -/
structure ReceiptManifest where
  commandId : String
  digest : String
  encodedBytes : Nat
  chunks : Nat
deriving DecidableEq

def Metadata.toValue (metadata : Metadata) : Value :=
  .map [("formatVersion", .integer 1), ("objectId", .text metadata.objectId),
    ("physicalId", .text metadata.physicalId), ("revision", .integer metadata.revision),
    ("stateDigest", .text metadata.stateDigest), ("stateBytes", .integer metadata.stateBytes),
    ("stateChunks", .integer metadata.stateChunks), ("barrierSerial", .integer metadata.barrierSerial),
    ("barrierMarker", .bytes metadata.barrierMarker)]

def ReceiptManifest.toValue (manifest : ReceiptManifest) : Value :=
  .map [("commandId", .text manifest.commandId), ("digest", .text manifest.digest),
    ("encodedBytes", .integer manifest.encodedBytes), ("chunks", .integer manifest.chunks)]

/-- The keys of the storage. A receipt is kept under the digest of its command id. -/
inductive StorageKey where
  | metadata
  | state (index : Nat)
  | manifest (digest : String)
  | receipt (digest : String) (index : Nat)
deriving DecidableEq

abbrev Storage := Store StorageKey Bytes

abbrev Write := Mutation StorageKey Bytes

/-- The namespace gives the id of an object name; the kernel runs in the object of one id. -/
structure Kernel extends Runtime where
  bounds : Bounds
  idFromName : List Value → String
  id : String

/-- The name is the JSON text of this array. -/
def nativeStorageObjectName : List Value :=
  [.text "circulusd.native-storage.cell", .integer 1, .text objectId]

/-- What a caller sees of an object. -/
def ref (metadata : Option Metadata) : SnapshotRef :=
  match metadata with
  | none => ⟨objectId, false, 0, emptyDigest⟩
  | some metadata => ⟨objectId, true, metadata.revision, metadata.stateDigest⟩

def isText (text : String) : Bool :=
  match value with
  | .text value => value == text
  | _ => false

def isInteger (number : Int) : Bool :=
  match value with
  | .integer value => value == number
  | _ => false

/-- Every failure of a parser of stored bytes is corruption. -/
def orCorrupt {α : Type} (result : Except ErrorCode α) : Except ErrorCode α :=
  match result with
  | .ok value => .ok value
  | .error _ => .error .corruptState

namespace Kernel

variable (kernel : Kernel)

/-- A kernel serves only the object that is routed to it. -/
def route : Except ErrorCode String := do
  refuseIf (kernel.idFromName (nativeStorageObjectName objectId) ≠ kernel.id) .invalidArgument
  identifier kernel.normalizer (.text kernel.id)

def parseMetadata (objectId physicalId : String) (encoded : Bytes) : Except ErrorCode Metadata := do
  let encoded ← bytes (.bytes encoded) 4096
  let decoded ← decodeWire kernel.normalizer encoded maximumBounds
  let value ← record decoded ["formatVersion", "objectId", "physicalId", "revision", "stateDigest", "stateBytes",
    "stateChunks", "barrierSerial", "barrierMarker"]
  let current ← snapshotRef kernel.normalizer
    (.map [("objectId", value "objectId"), ("exists", .bool true), ("revision", value "revision"),
      ("stateDigest", value "stateDigest")])
  let stateBytes ← revision (value "stateBytes") 0
  let stateChunks ← revision (value "stateChunks") 0
  let barrierSerial ← revision (value "barrierSerial") 0
  let barrierMarker ← bytes (value "barrierMarker") 32
  refuseIf (isInteger (value "formatVersion") 1 = false ∨ current.objectId ≠ objectId ∨
      isText (value "physicalId") physicalId = false ∨ kernel.bounds.maxStateBytes < stateBytes ∨
      stateChunks ≠ Chunks.count chunkBytes stateBytes ∨
      barrierMarker.length ≠ if barrierSerial = 0 then 0 else 32) .corruptState
  pure { objectId, physicalId, revision := current.revision, stateDigest := current.stateDigest, stateBytes,
         stateChunks, barrierSerial, barrierMarker }

/-- An object that was never written has none. -/
def metadata (store : Storage) (objectId physicalId : String) : Except ErrorCode (Option Metadata) :=
  match store .metadata with
  | none => .ok none
  | some encoded => some <$> orCorrupt (kernel.parseMetadata objectId physicalId encoded)

/-- Callers ask for as many chunks as the length has. -/
def readChunks (key : Nat → StorageKey) (count length : Nat) : Except ErrorCode Bytes := do
  let chunks ← (List.range count).mapM fun index => do
    let value ← require (store (key index)) ErrorCode.corruptState
    refuseIf (value.length ≠ min chunkBytes (length - index * chunkBytes)) .corruptState
    pure value
  pure chunks.flatten

/-- The chunks of the state, checked by its digest. -/
def stateBytes (store : Storage) (metadata : Option Metadata) : Except ErrorCode Bytes :=
  match metadata with
  | none => .ok []
  | some metadata => do
    let value ← readChunks store .state metadata.stateChunks metadata.stateBytes
    refuseIf (kernel.digestBytes value ≠ metadata.stateDigest) .corruptState
    pure value

/-- Receipts stand under a digest, so two command ids could collide. -/
def receiptPrefix : String :=
  kernel.digestBytes (utf8 commandId)

def receiptLimit : Nat :=
  min kernel.bounds.maxTransactionBytes
    (kernel.bounds.maxReceiptResponseBytes + kernel.bounds.maxCapabilityClaimBytes + receiptOverhead)

def parseReceipt (raw : Bytes) : Except ErrorCode StoredReceipt := do
  let raw ← bytes (.bytes raw) 4096
  let decoded ← decodeWire kernel.normalizer raw maximumBounds
  let value ← record decoded ["commandId", "digest", "encodedBytes", "chunks"]
  refuseIf (isText (value "commandId") commandId = false) .corruptState
  let encodedBytes ← revision (value "encodedBytes") 1
  let chunks ← revision (value "chunks") 1
  refuseIf (kernel.receiptLimit < encodedBytes ∨ chunks ≠ Chunks.count chunkBytes encodedBytes) .corruptState
  let payload ← readChunks store (.receipt (kernel.receiptPrefix commandId)) chunks encodedBytes
  refuseIf (isText (value "digest") (kernel.digestBytes payload) = false) .corruptState
  let decoded ← decodeWire kernel.normalizer payload kernel.bounds
  storedReceipt kernel.normalizer kernel.bounds decoded

/-- A receipt without an anchored object is corruption. -/
def readReceipt (anchored : Bool) : Except ErrorCode (Option StoredReceipt) :=
  match store (.manifest (kernel.receiptPrefix commandId)) with
  | none => .ok none
  | some raw => do
    refuseIf (anchored = false) .corruptState
    some <$> orCorrupt (kernel.parseReceipt store commandId raw)

def writeChunks (key : Nat → StorageKey) (value : Bytes) : List Write :=
  (List.range (Chunks.count chunkBytes value.length)).map fun index =>
    .put (key index) (Chunks.chunk chunkBytes index value)

inductive Answer where
  | snapshot (snapshot : SnapshotRef) (state : Bytes)
  | receipt (snapshot : SnapshotRef) (commandId : String) (receipt : Option StoredReceipt)
  | commit (snapshot : SnapshotRef) (requestDigest : String) (token : CommitToken)
  | barrier (token : CommitToken) (marker : Bytes) (observedRevision barrierSerial : Nat)
deriving DecidableEq

/-- An answer, and the writes of its transaction. -/
abbrev Outcome := Except ErrorCode (Answer × List Write)

/-- `transaction`: the metadata and the physical id are read before the callback. -/
def transaction (callback : Option Metadata → String → Outcome) :
    Outcome := do
  let physicalId ← kernel.route objectId
  let metadata ← kernel.metadata store objectId physicalId
  callback metadata physicalId

def readSnapshot : Outcome := do
  let input ← record value ["objectId"]
  let objectId ← identifier kernel.normalizer (input "objectId")
  kernel.transaction store objectId fun metadata _ => do
    let state ← kernel.stateBytes store metadata
    pure (.snapshot (ref objectId metadata) state, [])

def lookupReceipt : Outcome := do
  let input ← parseReceiptRequest kernel.normalizer value
  kernel.transaction store input.snapshot.objectId fun metadata _ => do
    let current := ref input.snapshot.objectId metadata
    refuseIf (current ≠ input.snapshot) .snapshotConflict
    let receipt ← kernel.readReceipt store input.commandId metadata.isSome
    pure (.receipt current input.commandId receipt, [])

/-- A receipt that is stored already must have the same bytes; another is pending. -/
def pendingReceipt (anchored : Bool) (write : ReceiptWrite) : Except ErrorCode (Option (ReceiptWrite × Bytes)) := do
  let existing ← kernel.readReceipt store write.commandId anchored
  let payload ← encodeWire kernel.normalizer write.receipt.toValue kernel.bounds
  match existing with
  | some existing => do
    let stored ← encodeWire kernel.normalizer existing.toValue kernel.bounds
    refuseIf (stored ≠ payload) .receiptConflict
    pure none
  | none => pure (some (write, payload))

def manifestOf (write : ReceiptWrite) (payload : Bytes) : ReceiptManifest where
  commandId := write.commandId
  digest := kernel.digestBytes payload
  encodedBytes := payload.length
  chunks := Chunks.count chunkBytes payload.length

def writeReceipt (pending : ReceiptWrite × Bytes) : Except ErrorCode (List Write) := do
  let manifest ← encodeWire kernel.normalizer (kernel.manifestOf pending.1 pending.2).toValue kernel.bounds
  let digest := kernel.receiptPrefix pending.1.commandId
  pure (writeChunks (.receipt digest) pending.2 ++ [.put (.manifest digest) manifest])

/-- The chunks of a longer state before are deleted. -/
def writeState (previous : Nat) (state : Bytes) : List Write :=
  let chunks := Chunks.count chunkBytes state.length
  writeChunks .state state ++ (List.range' chunks (previous - chunks)).map fun index => .delete (.state index)

/-- The snapshot must be current; the metadata is written last. -/
def compareAndCommit : Outcome := do
  let input ← kernel.parseCommitRequest kernel.bounds value
  kernel.transaction store input.snapshot.objectId fun metadata physicalId => do
    let current := ref input.snapshot.objectId metadata
    refuseIf (current ≠ input.snapshot) .snapshotConflict
    let oldState ← kernel.stateBytes store metadata
    let pending ← input.receipts.mapM (kernel.pendingReceipt store metadata.isSome)
    let nextState := if input.stateWritten then input.state else oldState
    let next : Metadata := {
      objectId := current.objectId
      physicalId
      revision := current.revision + 1
      stateDigest := if input.stateWritten then kernel.digestBytes nextState else current.stateDigest
      stateBytes := nextState.length
      stateChunks := Chunks.count chunkBytes nextState.length
      barrierSerial := (metadata.map Metadata.barrierSerial).getD 0
      barrierMarker := (metadata.map Metadata.barrierMarker).getD [] }
    let stateWrites :=
      if input.stateWritten then writeState ((metadata.map Metadata.stateChunks).getD 0) nextState else []
    let receiptWrites ← pending.reduceOption.mapM kernel.writeReceipt
    let encoded ← encodeWire kernel.normalizer next.toValue kernel.bounds
    pure (.commit (ref current.objectId (some next)) input.requestDigest ⟨current.objectId, next.revision⟩,
      stateWrites ++ receiptWrites.flatten ++ [.put .metadata encoded])

/-- The marker is kept under the next serial. -/
def confirmBarrier (store : Storage) (value : Value) : Outcome := do
  let input ← parseBarrierRequest kernel.normalizer value
  kernel.transaction store input.token.objectId fun metadata _ => do
    let metadata ← require metadata .invalidArgument
    refuseIf (metadata.revision < input.token.revision) .invalidArgument
    refuseIf (metadata.barrierSerial = maximumRevision) .unavailable
    let barrierSerial := metadata.barrierSerial + 1
    let encoded ← encodeWire kernel.normalizer
      ({ metadata with barrierSerial, barrierMarker := input.marker } : Metadata).toValue kernel.bounds
    pure (.barrier input.token input.marker metadata.revision barrierSerial, [.put .metadata encoded])

/-- The requests of the kernel, not parsed yet. -/
inductive Call where
  | readSnapshot (value : Value)
  | lookupReceipt (value : Value)
  | compareAndCommit (value : Value)
  | confirmBarrier (value : Value)

def outcome : Call → Outcome
  | .readSnapshot value => kernel.readSnapshot store value
  | .lookupReceipt value => kernel.lookupReceipt store value
  | .compareAndCommit value => kernel.compareAndCommit store value
  | .confirmBarrier value => kernel.confirmBarrier store value

/-- A transaction that fails writes nothing. -/
def execute (call : Call) : Except ErrorCode Answer × Storage :=
  match kernel.outcome store call with
  | .ok (answer, writes) => (.ok answer, writeAll store writes)
  | .error code => (.error code, store)

end Kernel

end Circulusd.NativeStorage
