import Circulusd.Host.Contracts
import Circulusd.Library.Checked
import Circulusd.Library.Store

/-
The chunked storage of one aggregate: its headers, its record and its payload blobs.
-/

namespace Circulusd.Host

open Protocol Checked KeyValue

variable (storage : Storage) (previousManifest : Option StateManifest) (manifest : StateManifest)
  (history : Option SessionHistoryIndexRoot) (provided : List (Digest × Bytes)) (digest : Digest)

def recordFormatVersion : Nat := 2
def chunkBytes : Nat := 1048576
def maxRecordBytes : Nat := 4 * 1048576
def maxBlobBytes : Nat := maxRecordBytes
def maxTransactionMutatedKeys : Nat := 128
def maxCellNameBytes : Nat := 2048
def maxPhysicalIdBytes : Nat := 256

/-- `Math.ceil(encodedBytes / CHUNK_BYTES)`. -/
def chunkCountOf (encodedBytes : Nat) : Nat := (encodedBytes + chunkBytes - 1) / chunkBytes

def maxChunks : Nat := chunkCountOf maxRecordBytes
def maxBlobChunks : Nat := chunkCountOf maxBlobBytes

structure NodePointer where
  nodeId : Nat
  digest : Digest
deriving DecidableEq

structure SessionHistoryIndexRoot where
  version : Nat
  root : Option NodePointer
  nextNodeId : Nat
  size : Nat
deriving DecidableEq

/-- A blob is named by its content digest and has an exact length. -/
structure BlobRecordRef where
  digest : Digest
  encodedBytes : Nat
deriving DecidableEq

/-- The identity that the record and both headers share. -/
structure StateAnchor where
  formatVersion : Nat
  aggregateKind : String
  initializationDigest : Digest
  cellName : Option String
  physicalCellId : Option String
deriving DecidableEq

structure StateRecord (State : Type) extends StateAnchor where
  state : State
deriving DecidableEq

structure ManifestHeader extends StateAnchor where
  generationDigest : Digest
  chunkCount : Nat
  encodedBytes : Nat
  sessionHistory : Option SessionHistoryIndexRoot
deriving DecidableEq

/-- Legacy manifests have no `referencedBlobs` field. -/
structure StoredManifest extends ManifestHeader where
  referencedBlobs : Option (List BlobRecordRef)
deriving DecidableEq

structure StateManifest extends ManifestHeader where
  referencedBlobs : List BlobRecordRef
deriving DecidableEq

structure StoredStateRecord (State : Type) where
  record : StateRecord State
  manifest : StateManifest
deriving DecidableEq

inductive StorageKey where
  | manifest
  | anchor
  | chunk (generationDigest : Digest) (index : Nat)
  | blobChunk (digest : Digest) (index : Nat)
  /-- The rows and index nodes of the archived session history. -/
  | history (name : String)
deriving DecidableEq

inductive StorageValue where
  | manifest (value : StoredManifest)
  | anchor (value : StateAnchor)
  | bytes (value : Bytes)
deriving DecidableEq

abbrev Storage := Store StorageKey StorageValue
abbrev StorageMutation := Mutation StorageKey StorageValue

structure CellRoutePort where
  idFromName : String → Option String
  currentId : String

/-- The aggregate, its codec and the history index are parameters of the storage. -/
structure ChunkedAggregateStorage (State : Type) where
  aggregateKind : String
  validateState : State → Bool
  migrateState : Option (State → Option (AggregateMigrationResult State))
  route : Option CellRoutePort
  hasHistory : State → Bool
  encodeRecord : StateRecord State → Option Bytes
  decodeRecord : Bytes → Option (StateRecord State)
  digestBytes : Bytes → Digest
  /-- The index lookup reads only the rows of the history. -/
  lookupBlob : (String → Option StorageValue) → SessionHistoryIndexRoot → Digest → Hosted (Option BlobRecordRef)

def hostErrorIf (condition : Prop) [Decidable condition] (code : HostContractErrorCode) (message : String) :
    Hosted Unit :=
  refuseIf condition ⟨code, message⟩

@[simp]
theorem hostErrorIf_ok_iff (condition : Prop) [Decidable condition] (code : HostContractErrorCode)
    (message : String) (result : Unit) : hostErrorIf condition code message = .ok result ↔ ¬ condition :=
  refuseIf_ok ..

def NodePointer.Valid (pointer : NodePointer) (nextNodeId : Nat) : Prop :=
  1 ≤ pointer.nodeId ∧ pointer.nodeId ≤ maxSafeInteger ∧ pointer.nodeId < nextNodeId
deriving Decidable

/-- An empty index has no root node and has allocated no node. -/
def SessionHistoryIndexRoot.Valid (root : SessionHistoryIndexRoot) : Prop :=
  root.version = 1 ∧ root.size ≤ maxSafeInteger ∧ 1 ≤ root.nextNodeId ∧ root.nextNodeId ≤ maxSafeInteger ∧
    (root.root = none → root.size = 0 ∧ root.nextNodeId = 1) ∧
    ∀ pointer ∈ root.root, root.size ≠ 0 ∧ pointer.Valid root.nextNodeId
deriving Decidable

def validateSessionHistoryIndexRoot (root : SessionHistoryIndexRoot) : Hosted Unit :=
  hostErrorIf (¬ root.Valid) .corruptState "Session history index: invalid root anchor"

/-- An archived state needs a nonempty index. -/
def assertSessionHistoryAnchor (hasHistory : Bool) (root : Option SessionHistoryIndexRoot) : Hosted Unit :=
  hostErrorIf (hasHistory = true ∧ ∀ present ∈ root, present.root = none ∨ present.size = 0) .corruptState
    "Session history: archived state lacks its nonempty index root"

def BlobRecordRef.Bounded (reference : BlobRecordRef) : Prop :=
  1 ≤ reference.encodedBytes ∧ reference.encodedBytes ≤ maxBlobBytes
deriving Decidable

/-- Legacy manifests reference no blobs; digests are unique. -/
def parseReferencedBlobs (stored : Option (List BlobRecordRef)) : Hosted (List BlobRecordRef) := do
  let references := stored.getD []
  forEachPrior (fun prior reference =>
    hostErrorIf (¬ reference.Bounded ∨ prior.any (·.digest = reference.digest) = true) .corruptState
      "stored manifest blob reference is invalid") references
  return references

def StorageValue.bytes? : StorageValue → Option Bytes
  | .bytes value => some value
  | _ => none

/-- The loop over chunk indexes; each chunk has the length that its offset leaves. -/
def readChunks (chunk : Nat → Option StorageValue) (encodedBytes : Nat) (label : String) :
    (remaining index offset : Nat) → Hosted Bytes
  | 0, _, _ => .ok []
  | remaining + 1, index, offset => do
    let bytes ← require ((chunk index).bind StorageValue.bytes?) ⟨.corruptState, label ++ " chunk is invalid"⟩
    hostErrorIf (bytes.length ≠ min chunkBytes (encodedBytes - offset)) .corruptState
      (label ++ " chunk length is invalid")
    let rest ← readChunks chunk encodedBytes label remaining (index + 1) (offset + bytes.length)
    return bytes ++ rest

def readChunkedBytes (chunk : Nat → Option StorageValue) (encodedBytes : Nat) (label : String) : Hosted Bytes :=
  readChunks chunk encodedBytes label (chunkCountOf encodedBytes) 0 0

/-- `slice(start, min(length, start + CHUNK_BYTES))` for each index. -/
def chunkMutations (key : Nat → StorageKey) (bytes : Bytes) : List StorageMutation :=
  (List.range (chunkCountOf bytes.length)).map fun index =>
    .put (key index) (.bytes ((bytes.drop (index * chunkBytes)).take chunkBytes))

def deletions (key : Nat → StorageKey) (count : Nat) : List StorageMutation :=
  (List.range count).map fun index => .delete (key index)

/-- The digests that the stored manifest lists. -/
def Storage.referencedDigests : List Digest :=
  match storage .manifest with
  | some (.manifest stored) => (stored.referencedBlobs.getD []).map (·.digest)
  | _ => []

def Storage.historyRows : String → Option StorageValue :=
  fun name => storage (.history name)

structure BlobCreation where
  digest : Digest
  bytes : Bytes
deriving DecidableEq

/-- The new reference list and the blobs that a write creates and deletes. -/
structure BlobMutations where
  referencedEntries : List BlobRecordRef
  blobsToCreate : List BlobCreation
  blobsToDelete : List BlobRecordRef
deriving DecidableEq

namespace ChunkedAggregateStorage

variable {State : Type} (host : ChunkedAggregateStorage State)

/-- An archive pin names the digest that was asked for. -/
def readArchivedSessionBlobReference (root : SessionHistoryIndexRoot) (digest : Digest) :
    Hosted (Option BlobRecordRef) := do
  let reference ← host.lookupBlob storage.historyRows root digest
  hostErrorIf (∃ present ∈ reference, present.digest ≠ digest ∨ ¬ present.Bounded) .corruptState
    "Session history: archive blob pin is invalid"
  return reference

/-- Without a history root nothing is archived. -/
def archivedReference : Hosted (Option BlobRecordRef) :=
  match history with
  | none => .ok none
  | some root => host.readArchivedSessionBlobReference storage root digest

/-- Bytes that only the archive owns are stored without a hot reference. -/
def storedReferences (newReferences : List Digest) : Hosted (List Digest) :=
  provided.foldlM (fun stored entry => do
    if entry.1 ∈ newReferences then return stored
    else do
      let archived ← host.archivedReference storage history entry.1
      hostErrorIf (∀ present ∈ archived, present.encodedBytes ≠ entry.2.length) .invalidAggregateOutput
        "aggregate provided an unreferenced blob"
      return stored ++ [entry.1]) newReferences

/-- New bytes must match the digest that names them. -/
def checkProvided (bytes : Bytes) : Hosted Unit := do
  hostErrorIf (bytes.length < 1 ∨ maxBlobBytes < bytes.length) .invalidAggregateOutput
    ("provided blob exceeds the " ++ toString maxBlobBytes ++ "-byte host limit or is empty")
  hostErrorIf (host.digestBytes bytes ≠ digest) .invalidAggregateOutput "provided blob digest does not match its bytes"
  hostErrorIf (maxBlobChunks < chunkCountOf bytes.length) .invalidAggregateOutput
    "provided blob exceeds the maximum blob chunk count"

/-- One digest of the new set: carried over, archived, or created from provided bytes. -/
def resolveReference
    (previousEntries : List BlobRecordRef) (provided : List (Digest × Bytes)) (newReferences : List Digest)
    (digest : Digest) : Hosted (Option BlobRecordRef × Option BlobCreation) :=
  match previousEntries.find? (·.digest = digest) with
  | some carried => .ok (some carried, none)
  | none =>
    match provided.lookup digest with
    | none => do
      let archived ← require (← host.archivedReference storage history digest)
        ⟨.invalidAggregateOutput, "aggregate referenced a blob whose bytes were not provided"⟩
      return (some archived, none)
    | some bytes => do
      host.checkProvided digest bytes
      return (if digest ∈ newReferences then some ⟨digest, bytes.length⟩ else none, some ⟨digest, bytes⟩)

/-- A dropped reference is deleted unless the archive pins it. -/
def dropReference (newReferences : List Digest) (entry : BlobRecordRef) : Hosted (Option BlobRecordRef) :=
  if entry.digest ∈ newReferences then .ok none
  else do
    match ← host.archivedReference storage history entry.digest with
    | none => return some entry
    | some archived =>
      hostErrorIf (archived.encodedBytes ≠ entry.encodedBytes) .corruptState
        "archive blob pin length disagrees with hot reference"
      return none

def resolveBlobMutations (referencedBlobs : List Digest)
    (history : Option SessionHistoryIndexRoot) : Hosted BlobMutations := do
  let previousEntries := (previousManifest.map (·.referencedBlobs)).getD []
  let newReferences := referencedBlobs.eraseDups
  let stored ← host.storedReferences storage history provided newReferences
  let resolved ← stored.mapM (host.resolveReference storage history previousEntries provided newReferences)
  let blobsToCreate := resolved.filterMap (·.2)
  hostErrorIf (provided.length ≠ blobsToCreate.length) .invalidAggregateOutput
    "aggregate provided a blob that is not newly referenced"
  let dropped ← previousEntries.mapM (host.dropReference storage history newReferences)
  return {
    referencedEntries := resolved.filterMap (·.1)
    blobsToCreate := blobsToCreate
    blobsToDelete := dropped.filterMap id }

/-- The puts and deletes of a write, in the order of the transaction. -/
def recordMutations (encoded : Bytes) (blobs : BlobMutations) : List StorageMutation :=
  blobs.blobsToCreate.flatMap (fun blob => chunkMutations (.blobChunk blob.digest) blob.bytes) ++
  chunkMutations (.chunk manifest.generationDigest) encoded ++
  (if previousManifest.isNone then [.put .anchor (.anchor manifest.toStateAnchor)] else []) ++
  [.put .manifest (.manifest ⟨manifest.toManifestHeader, some manifest.referencedBlobs⟩)] ++
  (previousManifest.elim [] fun previous =>
    if previous.generationDigest = manifest.generationDigest then []
    else deletions (.chunk previous.generationDigest) previous.chunkCount) ++
  blobs.blobsToDelete.flatMap (fun blob => deletions (.blobChunk blob.digest) (chunkCountOf blob.encodedBytes))

/-- Every write of the transaction counts against its limit. -/
def mutatedKeys (generationDigest : Digest) (chunkCount : Nat) (blobs : BlobMutations) : Nat :=
  1 + (if previousManifest.isNone then 1 else 0) + chunkCount + (previousManifest.elim 0 fun previous =>
      if previous.generationDigest = generationDigest then 0 else previous.chunkCount) +
    (blobs.blobsToCreate.map (fun blob => chunkCountOf blob.bytes.length)).sum +
    (blobs.blobsToDelete.map (fun blob => chunkCountOf blob.encodedBytes)).sum

def writeRecord (record : StateRecord State) (previousManifest : Option StateManifest)
    (blobs : Option (List (Digest × Bytes))) (referencedBlobs : Option (List Digest))
    (sessionHistory : Option SessionHistoryIndexRoot) : Hosted (StateManifest × Storage) := do
  let encoded ← require (host.encodeRecord record) ⟨.invalidAggregateOutput,
    "aggregate record exceeds the " ++ toString maxRecordBytes ++ "-byte host limit or is not canonical"⟩
  let generationDigest := host.digestBytes encoded
  let history := sessionHistory.or (previousManifest.bind (·.sessionHistory))
  let mutations ← host.resolveBlobMutations storage previousManifest (blobs.getD []) (referencedBlobs.getD []) history
  let chunkCount := chunkCountOf encoded.length
  hostErrorIf (chunkCount < 1 ∨ maxChunks < chunkCount ∨
      maxTransactionMutatedKeys < mutatedKeys previousManifest generationDigest chunkCount mutations)
    .invalidAggregateOutput "aggregate chunk count exceeds the atomic transaction limit"
  forEach validateSessionHistoryIndexRoot history.toList
  let manifest : StateManifest := {
    formatVersion := recordFormatVersion
    aggregateKind := host.aggregateKind
    initializationDigest := record.initializationDigest
    cellName := record.cellName
    physicalCellId := record.physicalCellId
    generationDigest := generationDigest
    chunkCount := chunkCount
    encodedBytes := encoded.length
    sessionHistory := history
    referencedBlobs := mutations.referencedEntries }
  return (manifest, writeAll storage (recordMutations previousManifest manifest encoded mutations))

def ValidRouteMetadata (cellName physicalCellId : Option String) : Prop :=
  (host.route.isNone = true ∧ cellName = none ∧ physicalCellId = none) ∨
    (host.route.isSome = true ∧ (∃ name ∈ cellName, name ≠ "" ∧ name.utf8ByteSize ≤ maxCellNameBytes) ∧
      ∃ id ∈ physicalCellId, id ≠ "" ∧ id.utf8ByteSize ≤ maxPhysicalIdBytes)
deriving Decidable

def assertRoute (route : CellRoutePort) (cellName : String) : Hosted String := do
  hostErrorIf (maxCellNameBytes < cellName.utf8ByteSize) .cellIdMismatch "logical cell name is invalid"
  hostErrorIf (route.idFromName cellName ≠ some route.currentId) .cellIdMismatch
    "logical aggregate is not hosted by its routed physical cell"
  hostErrorIf (route.currentId = "" ∨ maxPhysicalIdBytes < route.currentId.utf8ByteSize) .cellIdMismatch
    "physical cell ID is invalid"
  return route.currentId

def assertStoredRoute (anchor : StateAnchor) : Hosted Unit := do
  hostErrorIf (¬ host.ValidRouteMetadata anchor.cellName anchor.physicalCellId) .corruptState
    "stored cell route is invalid"
  match host.route with
  | none => return ()
  | some route =>
    let current ← assertRoute route (anchor.cellName.getD "")
    hostErrorIf (some current ≠ anchor.physicalCellId) .cellIdMismatch
      "stored aggregate is bound to a different physical cell"

def manifestRecord (value : StorageValue) : Hosted StoredManifest :=
  match value with
  | .manifest stored => .ok stored
  | _ => .error ⟨.corruptState, "stored manifest shape is invalid"⟩

def anchorRecord (value : StorageValue) : Hosted StateAnchor :=
  match value with
  | .anchor stored => .ok stored
  | _ => .error ⟨.corruptState, "stored anchor shape is invalid"⟩

/-- Both headers must be valid and must agree. -/
def readHeaders (storedManifest storedAnchor : StorageValue) : Hosted StateManifest := do
  let anchor ← anchorRecord storedAnchor
  hostErrorIf (anchor.formatVersion ≠ recordFormatVersion ∨ anchor.aggregateKind ≠ host.aggregateKind ∨
      ¬ host.ValidRouteMetadata anchor.cellName anchor.physicalCellId)
    .corruptState "stored anchor metadata is invalid"
  let candidate ← manifestRecord storedManifest
  hostErrorIf (candidate.formatVersion ≠ recordFormatVersion ∨ candidate.aggregateKind ≠ host.aggregateKind ∨
      candidate.chunkCount < 1 ∨ maxChunks < candidate.chunkCount ∨ candidate.encodedBytes < 1 ∨
      maxRecordBytes < candidate.encodedBytes ∨ candidate.chunkCount ≠ chunkCountOf candidate.encodedBytes ∨
      ¬ host.ValidRouteMetadata candidate.cellName candidate.physicalCellId)
    .corruptState "stored manifest metadata is invalid"
  let referencedBlobs ← parseReferencedBlobs candidate.referencedBlobs
  forEach validateSessionHistoryIndexRoot candidate.sessionHistory.toList
  hostErrorIf (candidate.sessionHistory.isSome = true ∧ candidate.aggregateKind ≠ "session") .corruptState
    "history root belongs to a non-Session aggregate"
  hostErrorIf (candidate.initializationDigest ≠ anchor.initializationDigest ∨
      candidate.cellName ≠ anchor.cellName ∨ candidate.physicalCellId ≠ anchor.physicalCellId)
    .corruptState "stored aggregate headers disagree"
  return ⟨candidate.toManifestHeader, referencedBlobs⟩

/-- The record of the current generation, as it was stored. -/
def readStoredRecord : Hosted (StateRecord State) := do
  let encoded ← readChunkedBytes (fun index => storage (.chunk manifest.generationDigest index))
    manifest.encodedBytes "stored aggregate"
  hostErrorIf (host.digestBytes encoded ≠ manifest.generationDigest) .corruptState "stored aggregate digest is invalid"
  let record ← require (host.decodeRecord encoded) ⟨.corruptState, "stored aggregate encoding is invalid"⟩
  hostErrorIf (record.formatVersion ≠ recordFormatVersion ∨ record.aggregateKind ≠ host.aggregateKind ∨
      record.initializationDigest ≠ manifest.initializationDigest ∨ record.cellName ≠ manifest.cellName ∨
      record.physicalCellId ≠ manifest.physicalCellId)
    .corruptState "stored aggregate metadata is invalid"
  host.assertStoredRoute record.toStateAnchor
  return record

/-- The record that the current headers name. -/
def storedRecord : Hosted (StateManifest × StateRecord State) :=
  match storage .manifest, storage .anchor with
  | some storedManifest, some storedAnchor => do
    let manifest ← host.readHeaders storedManifest storedAnchor
    let record ← host.readStoredRecord storage manifest
    return (manifest, record)
  | _, _ => .error ⟨.corruptState, "stored aggregate durable header is incomplete"⟩

/-- A storage without a migration keeps the stored state. -/
def migrate (state : State) : Option (AggregateMigrationResult State) :=
  match host.migrateState with
  | none => some { state := state, migrated := false, blobs := none, referencedBlobs := none }
  | some migration => migration state

/-- Every failure while the state is migrated or validated is one host error. -/
def readState (state : State) (manifest : StateManifest) : Hosted (AggregateMigrationResult State) := do
  let failure : HostContractError := ⟨.corruptState, "stored aggregate state is invalid"⟩
  let migration ← require (host.migrate state) failure
  refuseIf (host.validateState migration.state = false) failure
  refuseIf (host.aggregateKind = "session" ∧
    (assertSessionHistoryAnchor (host.hasHistory migration.state) manifest.sessionHistory).isOk = false) failure
  return migration

/-- A migrating read rewrites the record inside the same transaction. -/
def read : Hosted (Option (StoredStateRecord State) × Storage) :=
  if storage .manifest = none ∧ storage .anchor = none then .ok (none, storage)
  else do
    let (manifest, stored) ← host.storedRecord storage
    let migration ← host.readState stored.state manifest
    let record : StateRecord State := { stored with state := migration.state }
    if migration.migrated = true then do
      let (rewritten, after) ← host.writeRecord storage record (some manifest) migration.blobs
        migration.referencedBlobs none
      return (some ⟨record, rewritten⟩, after)
    else return (some ⟨record, manifest⟩, storage)

/-- The hot manifest is asked first and the archive second. -/
def blobReference (candidate : StoredManifest) (digest : Digest) : Hosted (Option BlobRecordRef) := do
  let references ← parseReferencedBlobs candidate.referencedBlobs
  match references.find? (·.digest = digest), candidate.sessionHistory with
  | some reference, _ => return some reference
  | none, none => return none
  | none, some root => do
    hostErrorIf (candidate.aggregateKind ≠ "session") .corruptState "history root belongs to a non-Session aggregate"
    validateSessionHistoryIndexRoot root
    host.readArchivedSessionBlobReference storage root digest

/-- Stored bytes are digested again before they are returned. -/
def readReferencedBlob (chunk : Nat → Option StorageValue) (digest : Digest) :
    Option BlobRecordRef → Hosted (Option Bytes)
  | none => .ok none
  | some reference => do
    let bytes ← readChunkedBytes chunk reference.encodedBytes "stored blob"
    hostErrorIf (host.digestBytes bytes ≠ digest) .corruptState "stored blob digest is invalid"
    return some bytes

def readBlob : Hosted (Option Bytes) :=
  match storage .manifest with
  | none => .ok none
  | some stored => do
    let candidate ← manifestRecord stored
    let reference ← host.blobReference storage candidate digest
    host.readReferencedBlob (fun index => storage (.blobChunk digest index)) digest reference

end ChunkedAggregateStorage

end Circulusd.Host
