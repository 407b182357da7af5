import Circulusd.Canonical.Wire

/-
The types and the codec of the native storage worker. A value of the runtime is a value of the canonical
encoding here.
-/

namespace Circulusd.NativeStorage

open Canonical Checked Platform Protocol

variable (runtime : Runtime) (normalizer : Normalizer) (bounds : Bounds) (value : Value)

def maximumRevision : Nat := Canonical.maxSafeInteger

inductive ErrorCode where
  | invalidArgument
  | snapshotConflict
  | receiptConflict
  | corruptState
  | unavailable
deriving DecidableEq, Repr

section Bounds

/-- A bound of the kernel lies between one and its maximum. -/
abbrev Limit (maximum : Nat) := { value : Nat // 1 ≤ value ∧ value ≤ maximum }

structure Bounds where
  maxStateBytes : Limit (16 <<< 20)
  maxReceiptResponseBytes : Limit (4 <<< 20)
  maxCapabilityClaims : Limit 64
  maxCapabilityClaimBytes : Limit (1 <<< 20)
  maxReceiptLookups : Limit 64
  maxReceiptWrites : Limit 64
  maxTransactionBytes : Limit (32 <<< 20)
deriving DecidableEq

def maximumBounds : Bounds where
  maxStateBytes := ⟨16 <<< 20, by decide⟩
  maxReceiptResponseBytes := ⟨4 <<< 20, by decide⟩
  maxCapabilityClaims := ⟨64, by decide⟩
  maxCapabilityClaimBytes := ⟨1 <<< 20, by decide⟩
  maxReceiptLookups := ⟨64, by decide⟩
  maxReceiptWrites := ⟨64, by decide⟩
  maxTransactionBytes := ⟨32 <<< 20, by decide⟩

end Bounds

section Records

/-- The field `present` is the field `exists` of the source. -/
structure SnapshotRef where
  objectId : String
  present : Bool
  revision : Nat
  stateDigest : String
deriving DecidableEq

structure CapabilityClaim where
  kind : String
  payload : Bytes
deriving DecidableEq

/-- The answer to a command, kept to give it again. -/
structure StoredReceipt where
  commandDigest : String
  response : Bytes
  capabilityClaims : List CapabilityClaim
deriving DecidableEq

structure ReceiptWrite where
  commandId : String
  receipt : StoredReceipt
deriving DecidableEq

/-- It names the revision that a commit made. -/
structure CommitToken where
  objectId : String
  revision : Nat
deriving DecidableEq

/-- What a commit asks for, without the digest of it. -/
structure CommitBody where
  snapshot : SnapshotRef
  stateWritten : Bool
  state : Bytes
  receipts : List ReceiptWrite
deriving DecidableEq

structure CommitRequest extends CommitBody where
  requestDigest : String
deriving DecidableEq

structure BarrierRequest where
  token : CommitToken
  marker : Bytes
deriving DecidableEq

structure ReceiptRequest where
  snapshot : SnapshotRef
  commandId : String
deriving DecidableEq

def SnapshotRef.toValue (snapshot : SnapshotRef) : Value :=
  .map [("objectId", .text snapshot.objectId), ("exists", .bool snapshot.present),
    ("revision", .integer snapshot.revision), ("stateDigest", .text snapshot.stateDigest)]

def CapabilityClaim.toValue (claim : CapabilityClaim) : Value :=
  .map [("kind", .text claim.kind), ("payload", .bytes claim.payload)]

def StoredReceipt.toValue (receipt : StoredReceipt) : Value :=
  .map [("commandDigest", .text receipt.commandDigest), ("response", .bytes receipt.response),
    ("capabilityClaims", .array (receipt.capabilityClaims.map CapabilityClaim.toValue))]

def ReceiptWrite.toValue (write : ReceiptWrite) : Value :=
  .map [("commandId", .text write.commandId), ("receipt", write.receipt.toValue)]

def CommitBody.toValue (body : CommitBody) : Value :=
  .map [("snapshot", body.snapshot.toValue), ("stateWritten", .bool body.stateWritten),
    ("state", .bytes body.state), ("receipts", .array (body.receipts.map ReceiptWrite.toValue))]

end Records

section Digests

/-- The digest of no bytes. -/
def emptyDigest : String := "sha256:e3b0c44298fc1c149afbf4c8996fb92427ae41e4649b934ca495991b7852b855"

def isLowerHex (character : Char) : Bool :=
  ('0' ≤ character && character ≤ '9') || ('a' ≤ character && character ≤ 'f')

/-- The pattern of a digest. -/
def isDigest (text : String) : Bool :=
  text.toList.take 7 == "sha256:".toList && (text.toList.drop 7).length == 64 && (text.toList.drop 7).all isLowerHex

/-- What the codec takes from the runtime. -/
structure Runtime where
  normalizer : Normalizer
  digestBytes : Bytes → String
  digest_isDigest : ∀ bytes, isDigest (digestBytes bytes) = true
  digest_nil : digestBytes [] = emptyDigest

end Digests

section Fields

def invalid {α : Type} : Except ErrorCode α := .error .invalidArgument

/-- A field that is not there reads as null. -/
def field (entries : List (String × Value)) (key : String) : Value :=
  (entries.lookup key).getD .null

/-- The value is a map with exactly these fields. -/
def record (fields : List String) : Except ErrorCode (String → Value) :=
  match value with
  | .map entries =>
    if entries.length = fields.length ∧ ∀ key ∈ fields, key ∈ entries.map Prod.fst then .ok (field entries)
    else invalid
  | _ => invalid

/-- A composed text of 1 to 256 bytes without controls. -/
def identifier : Except ErrorCode String :=
  match value with
  | .text value =>
    if value = "" ∨ normalizer.nfc value ≠ value ∨ value.toList.any isControl = true ∨ 256 < (utf8 value).length
    then invalid
    else .ok value
  | _ => invalid

def revision (minimum : Nat) : Except ErrorCode Nat :=
  match value with
  | .integer value =>
    if Canonical.maxSafeInteger < value.natAbs ∨ value < minimum then invalid else .ok value.toNat
  | _ => invalid

/-- Bytes up to a maximum. -/
def bytes (value : Value) (maximum : Nat) : Except ErrorCode Bytes :=
  match value with
  | .bytes value => if maximum < value.length then invalid else .ok value
  | _ => invalid

def boolean : Except ErrorCode Bool :=
  match value with
  | .bool value => .ok value
  | _ => invalid

def digest : Except ErrorCode String :=
  match value with
  | .text value => if isDigest value = true then .ok value else invalid
  | _ => invalid

def array (value : Value) (maximum : Nat) : Except ErrorCode (List Value) :=
  match value with
  | .array values => if maximum < values.length then invalid else .ok values
  | _ => invalid

end Fields

section Parsers

/-- An object exists exactly from revision one on. -/
def snapshotRef : Except ErrorCode SnapshotRef := do
  let ref ← record value ["objectId", "exists", "revision", "stateDigest"]
  let objectId ← identifier normalizer (ref "objectId")
  let rev ← revision (ref "revision") 0
  let present ← boolean (ref "exists")
  let stateDigest ← digest (ref "stateDigest")
  refuseIf (if present = true then rev = 0 else rev ≠ 0 ∨ stateDigest ≠ emptyDigest) .invalidArgument
  pure ⟨objectId, present, rev, stateDigest⟩

def commitToken : Except ErrorCode CommitToken := do
  let token ← record value ["objectId", "revision"]
  let objectId ← identifier normalizer (token "objectId")
  let rev ← revision (token "revision") 1
  pure ⟨objectId, rev⟩

/-- The claims of a receipt share one bound on their payloads. -/
def storedClaims (normalizer : Normalizer) (maximum : Nat) : Nat → List Value → Except ErrorCode (List CapabilityClaim)
  | _, [] => pure []
  | total, value :: rest => do
    let claim ← record value ["kind", "payload"]
    let kind ← identifier normalizer (claim "kind")
    let payload ← bytes (claim "payload") (maximum - total)
    let others ← storedClaims normalizer maximum (total + payload.length) rest
    pure (⟨kind, payload⟩ :: others)

def storedReceipt : Except ErrorCode StoredReceipt := do
  let receipt ← record value ["commandDigest", "response", "capabilityClaims"]
  let commandDigest ← digest (receipt "commandDigest")
  let claims ← array (receipt "capabilityClaims") bounds.maxCapabilityClaims
  let response ← bytes (receipt "response") bounds.maxReceiptResponseBytes
  let capabilityClaims ← storedClaims normalizer bounds.maxCapabilityClaimBytes 0 claims
  pure ⟨commandDigest, response, capabilityClaims⟩

def parseReceiptRequest : Except ErrorCode ReceiptRequest := do
  let request ← record value ["snapshot", "commandId"]
  let snapshot ← snapshotRef normalizer (request "snapshot")
  let commandId ← identifier normalizer (request "commandId")
  pure ⟨snapshot, commandId⟩

/-- The command ids ascend by their bytes; `previous` is empty before the first. -/
def receiptWrites (normalizer : Normalizer) (bounds : Bounds) :
    String → List Value → Except ErrorCode (List ReceiptWrite)
  | _, [] => pure []
  | previous, value :: rest => do
    let write ← record value ["commandId", "receipt"]
    let commandId ← identifier normalizer (write "commandId")
    refuseIf (previous ≠ "" ∧ ¬ utf8 previous < utf8 commandId) .invalidArgument
    let receipt ← storedReceipt normalizer bounds (write "receipt")
    let others ← receiptWrites normalizer bounds commandId rest
    pure (⟨commandId, receipt⟩ :: others)

/-- The bound on the bytes is the one on a transaction. -/
def wireLimits : WireLimits where
  maxDepth := 72
  maxItems := 100000
  maxBytes := bounds.maxTransactionBytes

def encodeWire (bounds : Bounds) : Except ErrorCode Bytes :=
  require (encodeCanonicalCbor normalizer (wireLimits bounds) value) .invalidArgument

def decodeWire (value : Bytes) (bounds : Bounds) : Except ErrorCode Value :=
  require (decodeCanonicalCbor normalizer (wireLimits bounds) value) .invalidArgument

/-- The digest of the value in an envelope of its domain. -/
def Runtime.structuredDigest (domain : String) (value : Value) : Except ErrorCode String := do
  let encoded ← encodeWire runtime.normalizer
    (.array [.text "circulusd.hash", .integer 1, .text domain, .integer 1, value]) maximumBounds
  pure (runtime.digestBytes encoded)

def Runtime.commitDigest (body : CommitBody) : Except ErrorCode String :=
  runtime.structuredDigest "circulusd.native.storage.commit" body.toValue

/-- The digest covers every other field of the request. -/
def Runtime.parseCommitRequest : Except ErrorCode CommitRequest := do
  let request ← record value ["snapshot", "stateWritten", "state", "receipts", "requestDigest"]
  let snapshot ← snapshotRef runtime.normalizer (request "snapshot")
  refuseIf (snapshot.revision = maximumRevision) .invalidArgument
  let stateWritten ← boolean (request "stateWritten")
  let writes ← array (request "receipts") bounds.maxReceiptWrites
  let retainedDigest ← digest (request "requestDigest")
  let state ← bytes (request "state") bounds.maxStateBytes
  refuseIf (stateWritten = false ∧ state.length ≠ 0) .invalidArgument
  let receipts ← receiptWrites runtime.normalizer bounds "" writes
  let body : CommitBody := ⟨snapshot, stateWritten, state, receipts⟩
  let _ ← encodeWire runtime.normalizer body.toValue bounds
  let computed ← runtime.commitDigest body
  refuseIf (computed ≠ retainedDigest) .invalidArgument
  pure { body with requestDigest := retainedDigest }

def parseBarrierRequest : Except ErrorCode BarrierRequest := do
  let request ← record value ["token", "marker"]
  let marker ← bytes (request "marker") 32
  refuseIf (marker.length ≠ 32) .invalidArgument
  let token ← commitToken normalizer (request "token")
  pure ⟨token, marker⟩

end Parsers

end Circulusd.NativeStorage
