import Circulusd.Library.Dialogue
import Circulusd.Platform.Identity
import Circulusd.Protocol.Types

/-
The values that the celld host exchanges with its aggregate, its sealer and the native transport.
-/

namespace Circulusd.Celld

open Platform Protocol

section Errors

/-- The errors that the host and its bridge compare with. -/
inductive Sentinel where
  | invalidRequest
  | commandTooLarge
  | stateTooLarge
  | responseTooLarge
  | capabilityClaimsTooLarge
  | idempotencyConflict
  | invalidAggregateOutput
  | corruptReceipt
  | storageContract
  | durabilityBarrier
  | invalidPermit
  | bridgeInvalidRequest
  | invalidResponse
  | unauthenticatedResponse
  | unavailable
  | snapshotConflict
  | closed
  | canceled
  | deadlineExceeded
  | unverifiedDependency
deriving DecidableEq

/-- The texts of the errors of the host and the bridge. -/
def Sentinel.text : Sentinel → String
  | .invalidRequest => "celld: invalid request"
  | .commandTooLarge => "celld: command exceeds configured size"
  | .stateTooLarge => "celld: aggregate state exceeds configured size"
  | .responseTooLarge => "celld: response exceeds configured size"
  | .capabilityClaimsTooLarge => "celld: capability claims exceed configured size"
  | .idempotencyConflict => "celld: command ID reused with different input"
  | .invalidAggregateOutput => "celld: invalid aggregate output"
  | .corruptReceipt => "celld: stored command receipt is invalid"
  | .storageContract => "celld: storage contract violated"
  | .durabilityBarrier => "celld: durability barrier not confirmed"
  | .invalidPermit => "celld: invalid sealed permit"
  | .bridgeInvalidRequest => "celld bridge: invalid request"
  | .invalidResponse => "celld bridge: invalid response"
  | .unauthenticatedResponse => "celld bridge: unauthenticated response"
  | .unavailable => "celld bridge: qualified native source unavailable"
  | .snapshotConflict => "celld bridge: snapshot changed before commit"
  | .closed => "celld bridge: source closed"
  | .canceled => "context canceled"
  | .deadlineExceeded => "context deadline exceeded"
  | .unverifiedDependency => "dependency: unverified production dependency"

/-- An error is one of these with a detail, one of a dependency, or two that are joined. -/
inductive Error where
  | sentinel (sentinel : Sentinel) (text : String)
  | external (text : String)
  | joined (first second : Error)
deriving DecidableEq

/-- The error itself. -/
def Sentinel.error (sentinel : Sentinel) : Error := .sentinel sentinel sentinel.text

/-- The error with a detail. -/
def Sentinel.wrap (sentinel : Sentinel) (detail : String) : Error :=
  .sentinel sentinel (sentinel.text ++ ": " ++ detail)

/-- `errors.Is`. -/
def Error.is : Error → Sentinel → Bool
  | .sentinel known _, target => known == target
  | .external _, _ => false
  | .joined first second, target => first.is target || second.is target

def tooLarge (sentinel : Sentinel) (got limit : Nat) (unit : String) : Error :=
  sentinel.wrap ("got " ++ toString got ++ " " ++ unit ++ ", limit " ++ toString limit)

end Errors

section Values

structure RawCapabilityClaims where
  kind : String
  payload : Bytes
deriving DecidableEq

structure ApplyResult where
  nextState : Bytes
  response : Bytes
  capabilityClaims : List RawCapabilityClaims
deriving DecidableEq

structure StoredReceipt where
  commandDigest : Digest
  response : Bytes
  capabilityClaims : List RawCapabilityClaims
deriving DecidableEq

/-- The value of a variable that was not assigned. -/
def StoredReceipt.zero : StoredReceipt := ⟨0, [], []⟩

structure CommitToken where
  objectId : String
  revision : Nat
deriving DecidableEq

structure PermitBinding where
  objectId : String
  commandId : String
  commandDigest : Digest
  claimIndex : Nat
deriving DecidableEq

/-- The field `present` is the field `Exists` of the source. -/
structure SnapshotRef where
  objectId : String
  present : Bool
  revision : Nat
  stateDigest : Digest
deriving DecidableEq

structure Snapshot extends SnapshotRef where
  state : Bytes
deriving DecidableEq

structure ReceiptRequest where
  snapshot : SnapshotRef
  commandId : String
deriving DecidableEq

structure ReceiptResult where
  snapshot : SnapshotRef
  commandId : String
  found : Bool
  receipt : StoredReceipt
deriving DecidableEq

structure ReceiptWrite where
  commandId : String
  receipt : StoredReceipt
deriving DecidableEq

structure CommitRequest where
  snapshot : SnapshotRef
  stateWritten : Bool
  state : Bytes
  receipts : List ReceiptWrite
  requestDigest : Digest
deriving DecidableEq

structure CommitResult where
  snapshot : SnapshotRef
  requestDigest : Digest
  token : CommitToken
deriving DecidableEq

structure BarrierRequest where
  token : CommitToken
  marker : Bytes
deriving DecidableEq

structure BarrierResult where
  token : CommitToken
  marker : Bytes
  observedRevision : Nat
  barrierSerial : Nat
deriving DecidableEq

structure Request where
  objectId : String
  commandId : String
  command : Bytes
deriving DecidableEq

/-- A permit is its token. -/
structure Result where
  commandDigest : Digest
  response : Bytes
  permits : List Bytes
  commitRevision : Nat
  replayed : Bool
  durable : Bool
deriving DecidableEq

inductive FaultPoint where
  | beforeCommit
  | afterCommit
  | beforeBarrier
  | afterBarrier
  | beforeResponse
deriving DecidableEq

def maximumRevision : Nat := 9007199254740991

end Values

section Questions

/-- Questions whose answer is an error, if there is one. The first two are the state of the context and of
the verified binding of the transport. -/
inductive Check where
  | contextErr
  | openBinding
  | validateCommand (command : Bytes)
  | validateState (state : Bytes)
  | authorize (state command : Bytes)
  | inject (point : FaultPoint)
deriving DecidableEq

/-- What the host asks outside of itself. -/
inductive Question where
  | check (check : Check)
  | apply (state command : Bytes)
  | randomMarker
  | seal (binding : PermitBinding) (claims : RawCapabilityClaims)
  | readSnapshot (objectId : String)
  | readReceipt (request : ReceiptRequest)
  | compareAndCommit (request : CommitRequest)
  | confirmBarrier (request : BarrierRequest)
deriving DecidableEq

abbrev Answer : Question → Type
  | .check _ => Option Error
  | .apply .. => Except Error ApplyResult
  | .randomMarker => Except Error Bytes
  | .seal .. => Except Error Bytes
  | .readSnapshot _ => Except Error Snapshot
  | .readReceipt _ => Except Error ReceiptResult
  | .compareAndCommit _ => Except Error CommitResult
  | .confirmBarrier _ => Except Error BarrierResult

/-- The functions of the platform: the hash, the digest of a commit request, which exists unless the
request has no canonical encoding, and normalization. -/
structure Platform where
  normalizer : Normalizer
  sha256 : Bytes → Digest
  commitDigest : SnapshotRef → Bool → Bytes → List ReceiptWrite → Option Digest

/-- `validProtocolIdentifier` and `validIdentifier`. -/
def Platform.validIdentifier (platform : Platform) (value : String) : Bool :=
  value != "" && platform.normalizer.nfc value == value && decide (value.utf8ByteSize ≤ 256) &&
    !value.toList.any isControl

end Questions

end Circulusd.Celld
