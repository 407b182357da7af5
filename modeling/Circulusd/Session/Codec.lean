import Circulusd.Library.Checked
import Circulusd.Session.State

/-
The encodings and hashes that the aggregate uses, and the failures that it reports.
-/

namespace Circulusd.Session

open Protocol Checked

inductive SessionAggregateErrorCode where
  | invalidArgument
  | permissionDenied
  | notFound
  | alreadyExists
  | conflict
  | idempotencyConflict
  | failedPrecondition
  | staleGeneration
  | staleDispatchAttempt
  | dispatchAlreadyStarted
  | digestMismatch
  | needsConfirmation
  | aborted
deriving DecidableEq

/-- A protocol failure names the path of the field that it refuses. -/
structure ProtocolValidationError where
  path : String
  message : String
deriving DecidableEq

/-- What the error hands to its base class. -/
def ProtocolValidationError.text (error : ProtocolValidationError) : String :=
  error.path ++ ": " ++ error.message

inductive SessionFailure where
  | aggregate (code : SessionAggregateErrorCode) (message : String)
  | protocol (error : ProtocolValidationError)
deriving DecidableEq

abbrev Checked := Except SessionFailure

def sessionError {α : Type} (code : SessionAggregateErrorCode) (message : String) : Checked α :=
  .error (.aggregate code message)

def sessionErrorIf (condition : Prop) [Decidable condition]
    (code : SessionAggregateErrorCode) (message : String) : Checked Unit :=
  refuseIf condition (.aggregate code message)

def validationErrorIf (condition : Prop) [Decidable condition] (path message : String) : Checked Unit :=
  refuseIf condition (.protocol ⟨path, message⟩)

@[simp]
theorem sessionErrorIf_ok (condition : Prop) [Decidable condition]
    (code : SessionAggregateErrorCode) (message : String) (result : Unit) :
    sessionErrorIf condition code message = .ok result ↔ ¬ condition :=
  refuseIf_ok ..

@[simp]
theorem sessionError_ok_iff {α : Type} (code : SessionAggregateErrorCode) (message : String)
    (result : α) : sessionError code message = .ok result ↔ False := by
  simp [sessionError]

/-- Unicode normalization, canonical encoding and hashing are fixed functions of the host. -/
structure Codec where
  isNfc : String → Bool
  /-- A value outside the bounds of the protocol has no normal form. -/
  normalizeProtocolValue : NormalizedValue → Except ProtocolValidationError NormalizedValue
  encodeCanonicalCbor : NormalizedValue → Bytes
  digestBytes : Bytes → Digest
  validatedCheckpointDigest : AgentCheckpoint → Digest
  turnInputDigest : NormalizedValue → Digest
  effectRequestDigest : EffectRequest → Digest
  commandValue : CoreCommand → NormalizedValue
  commandDigest : CoreCommand → Digest
  brokerRequestValue : SessionBrokerMutation → NormalizedValue
  brokerRequestDigest : SessionBrokerMutation → Digest
  dispatchStartKey : SessionBrokerEffectKey → Bytes → String
  operationKeyDigest : String → Digest
  publicErrorValue : SessionBrokerPublicError → NormalizedValue
  receiptValue : SessionBrokerReceiptValue → NormalizedValue
  stateEncodedBytes : SessionAggregateState → Nat
  stateItems : SessionAggregateState → Nat
  /-- ASCII texts are in normal form. -/
  isNfc_ascii : ∀ value : String, value.toList.all (fun c => c.toNat < 128) = true → isNfc value = true
  /-- Every item takes at least one byte of the encoding. -/
  items_le_encoded : ∀ value, sessionPayloadItems value ≤ (encodeCanonicalCbor value).length

/-- A host whose digests are lengths and counters satisfies the laws of a codec. -/
def referenceCodec : Codec where
  isNfc _ := true
  normalizeProtocolValue := .ok
  encodeCanonicalCbor value := List.replicate (sessionPayloadItems value) 0
  digestBytes bytes := BitVec.ofNat 256 (bytes.length + 1)
  validatedCheckpointDigest checkpoint := BitVec.ofNat 256 (checkpoint.checkpointSequence + 1)
  turnInputDigest _ := 7
  effectRequestDigest _ := 9
  commandValue _ := .null
  commandDigest command :=
    BitVec.ofNat 256 (1000 * (command.commandId.toList.map Char.toNat).sum + command.expectedEventSequence)
  brokerRequestValue _ := .null
  brokerRequestDigest _ := 4
  dispatchStartKey key _ := key.effectId
  operationKeyDigest _ := 5
  publicErrorValue _ := .null
  receiptValue _ := .null
  stateEncodedBytes _ := 0
  stateItems _ := 0
  isNfc_ascii _ _ := rfl
  items_le_encoded value := by simp

/-- The `Cc` category of Unicode. -/
def isControl (character : Char) : Bool :=
  character.toNat < 32 || (127 ≤ character.toNat && character.toNat < 160)

def hasControl (value : String) : Bool := value.toList.any isControl

/-- Bounded texts are normalized, non-empty and free of control characters. -/
@[mk_iff]
structure Codec.BoundedText (codec : Codec) (maxBytes : Nat) (value : String) : Prop where
  nonempty : value ≠ ""
  normalized : codec.isNfc value = true
  bounded : value.utf8ByteSize ≤ maxBytes
  printable : hasControl value = false

instance (codec : Codec) (maxBytes : Nat) (value : String) : Decidable (codec.BoundedText maxBytes value) :=
  decidable_of_iff _ (codec.boundedText_iff maxBytes value).symm

/-- Identifiers and operation names share one bound. -/
abbrev Codec.IsIdentifier (codec : Codec) (value : String) : Prop := codec.BoundedText 256 value

def validatedIdentifier (codec : Codec) (value field : String) : Checked Unit := do
  sessionErrorIf (value = "") .invalidArgument (field ++ " must be a non-empty string")
  sessionErrorIf (codec.isNfc value = false) .invalidArgument (field ++ " must be NFC-normalized")
  sessionErrorIf (256 < value.utf8ByteSize ∨ hasControl value = true) .invalidArgument
    (field ++ " is not a valid protocol identifier")

def validatedOptionalIdentifier (codec : Codec) (value : Option String) (field : String) : Checked Unit :=
  match value with
  | none => .ok ()
  | some present => validatedIdentifier codec present field

def validatedInteger (value : Nat) (field : String) (minimum : Nat) : Checked Unit :=
  sessionErrorIf (maxSafeInteger < value ∨ value < minimum) .invalidArgument
    (field ++ " must be a safe integer greater than or equal to " ++ toString minimum)

/-- Safe integers of at least the minimum. -/
def IsSafeInteger (minimum value : Nat) : Prop := minimum ≤ value ∧ value ≤ maxSafeInteger
deriving Decidable

@[simp]
theorem validatedInteger_ok_iff (value : Nat) (field : String) (minimum : Nat) (result : Unit) :
    validatedInteger value field minimum = .ok result ↔ IsSafeInteger minimum value := by
  simp only [validatedInteger, sessionErrorIf_ok, IsSafeInteger]
  omega

/-- A null or absent number is not a safe integer. -/
def validatedOptionalInteger (value : Option Nat) (field : String) (minimum : Nat) : Checked Nat :=
  match value with
  | none => sessionError .invalidArgument
      (field ++ " must be a safe integer greater than or equal to " ++ toString minimum)
  | some present => do
    validatedInteger present field minimum
    return present

/-- The limit that `encodeCanonicalCbor` is given. -/
def Codec.encodesWithin (codec : Codec) (value : NormalizedValue) (maxBytes : Nat) :
    Except ProtocolValidationError Unit :=
  refuseIf (maxBytes < (codec.encodeCanonicalCbor value).length)
    ⟨"$", "encoded size exceeds " ++ toString maxBytes ++ " bytes"⟩

def validatedNormalizedValue (codec : Codec) (value : NormalizedValue) (field : String)
    (maxBytes : Nat) (requireCanonical : Bool) (errorCode : SessionAggregateErrorCode) :
    Checked NormalizedValue := do
  let unbounded (error : ProtocolValidationError) : SessionFailure :=
    .aggregate errorCode (field ++ " is not a bounded protocol value: " ++ error.text)
  let normalized ← (codec.normalizeProtocolValue value).mapError unbounded
  if requireCanonical then
    match value.unnormalized codec.isNfc with
    | some kind => sessionError errorCode (field ++ " must contain only NFC-normalized " ++ kind)
    | none => pure ()
  (codec.encodesWithin normalized maxBytes).mapError unbounded
  return normalized

end Circulusd.Session
