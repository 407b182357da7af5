import Circulusd.Session.Codec

/-
The parsers of the wire protocol that the aggregate calls.
-/

namespace Circulusd.Protocol

open Checked Session

variable (codec : Codec) (checkpoint : AgentCheckpoint)

def nfcString (value path : String) (maxBytes : Nat) : Checked Unit := do
  validationErrorIf (codec.isNfc value = false) path "must be NFC-normalized"
  validationErrorIf (value = "") path "must not be empty"
  validationErrorIf (maxBytes < value.utf8ByteSize) path ("must not exceed " ++ toString maxBytes ++ " UTF-8 bytes")
  validationErrorIf (hasControl value = true) path "must not contain control characters"

def identifier (value path : String) : Checked Unit := nfcString codec value path 256

def operation (value path : String) : Checked Unit := nfcString codec value path 256

def safeInteger (value : Nat) (path : String) (minimum : Nat) : Checked Unit :=
  validationErrorIf (maxSafeInteger < value ∨ value < minimum) path
    ("must be a safe integer greater than or equal to " ++ toString minimum)

/-- A field that must be present has a value. -/
def requiredField {α : Type} (value : Option α) (path message : String) : Checked α :=
  require value (.protocol ⟨path, message⟩)

/-- Only a genesis checkpoint has no predecessor. -/
def parseCheckpointMetadata (checkpoint : CheckpointMetadata) : Checked Unit := do
  safeInteger checkpoint.adapterAbiVersion "$checkpoint.adapterAbiVersion" 1
  safeInteger checkpoint.checkpointSchemaVersion "$checkpoint.checkpointSchemaVersion" 1
  identifier codec checkpoint.sessionId "$checkpoint.sessionId"
  identifier codec checkpoint.turnId "$checkpoint.turnId"
  match checkpoint.kind with
  | .genesis => do
    validationErrorIf (checkpoint.checkpointSequence ≠ 0) "$checkpoint.checkpointSequence" "must be 0"
    validationErrorIf (checkpoint.predecessorDigest ≠ none) "$checkpoint.predecessorDigest"
      "must be null for a genesis checkpoint"
  | .engine => do
    safeInteger checkpoint.checkpointSequence "$checkpoint.checkpointSequence" 1
    validationErrorIf (checkpoint.predecessorDigest = none) "$checkpoint.predecessorDigest" "must be a digest"

def parseAgentCheckpoint : Checked Unit := do
  validationErrorIf (checkpointPayloadMaxBytes < checkpoint.payloadBytes.length)
    "$checkpoint.payloadBytes" ("must not exceed " ++ toString checkpointPayloadMaxBytes ++ " bytes")
  parseCheckpointMetadata codec checkpoint.toCheckpointMetadata

def assertCheckpointPayloadDigest : Checked Unit :=
  validationErrorIf (codec.digestBytes checkpoint.payloadBytes ≠ checkpoint.payloadDigest)
    "$checkpoint.payloadDigest" "does not match payloadBytes"

def validateAgentCheckpoint : Checked Unit := do
  parseAgentCheckpoint codec checkpoint
  assertCheckpointPayloadDigest codec checkpoint

def parseExternalizedAgentCheckpoint (checkpoint : ExternalizedAgentCheckpoint) : Checked Unit := do
  safeInteger checkpoint.payloadSize "$checkpoint.payloadSize" 1
  validationErrorIf (checkpointPayloadMaxBytes < checkpoint.payloadSize) "$checkpoint.payloadSize"
    ("must not exceed " ++ toString checkpointPayloadMaxBytes ++ " bytes")
  parseCheckpointMetadata codec checkpoint.toCheckpointMetadata

/-- The durable form keeps the metadata; the bytes become a blob under their digest. -/
def externalizeAgentCheckpoint : Checked ExternalizedAgentCheckpoint := do
  validationErrorIf (checkpoint.payloadBytes.length < 1) "$checkpoint.payloadBytes"
    "must not be empty when externalized"
  let external : ExternalizedAgentCheckpoint :=
    { checkpoint.toCheckpointMetadata with payloadSize := checkpoint.payloadBytes.length }
  parseExternalizedAgentCheckpoint codec external
  return external

/-- A parent operation and an ordinal appear together. -/
def compositeFields (parentOperationId : Option String) (ordinal : Option Nat) (path : String) : Checked Unit :=
  match parentOperationId, ordinal with
  | none, none => .ok ()
  | some parent, some position => do
    identifier codec parent (path ++ ".parentOperationId")
    safeInteger position (path ++ ".ordinal") 0
  | _, _ => .error (.protocol ⟨path, "parentOperationId and ordinal must appear together"⟩)

def effectClaimFromRecord (claim : EffectClaim) (path : String) : Checked Unit := do
  identifier codec claim.tenantId (path ++ ".tenantId")
  identifier codec claim.userId (path ++ ".userId")
  identifier codec claim.sessionId (path ++ ".sessionId")
  identifier codec claim.turnId (path ++ ".turnId")
  identifier codec claim.effectId (path ++ ".effectId")
  identifier codec claim.invocationId (path ++ ".invocationId")
  operation codec claim.operation (path ++ ".operation")
  compositeFields codec claim.parentOperationId claim.ordinal path

def parseEffectClaim (claim : EffectClaim) : Checked Unit :=
  effectClaimFromRecord codec claim "$effectClaim"

/-- A permit binds an effect claim to a route, an attempt, a fence and a deadline. -/
def parseDispatchPermitClaims (claims : DispatchPermitClaims) : Checked Unit := do
  validationErrorIf (claims.providerRouteDigest = zeroDigest)
    "$dispatchPermitClaims.providerRouteDigest" "must not be the zero digest"
  effectClaimFromRecord codec claims.toEffectClaim "$dispatchPermitClaims"
  safeInteger claims.dispatchAttempt "$dispatchPermitClaims.dispatchAttempt" 1
  safeInteger claims.turnLeaseGeneration "$dispatchPermitClaims.turnLeaseGeneration" 0
  safeInteger claims.placementGeneration "$dispatchPermitClaims.placementGeneration" 0
  safeInteger claims.sandboxGeneration "$dispatchPermitClaims.sandboxGeneration" 0
  safeInteger claims.authorizationGeneration "$dispatchPermitClaims.authorizationGeneration" 0
  safeInteger claims.deadline "$dispatchPermitClaims.deadline" 1

def parseAgentError (code message : String) (details : Option NormalizedValue)
    (path : String) : Checked (Option NormalizedValue) := do
  operation codec code (path ++ ".code")
  nfcString codec message (path ++ ".message") 4096
  match details with
  | none => return none
  | some value => do
    let normalized ← (codec.normalizeProtocolValue value).mapError .protocol
    return some normalized

/-- Parsing a step normalizes its payload, its result and its error details. -/
def parseEngineStepResult (step : EngineStepResult) : Checked EngineStepResult :=
  match step with
  | .checkpoint committed => do
    parseAgentCheckpoint codec committed
    return .checkpoint committed
  | .effectRequest committed request => do
    parseAgentCheckpoint codec committed
    operation codec request.operation "$engineStepResult.request.operation"
    let payload ← (codec.normalizeProtocolValue request.payload).mapError .protocol
    compositeFields codec request.parentOperationId request.ordinal "$engineStepResult.request"
    return .effectRequest committed { request with payload := payload }
  | .turnComplete committed result => do
    parseAgentCheckpoint codec committed
    let normalized ← (codec.normalizeProtocolValue result).mapError .protocol
    return .turnComplete committed normalized
  | .turnError committed error => do
    parseAgentCheckpoint codec committed
    let details ← parseAgentError codec error.code error.message error.details "$engineStepResult.error"
    return .turnError committed { error with details := details }

end Circulusd.Protocol
