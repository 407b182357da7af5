import Circulusd.Protocol.Validation

/-
The checks on stored payloads, settlements and command outcomes.
-/

namespace Circulusd.Session

open Protocol

def validateSessionPayloadRef (ref : SessionPayloadRef) (field : String) : Checked Unit :=
  sessionErrorIf (ref.encodedBytes < 1 ∨ sessionValueMaxEncodedBytes < ref.encodedBytes ∨
      ref.encodedItems < 1 ∨ ref.encodedBytes < ref.encodedItems)
    .failedPrecondition (field ++ " is not a bounded canonical payload reference")

/-- `blobs.set` keeps one entry for each digest. -/
def BlobMap.set (blobs : BlobMap) (digest : Digest) (bytes : Bytes) : BlobMap :=
  if blobs.any (·.1 = digest) then
    blobs.map (fun entry => if entry.1 = digest then (digest, bytes) else entry)
  else blobs ++ [(digest, bytes)]

/-- Storing a payload puts its canonical bytes into the blob map. -/
def storeSessionPayload (codec : Codec) (value : NormalizedValue) (blobs : BlobMap) :
    Checked (SessionPayloadRef × BlobMap) := do
  let bytes := codec.encodeCanonicalCbor value
  (codec.encodesWithin value sessionValueMaxEncodedBytes).mapError .protocol
  let digest := codec.digestBytes bytes
  return ({ digest := digest, encodedBytes := bytes.length, encodedItems := sessionPayloadItems value },
    blobs.set digest bytes)

def assertStoredPayload (codec : Codec) (payload : StoredPayload)
    (inlineField refField field : String) (errorCode : SessionAggregateErrorCode) : Checked Unit :=
  match payload with
  | .reference ref => validateSessionPayloadRef ref (field ++ "." ++ refField)
  | .inline value => do
    let _ ← validatedNormalizedValue codec value (field ++ "." ++ inlineField)
      sessionValueMaxEncodedBytes true errorCode
    return ()

def assertEffectSettlement (codec : Codec) (settlement : StoredEffectSettlement) (field : String)
    (errorCode : SessionAggregateErrorCode) : Checked Unit :=
  match settlement with
  | .success result => assertStoredPayload codec result "result" "resultPayloadRef" field errorCode
  | .error code message _ => do
    validatedIdentifier codec code (field ++ ".code")
    let _ ← parseAgentError codec code message none "$agentError"
    return ()
  | .interruptedUnknown reason => validatedIdentifier codec reason (field ++ ".reason")
  | .abandoned reason => validatedIdentifier codec reason (field ++ ".reason")

/-- The turn status of an engine step follows from its boundary kind. -/
def expectedStatus : EngineStepKind → CommittedTurnStatus
  | .turnComplete => .completed
  | .turnError => .failed
  | _ => .active

/-- A permit inside an outcome is valid and names the effect of the outcome. -/
def assertOutcomePermit (codec : Codec) (effectId : String) (claims : DispatchPermitClaims)
    (field : String) (errorCode : SessionAggregateErrorCode) : Checked Unit := do
  validatedIdentifier codec effectId (field ++ ".effectId")
  parseDispatchPermitClaims codec claims
  sessionErrorIf (claims.effectId ≠ effectId) errorCode (field ++ ".dispatchPermitClaims names another effect")

/-- Two revisions of an outcome must differ. -/
def assertRevisionsDiffer (first second : Digest) (switchGeneration minimum : Nat)
    (field aliased : String) (errorCode : SessionAggregateErrorCode) : Checked Unit := do
  sessionErrorIf (second = first) errorCode (field ++ aliased)
  validatedInteger switchGeneration (field ++ ".switchGeneration") minimum

def assertSessionCommandOutcome (codec : Codec) (outcome : StoredSessionCommandOutcome)
    (field : String) (errorCode : SessionAggregateErrorCode) : Checked Unit :=
  match outcome with
  | .brokerResult .. => sessionError errorCode (field ++ " has an unknown outcome kind")
  | .brokerBoundary _ effectId => validatedIdentifier codec effectId (field ++ ".effectId")
  | .turnEnqueued turnId turnSequence _ => do
    validatedIdentifier codec turnId (field ++ ".turnId")
    validatedInteger turnSequence (field ++ ".turnSequence") 0
  | .engineStepCommitted turnId boundaryKind checkpointSequence consumedEffectId preparedEffectId status => do
    validatedIdentifier codec turnId (field ++ ".turnId")
    validatedInteger checkpointSequence (field ++ ".checkpointSequence") 1
    sessionErrorIf (status ≠ expectedStatus boundaryKind) errorCode (field ++ ".status disagrees with boundaryKind")
    validatedOptionalIdentifier codec consumedEffectId (field ++ ".consumedEffectId")
    validatedOptionalIdentifier codec preparedEffectId (field ++ ".preparedEffectId")
    sessionErrorIf (¬ (boundaryKind = .effectRequest ↔ preparedEffectId ≠ none)) errorCode
      (field ++ ".preparedEffectId disagrees with boundaryKind")
  | .effectDispatched effectId claims => assertOutcomePermit codec effectId claims field errorCode
  | .dispatchStartClaimed effectId fresh startPermit => do
    validatedIdentifier codec effectId (field ++ ".effectId")
    sessionErrorIf (fresh = false) errorCode (field ++ ".fresh must identify the original durable claim")
    parseDispatchPermitClaims codec startPermit.dispatchPermitClaims
    sessionErrorIf (startPermit.dispatchPermitClaims.effectId ≠ effectId) errorCode
      (field ++ ".startPermit names another effect")
    validatedOptionalIdentifier codec startPermit.providerRequestId (field ++ ".startPermit.providerRequestId")
    sessionErrorIf (startPermit.commandDigest = zeroDigest) errorCode
      (field ++ ".startPermit.commandDigest must not be zero")
    validatedInteger startPermit.claimedEventSequence (field ++ ".startPermit.claimedEventSequence") 1
  | .externalCommitRecorded effectId externalCommitId => do
    validatedIdentifier codec effectId (field ++ ".effectId")
    validatedIdentifier codec externalCommitId (field ++ ".externalCommitId")
  | .effectSettled effectId settlement => do
    validatedIdentifier codec effectId (field ++ ".effectId")
    assertEffectSettlement codec settlement (field ++ ".settlement") errorCode
  | .effectRecoveredRetry effectId claims => assertOutcomePermit codec effectId claims field errorCode
  | .effectRecoveredInterrupted effectId => validatedIdentifier codec effectId (field ++ ".effectId")
  | .effectRecoveredBlocked effectId => validatedIdentifier codec effectId (field ++ ".effectId")
  | .confirmationRetried effectId claims => assertOutcomePermit codec effectId claims field errorCode
  | .confirmationAbandoned effectId => validatedIdentifier codec effectId (field ++ ".effectId")
  | .abortRequested turnId _ => validatedIdentifier codec turnId (field ++ ".turnId")
  | .abortFinalized turnId => validatedIdentifier codec turnId (field ++ ".turnId")
  | .turnLeaseRotated turnId turnLeaseGeneration leaseExpiresAt => do
    validatedIdentifier codec turnId (field ++ ".turnId")
    validatedInteger turnLeaseGeneration (field ++ ".turnLeaseGeneration") 1
    validatedInteger leaseExpiresAt (field ++ ".leaseExpiresAt") 1
  | .generationsRotated placementGeneration sandboxGeneration authorizationGeneration _ => do
    validatedInteger placementGeneration (field ++ ".placementGeneration") 0
    validatedInteger sandboxGeneration (field ++ ".sandboxGeneration") 0
    validatedInteger authorizationGeneration (field ++ ".authorizationGeneration") 0
  | .runtimeRevisionStaged activeRevision candidateRevision switchGeneration =>
    assertRevisionsDiffer activeRevision candidateRevision switchGeneration 1 field
      " aliases active and candidate revisions" errorCode
  | .runtimeCandidateDiscarded activeRevision candidateRevision switchGeneration _ =>
    assertRevisionsDiffer activeRevision candidateRevision switchGeneration 1 field
      " aliases active and candidate revisions" errorCode
  | .runtimeRevisionActivated activeRevision previousRevision switchGeneration _ _ =>
    assertRevisionsDiffer activeRevision previousRevision switchGeneration 2 field
      " aliases active and previous revisions" errorCode
  | .runtimeRevisionRolledBack activeRevision previousRevision switchGeneration _ =>
    assertRevisionsDiffer activeRevision previousRevision switchGeneration 2 field
      " aliases active and previous revisions" errorCode

end Circulusd.Session
