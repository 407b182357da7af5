import Circulusd.Mcp.Machine

/-
The permits that the effect repository issues, and the records and requests of its operations.
-/

namespace Circulusd.Mcp

open Platform Protocol

structure ToolAuthorizationPermit where
  proof : Digest
  durable : Bool
  scope : ValidatedAuthority
  serverId : String
  toolName : String
  requestDigest : Digest
deriving DecidableEq, Inhabited

/-- `validAuthorizationPermit`. -/
def ValidAuthorizationPermit (permit : ToolAuthorizationPermit) (scope : ValidatedAuthority)
    (serverId toolName : String) (digest : Digest) : Prop :=
  permit.durable = true ∧ permit.proof ≠ zeroDigest ∧ permit.scope = scope ∧
    permit.serverId = serverId ∧ permit.toolName = toolName ∧ permit.requestDigest = digest
deriving Decidable

structure DispatchPermit where
  proof : Digest
  durable : Bool
  scope : ValidatedAuthority
  invocationId : ID
  requestDigest : Digest
  providerId : String
  attempt : Nat
  effectRevision : Nat
  authorization : ToolAuthorizationPermit
deriving DecidableEq, Inhabited

structure ProviderStartPermit where
  proof : Digest
  durable : Bool
  scope : ValidatedAuthority
  invocationId : ID
  requestDigest : Digest
  providerId : String
  attempt : Nat
  effectRevision : Nat
  claimGeneration : Nat
  leaseExpiresAtUnixNano : Int
  dispatch : DispatchPermit
  negotiation : StartNegotiationReceipt
deriving DecidableEq, Inhabited

structure ServerRequestPermit where
  proof : Digest
  durable : Bool
  scope : ValidatedAuthority
  parentInvocationId : ID
  providerRequestId : String
  connectionGeneration : Nat
  requestId : String
  requestDigest : Digest
  childEffectId : ID
  childInvocationId : ID
  claimGeneration : Nat
  leaseExpiresAtUnixNano : Int
deriving DecidableEq, Inhabited

structure CancellationPermit where
  proof : Digest
  durable : Bool
  scope : ValidatedAuthority
  invocationId : ID
  requestDigest : Digest
  providerId : String
  providerRequestId : String
  attempt : Nat
  effectRevision : Nat
  claimGeneration : Nat
  leaseExpiresAtUnixNano : Int
  start : ProviderStartPermit
  serverRequest : ServerRequestPermit
  serverRequestMethod : ServerRequestMethod
deriving DecidableEq, Inhabited

structure SamplingCancellationReceipt where
  proof : Digest
  durable : Bool
  scope : ValidatedAuthority
  parentEffectId : ID
  parentInvocationId : ID
  childEffectId : ID
  childInvocationId : ID
  requestDigest : Digest
  claimProof : Digest
deriving DecidableEq, Inhabited

structure ElicitationCancellationReceipt where
  proof : Digest
  durable : Bool
  scope : ValidatedAuthority
  parentEffectId : ID
  parentInvocationId : ID
  requestDigest : Digest
  claimProof : Digest
deriving DecidableEq, Inhabited

structure JSONRPCError where
  code : Int
  message : String
deriving DecidableEq

structure ServerResponse where
  requestId : String
  resultCanonical : Bytes
  error : Option JSONRPCError
deriving DecidableEq, Inhabited

inductive ServerRequestRecordState where
  | claimed
  | completed
  | abandoned
deriving DecidableEq

structure ServerRequestRecord where
  state : ServerRequestRecordState
  parentInvocationId : ID
  providerRequestId : String
  connectionGeneration : Nat
  requestId : String
  method : ServerRequestMethod
  requestDigest : Digest
  brokerCancellationRequired : Bool
  response : ServerResponse
  permit : ServerRequestPermit
  childCancellation : SamplingCancellationReceipt
  elicitationCancellation : ElicitationCancellationReceipt
  auditSequence : Nat
deriving DecidableEq

structure AuditEvent where
  outboxSequence : Nat
  tenantId : ID
  userId : ID
  sessionId : ID
  turnId : ID
  invocationId : ID
  serverId : String
  method : String
  decision : String
  reason : String
deriving DecidableEq

structure AuditEnvelope where
  sequence : Nat
  event : AuditEvent
deriving DecidableEq

structure StoredEffect where
  effect : Effect
  durable : Bool
  audit : Option AuditEnvelope
deriving DecidableEq

structure DispatchClaimRequest where
  expectedRevision : Nat
  currentScope : ValidatedAuthority
  previous : Effect
  next : Effect
  authorization : ToolAuthorizationPermit
deriving DecidableEq

structure TransitionCommitRequest where
  expectedRevision : Nat
  currentScope : ValidatedAuthority
  previous : Effect
  next : Effect
  audit : Option AuditEvent
  cancellation : Option CancellationPermit
  providerStart : Option ProviderStartPermit
deriving DecidableEq

structure ProviderStartClaimRequest where
  currentScope : ValidatedAuthority
  effect : Effect
  dispatch : DispatchPermit
  /-- Nanoseconds. -/
  lease : Int
deriving DecidableEq

structure ProviderStartResolutionRequest where
  currentScope : ValidatedAuthority
  effect : Effect
deriving DecidableEq

structure StoredProviderStartResolution where
  permit : ProviderStartPermit
  present : Bool
  durable : Bool
  active : Bool
  retryAfter : Int
deriving DecidableEq

structure CancellationClaimRequest where
  currentScope : ValidatedAuthority
  effect : Effect
  lease : Int
deriving DecidableEq

structure CancellationClaim where
  permit : CancellationPermit
  fresh : Bool
  retryAfter : Int
deriving DecidableEq

structure ServerRequestClaimRequest where
  currentScope : ValidatedAuthority
  parent : Effect
  providerRequestId : String
  connectionGeneration : Nat
  requestId : String
  method : ServerRequestMethod
  requestDigest : Digest
  childEffectId : ID
  childInvocationId : ID
  brokerCancellationRequired : Bool
  maxRequests : Nat
  lease : Int
deriving DecidableEq

structure StoredServerRequest where
  record : ServerRequestRecord
  durable : Bool
  fresh : Bool
  audit : Option AuditEnvelope
  retryAfter : Int
deriving DecidableEq

structure ServerRequestCommitRequest where
  currentScope : ValidatedAuthority
  permit : ServerRequestPermit
  response : ServerResponse
  audit : Option AuditEvent
  samplingCancellation : SamplingCancellationReceipt
  elicitationCancellation : ElicitationCancellationReceipt
deriving DecidableEq

structure ServerRequestReconcileRequest where
  currentScope : ValidatedAuthority
  parent : Effect
deriving DecidableEq

/-- The record and the claim stand where the source leaves their zero values otherwise. -/
structure ServerRequestReconcileResult where
  durable : Bool
  reconciled : Bool
  active : Bool
  pendingCancellation : Bool
  parentCancelRequired : Bool
  record : Option ServerRequestRecord
  cancellationClaim : ServerRequestPermit
  retryAfter : Int
deriving DecidableEq

structure ServerRequestReconcileCommitRequest where
  currentScope : ValidatedAuthority
  permit : ServerRequestPermit
  cancellation : SamplingCancellationReceipt
  elicitationCancellation : ElicitationCancellationReceipt
deriving DecidableEq

end Circulusd.Mcp
