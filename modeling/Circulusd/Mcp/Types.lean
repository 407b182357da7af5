import Circulusd.Platform.Identity
import Circulusd.Protocol.Types
import Circulusd.Library.Checked

/-
The records of the tool-call gateway.

An enumeration of the source is a text, and any text can arrive in an event or a restored effect.
Each enumeration below therefore has a last constructor for the texts it does not name, and the
empty text is the zero value.
-/

namespace Circulusd.Mcp

open Checked Platform Protocol

inductive GatewayError where
  | invalidConfiguration
  | invalidRequest
  | inputLimit
  | outputLimit
  | eventLimit
  | serverNotAllowed
  | toolNotAllowed
  | replayPolicyRequired
  | protocolMismatch
  | affinityMismatch
  | credentialUnavailable
  | providerUnavailable
  | staleAuthority
  | authorityMismatch
  | authorizationMismatch
  | invocationConflict
  | invocationNotFound
  | effectInFlight
  | invalidTransition
  | concurrentTransition
  | ledgerMismatch
  | storeUnavailable
  | dispatchNotDurable
  | serverRequestDenied
deriving DecidableEq

/-- A returned error wraps one of the package's errors with a detail, which is empty for a bare one. -/
structure Refusal where
  error : GatewayError
  detail : Formatted
deriving DecidableEq

instance : Coe GatewayError Refusal where
  coe error := { error, detail := [] }

structure Generations where
  turnLease : Nat
  placement : Nat
  sandbox : Nat
  policy : Nat
deriving DecidableEq, Inhabited

structure ValidatedAuthority where
  tenantId : ID
  userId : ID
  sessionId : ID
  workspaceId : ID
  turnId : ID
  effectId : ID
  invocationId : ID
  runtimeRevision : ID
  generations : Generations
deriving DecidableEq, Inhabited

inductive Transport where
  | stdio
  | streamableHttp
  | other (text : String)
deriving DecidableEq

instance : Inhabited Transport := ⟨.other ""⟩

inductive ScopeKind where
  | workspace
  | session
  | invocation
  | other (text : String)
deriving DecidableEq

instance : Inhabited ScopeKind := ⟨.other ""⟩

def ScopeKind.text : ScopeKind → String
  | .workspace => "workspace"
  | .session => "session"
  | .invocation => "invocation"
  | .other text => text

structure BackendAffinity where
  backend : String
  environmentRevision : ID
  scope : ScopeKind
  scopeId : ID
  resourceProfileDigest : Digest
  networkPolicyDigest : Digest
  secretExposureClass : String
  sandboxProtocolVersion : String
deriving DecidableEq, Inhabited

structure CredentialBinding where
  handle : String
  audience : String
deriving DecidableEq, Inhabited

inductive ReplayPolicy where
  | safe
  | idempotencyKey
  | never
  | confirm
  | other (text : String)
deriving DecidableEq

instance : Inhabited ReplayPolicy := ⟨.other ""⟩

inductive ServerRequestMethod where
  | sampling
  | elicitation
  | roots
  | other (text : String)
deriving DecidableEq

instance : Inhabited ServerRequestMethod := ⟨.other ""⟩

structure ServerRegistration where
  tenantId : ID
  userId : ID
  serverId : String
  providerId : String
  transport : Transport
  targetRef : String
  protocolVersion : String
  affinity : BackendAffinity
  credential : CredentialBinding
  allowedServerRequests : List ServerRequestMethod
deriving DecidableEq

structure ToolRegistration where
  tenantId : ID
  userId : ID
  serverId : String
  toolName : String
  sideEffecting : Bool
  replayPolicy : ReplayPolicy
  maxAutomaticRetries : Nat
  maxConfirmationRetries : Nat
deriving DecidableEq

structure ServerDescriptor where
  serverId : String
  transport : Transport
  targetRef : String
  protocolVersion : String
  affinity : BackendAffinity
deriving DecidableEq, Inhabited

structure ServerAvailability where
  available : Bool
  durableNegotiation : Bool
  negotiatedProtocolVersion : String
  affinity : BackendAffinity
  supportsInvocationLedger : Bool
  supportsIdempotencyKey : Bool
deriving DecidableEq

/-- The receipt of the negotiated transport session; the zero receipt stands for none. -/
structure StartNegotiationReceipt where
  durable : Bool
  scope : ValidatedAuthority
  server : ServerDescriptor
  invocationId : ID
  requestDigest : Digest
  attempt : Nat
  negotiatedProtocolVersion : String
  affinity : BackendAffinity
  supportsInvocationLedger : Bool
  supportsIdempotencyKey : Bool
  connectionGeneration : Nat
deriving DecidableEq, Inhabited

def StartNegotiationReceipt.zero : StartNegotiationReceipt := default

inductive State where
  | admitted
  | dispatching
  | retryPending
  | dispatched
  | streaming
  | cancellationPending
  | externallyCommitted
  | needsConfirmation
  | completed
  | failed
  | cancelled
  | uncertain
  | other (text : String)
deriving DecidableEq

inductive FailureClass where
  | none
  | definitelyNotSent
  | rejected
  | ledgerAbsent
  | externalFailed
  | unknown
  | other (text : String)
deriving DecidableEq

structure AttemptRecord where
  attempt : Nat
  providerRequestId : String
  hadOutput : Bool
  failure : FailureClass
  negotiation : StartNegotiationReceipt
deriving DecidableEq

/-- The zero attempt, as a new dispatch numbers it. -/
def AttemptRecord.fresh (attempt : Nat) : AttemptRecord where
  attempt := attempt
  providerRequestId := ""
  hadOutput := false
  failure := .none
  negotiation := .zero

/-- The fields of an effect that stay as its admission set them. -/
structure EffectIdentity where
  scope : ValidatedAuthority
  requestDigest : Digest
  serverId : String
  toolName : String
  providerId : String
  transport : Transport
  targetRef : String
  protocolVersion : String
  affinity : BackendAffinity
  credential : CredentialBinding
  inputCanonical : Bytes
  sideEffecting : Bool
  replayPolicy : ReplayPolicy
  maxAutomaticRetries : Nat
  maxConfirmationRetries : Nat
  supportsInvocationLedger : Bool
  supportsIdempotencyKey : Bool
deriving DecidableEq

structure Effect extends EffectIdentity where
  state : State
  revision : Nat
  eventCount : Nat
  eventBytes : Nat
  attempts : List AttemptRecord
  automaticRetriesUsed : Nat
  confirmationRetriesUsed : Nat
  chunkCount : Nat
  streamBytes : Nat
  externalCommitId : String
  output : Bytes
  failureReason : String
  cancellationRequested : Bool
deriving DecidableEq

/-- `sameImmutableEffect`. -/
def sameImmutableEffect (left right : Effect) : Prop :=
  left.toEffectIdentity = right.toEffectIdentity
deriving Decidable

def Effect.currentAttempt (effect : Effect) : Option AttemptRecord :=
  effect.attempts.getLast?

def Effect.Terminal (effect : Effect) : Prop :=
  effect.state = .completed ∨ effect.state = .failed ∨ effect.state = .cancelled ∨ effect.state = .uncertain
deriving Decidable

inductive EventKind where
  | beginDispatch
  | negotiationRecorded
  | providerAccepted
  | outputChunk
  | callCommitted
  | settlementCompleted
  | dispatchFailed
  | cancelRequested
  | cancellationResolved
  | recoveryObserved
  | confirmationDecided
  | other (text : String)
deriving DecidableEq

inductive ConfirmationDecision where
  | none
  | retry
  | abandon
  | other (text : String)
deriving DecidableEq

inductive CancellationStatus where
  | none
  | prevented
  | absent
  | committed
  | unknown
  | other (text : String)
deriving DecidableEq

inductive LedgerStatus where
  | none
  | absent
  | inflight
  | committed
  | failed
  | unknown
  | other (text : String)
deriving DecidableEq

structure LedgerRecord where
  invocationId : ID
  requestDigest : Digest
  status : LedgerStatus
  providerRequestId : String
  externalCommitId : String
  output : Bytes
  failureReason : String
deriving DecidableEq

def LedgerRecord.zero : LedgerRecord where
  invocationId := default
  requestDigest := zeroDigest
  status := .none
  providerRequestId := ""
  externalCommitId := ""
  output := []
  failureReason := ""

@[ext]
structure Event where
  expectedRevision : Nat
  kind : EventKind
  providerRequestId : String
  chunk : Bytes
  output : Bytes
  externalCommitId : String
  failure : FailureClass
  reason : String
  cancellation : CancellationStatus
  ledger : LedgerRecord
  decision : ConfirmationDecision
  negotiation : StartNegotiationReceipt
deriving DecidableEq

/-- An event of a kind that carries nothing else. -/
def Event.plain (expectedRevision : Nat) (kind : EventKind) : Event where
  expectedRevision := expectedRevision
  kind := kind
  providerRequestId := ""
  chunk := []
  output := []
  externalCommitId := ""
  failure := .none
  reason := ""
  cancellation := .none
  ledger := .zero
  decision := .none
  negotiation := .zero

/-- The dispatch command as the machine emits it; the executor adds the permits. -/
structure DispatchCommand where
  scope : ValidatedAuthority
  server : ServerDescriptor
  toolName : String
  inputCanonical : Bytes
  invocationId : ID
  requestDigest : Digest
  replayPolicy : ReplayPolicy
  idempotencyKey : String
  attempt : Nat
deriving DecidableEq

/-- The cancel command as the machine emits it; the executor adds the permits. -/
structure CancelCommand where
  scope : ValidatedAuthority
  server : ServerDescriptor
  toolName : String
  invocationId : ID
  requestDigest : Digest
  providerRequestId : String
  attempt : Nat
  negotiation : StartNegotiationReceipt
deriving DecidableEq

structure Transition where
  effect : Effect
  dispatch : Option DispatchCommand
  cancel : Option CancelCommand
deriving DecidableEq

end Circulusd.Mcp
