import Circulusd.Library.Checked
import Circulusd.Platform.Identity
import Circulusd.Protocol.Types

/-
The types of the model gateway. A word that the source does not declare is kept with its text.
-/

namespace Circulusd.ModelGateway

open Checked Platform Protocol

inductive GatewayError where
  | invalidConfiguration
  | invalidRequest
  | inputLimit
  | tokenLimit
  | quotaMismatch
  | invalidTransition
  | concurrentTransition
  | eventLimit
deriving DecidableEq

def GatewayError.text : GatewayError → String
  | .invalidConfiguration => "model gateway: invalid configuration"
  | .invalidRequest => "model gateway: invalid request"
  | .inputLimit => "model gateway: input limit exceeded"
  | .tokenLimit => "model gateway: token limit exceeded"
  | .quotaMismatch => "model gateway: quota permit mismatch"
  | .invalidTransition => "model gateway: invalid state transition"
  | .concurrentTransition => "model gateway: stale effect revision"
  | .eventLimit => "model gateway: provider event limit exceeded"

/-- A returned error wraps one of the package's errors with a detail, which is empty for a bare one. -/
structure Refusal where
  error : GatewayError
  detail : Formatted
deriving DecidableEq

instance : Coe GatewayError Refusal where
  coe error := { error, detail := [] }

def Refusal.text (refusal : Refusal) : Formatted :=
  if refusal.detail = [] then refusal.error.text else refusal.error.text ++ ": " ++ refusal.detail

structure Generations where
  turnLease : Nat
  placement : Nat
  policy : Nat
deriving DecidableEq, Inhabited

structure ValidatedAuthority where
  tenantId : ID
  userId : ID
  sessionId : ID
  turnId : ID
  effectId : ID
  invocationId : ID
  runtimeRevision : ID
  generations : Generations
deriving DecidableEq, Inhabited

inductive Role where
  | system
  | user
  | assistant
  | tool
  | other (text : String)
deriving DecidableEq

structure Message where
  role : Role
  content : String
deriving DecidableEq

inductive ReasoningEffort where
  | unset
  | default
  | disabled
  | low
  | medium
  | high
  | other (text : String)
deriving DecidableEq

structure ModelRequest where
  model : String
  messages : List Message
  maxOutputTokens : Nat
  reasoning : ReasoningEffort
deriving DecidableEq

structure Bounds where
  maxAuthorityBytes : Nat
  maxMessages : Nat
  maxMessageBytes : Nat
  maxInputBytes : Nat
  maxModelBytes : Nat
  maxProviderIdBytes : Nat
  maxProviderRequestIdBytes : Nat
  maxEventBytes : Nat
  maxEvents : Nat
  maxStreamBytes : Nat
  maxResponseBytes : Nat
  maxReasonBytes : Nat
deriving DecidableEq

structure ModelGrant where
  tenantId : ID
  userId : ID
  model : String
  providerId : String
  maxContextTokens : Nat
  maxOutputTokens : Nat
  maxTotalTokens : Nat
  maxPreDispatchRetries : Nat
deriving DecidableEq

structure Configuration where
  bounds : Bounds
  grants : List ModelGrant
  /-- Nanoseconds; zero stands for the default. -/
  streamCloseTimeout : Int
deriving DecidableEq

structure QuotaPermit where
  reservationId : String
  durable : Bool
  tenantId : ID
  userId : ID
  effectId : ID
  invocationId : ID
  sessionId : ID
  turnId : ID
  runtimeRevision : ID
  generations : Generations
  requestDigest : Digest
  contextTokens : Nat
  outputTokens : Nat
deriving DecidableEq

inductive State where
  | admitted
  | dispatching
  | retryPending
  | dispatched
  | streaming
  | cancellationPending
  | completed
  | failed
  | cancelled
  | uncertain
  | other (text : String)
deriving DecidableEq

inductive Outcome where
  | none
  | completed
  | failed
  | cancelled
  | uncertain
  | other (text : String)
deriving DecidableEq

structure Usage where
  inputTokens : Nat
  outputTokens : Nat
deriving DecidableEq

inductive FinishReason where
  | stop
  | length
  | toolCalls
  | contentFilter
  | cancelled
  | other
  | unknown (text : String)
deriving DecidableEq

def FinishReason.text : FinishReason → String
  | .stop => "stop"
  | .length => "length"
  | .toolCalls => "tool_calls"
  | .contentFilter => "content_filter"
  | .cancelled => "cancelled"
  | .other => "other"
  | .unknown text => text

/-- `validFinishReason`. -/
def FinishReason.valid : FinishReason → Bool
  | .unknown _ => false
  | _ => true

structure ToolCallOrder where
  declared : Bool
  index : Nat
deriving DecidableEq

structure ToolCall where
  id : String
  name : String
  /-- Canonical CBOR. -/
  arguments : Bytes
  order : ToolCallOrder
deriving DecidableEq

structure ModelResponse where
  text : String
  finishReason : FinishReason
  usage : Usage
  toolCalls : List ToolCall
deriving DecidableEq

structure CancellationPermit where
  proof : Digest
  durable : Bool
  currentScope : ValidatedAuthority
  effectId : ID
  invocationId : ID
  requestDigest : Digest
  providerId : String
  providerRequestId : String
  attempt : Nat
  effectRevision : Nat
  dispatchPrevented : Bool
deriving DecidableEq, Inhabited

structure ResumePermit where
  proof : Digest
  durable : Bool
  originScope : ValidatedAuthority
  currentScope : ValidatedAuthority
  effectId : ID
  invocationId : ID
  requestDigest : Digest
  providerId : String
  providerRequestId : String
  attempt : Nat
  effectRevision : Nat
deriving DecidableEq, Inhabited

/-- The fields of an effect that stay as its admission set them. -/
structure EffectIdentity where
  scope : ValidatedAuthority
  requestDigest : Digest
  request : ModelRequest
  providerId : String
  quotaPermit : QuotaPermit
  contextTokens : Nat
  requestedOutputTokens : Nat
  maxContextTokens : Nat
  maxTotalTokens : Nat
  maxPreDispatchRetries : Nat
  durableRequestRetrieval : Bool
deriving DecidableEq

structure Effect extends EffectIdentity where
  state : State
  outcome : Outcome
  revision : Nat
  attempt : Nat
  eventCount : Nat
  eventBytes : Nat
  streamBytes : Nat
  providerRequestId : String
  partialOutput : Bool
  failureReason : String
  response : Option ModelResponse
  cancellationPermit : CancellationPermit
  recoveryPermit : ResumePermit
deriving DecidableEq

inductive FailureClass where
  | none
  | preDispatch
  | providerRejected
  | transportUnknown
  | afterPartial
  | other (text : String)
deriving DecidableEq

inductive EventKind where
  | beginDispatch
  | providerAccepted
  | delta
  | responseCompleted
  | dispatchFailed
  | cancelRequested
  | cancellationResolved
  | other (text : String)
deriving DecidableEq

structure Event where
  expectedRevision : Nat
  kind : EventKind
  providerRequestId : String
  delta : String
  response : Option ModelResponse
  failure : FailureClass
  reason : String
  dispatchPrevented : Bool
  cancellation : CancellationPermit
  recovery : ResumePermit
deriving DecidableEq

/-- An event of a kind that carries nothing else. -/
def Event.plain (expectedRevision : Nat) (kind : EventKind) : Event where
  expectedRevision := expectedRevision
  kind := kind
  providerRequestId := ""
  delta := ""
  response := none
  failure := .none
  reason := ""
  dispatchPrevented := false
  cancellation := default
  recovery := default

/-- The dispatch command as the machine emits it; the executor adds the permit. -/
structure DispatchCommand where
  providerId : String
  scope : ValidatedAuthority
  effectId : ID
  invocationId : ID
  requestDigest : Digest
  quotaPermit : QuotaPermit
  request : ModelRequest
  attempt : Nat
deriving DecidableEq

structure CancelCommand where
  providerId : String
  scope : ValidatedAuthority
  effectId : ID
  invocationId : ID
  requestDigest : Digest
  providerRequestId : String
  attempt : Nat
deriving DecidableEq

structure Transition where
  effect : Effect
  dispatch : Option DispatchCommand
  cancel : Option CancelCommand
deriving DecidableEq

/-- The encodings that the gateway relies on: `norm.NFC`, `canonical.StructuredDigest` of a request
and `decodeToolArgumentJSON`. -/
structure Codec where
  normalized : String → Bool
  structuredDigest : ModelRequest → Except Refusal Digest
  decodeToolArgumentJSON : Bytes → Except Refusal Unit

end Circulusd.ModelGateway
