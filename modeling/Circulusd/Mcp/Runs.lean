import Circulusd.Library.Trace
import Circulusd.Mcp.Transitions

/-
Runs of the machine from an admission, and a small gateway on which concrete runs are evaluated.
-/

namespace Circulusd.Mcp

open Checked

variable (bounds : Bounds) (tool : ToolRegistration) (ledger : Bool)

/-- One accepted event with the effect it was applied to. -/
structure Application where
  before : Effect
  event : Event
  transition : Transition
deriving DecidableEq

def Application.after (application : Application) : Effect :=
  application.transition.effect

/-- One step of a run. -/
structure Gateway.Step (gateway : Gateway) (before : Effect) (application : Application) (after : Effect) : Prop where
  source : application.before = before
  accepted : gateway.apply before application.event = .ok application.transition
  target : application.after = after

theorem Gateway.Step.moved {gateway : Gateway} {before after : Effect} {application : Application}
    (step : gateway.Step before application after) :
    gateway.ValidEffect before ∧ ∃ moved, Moved gateway before application.event moved ∧
      after = moved.effect.counted (application.event.size before) ∧
      application.transition.dispatch = moved.dispatch := by
  obtain ⟨ok, -, -, moved, move, -, same⟩ := gateway.apply_applied step.accepted
  refine ⟨gateway.validateEffect_valid ok, moved, move, ?_, ?_⟩
  · rw [← step.target, Application.after, same]
  · rw [same]

/-- The effect that an admission builds, before any event. -/
def Gateway.Admits (gateway : Gateway) (effect : Effect) : Prop :=
  ∃ request scope availability, gateway.admittedEffect request scope availability = .ok effect

/-- A run from an admission, with its steps from the first to the last. -/
structure Gateway.Run (gateway : Gateway) (admitted : Effect) (steps : List Application) (effect : Effect) : Prop where
  admission : gateway.Admits admitted
  run : Trace.Run gateway.Step admitted steps effect

/-- The fields of an admission that the machine starts from. -/
theorem Gateway.Admits.fresh {gateway : Gateway} {effect : Effect} (admitted : gateway.Admits effect) :
    effect = { toEffectIdentity := effect.toEffectIdentity, state := .admitted, revision := 1
               eventCount := 0, eventBytes := 0, attempts := [], automaticRetriesUsed := 0
               confirmationRetriesUsed := 0, chunkCount := 0, streamBytes := 0
               externalCommitId := "", output := [], failureReason := ""
               cancellationRequested := false } := by
  obtain ⟨request, scope, availability, ok⟩ := admitted
  simp only [admittedEffect, steps_ok] at ok
  obtain ⟨-, -, digest, -, -, -, server, -, resolved, -, tool, -, -, rfl⟩ := ok
  rfl

/-- The events of a run are applied one after the other, and the first refusal stops it. -/
def Gateway.applyAll (gateway : Gateway) (effect : Effect) : List Event → Except Refusal (List Application × Effect)
  | [] => .ok ([], effect)
  | event :: rest => do
    let transition ← gateway.apply effect event
    let (steps, final) ← gateway.applyAll transition.effect rest
    return (⟨effect, event, transition⟩ :: steps, final)

theorem Gateway.run_of_applyAll {gateway : Gateway} {effect final : Effect} {events : List Event}
    {steps : List Application} (ok : gateway.applyAll effect events = .ok (steps, final)) :
    Trace.Run gateway.Step effect steps final := by
  induction events generalizing effect steps with
  | nil =>
    simp only [applyAll, Except.ok.injEq, Prod.mk.injEq] at ok
    obtain ⟨rfl, rfl⟩ := ok
    exact .nil effect
  | cons event rest ih =>
    simp only [applyAll, steps_ok, Prod.exists] at ok
    obtain ⟨transition, applied, others, last, following, rfl, rfl⟩ := ok
    exact .cons ⟨rfl, applied, rfl⟩ (ih following)

section Sample

def sampleBounds (maxFailureBytes maxChunks maxEvents : Nat) : Bounds where
  maxAuthorityBytes := 16
  maxServerIdBytes := 8
  maxToolNameBytes := 8
  maxTargetRefBytes := 8
  maxProtocolVersionBytes := 8
  maxCredentialHandleBytes := 8
  maxAudienceBytes := 8
  maxInputBytes := 8
  maxInputDepth := 4
  maxProviderRequestIdBytes := 8
  maxExternalCommitIdBytes := 8
  maxChunkBytes := 4
  maxChunks := maxChunks
  maxOutputBytes := 8
  maxFailureBytes := maxFailureBytes
  maxEvents := maxEvents
  cancelTimeout := 1000000000

def sampleScope : ValidatedAuthority where
  tenantId := ⟨some .tenant, "tenant_1"⟩
  userId := ⟨some .subject, "subject_1"⟩
  sessionId := ⟨some .session, "sess_1"⟩
  workspaceId := default
  turnId := ⟨some .turn, "turn_1"⟩
  effectId := ⟨some .effect, "effect_1"⟩
  invocationId := ⟨some .invocation, "inv_1"⟩
  runtimeRevision := ⟨some .runtimeRevision, "runtime_1"⟩
  generations := ⟨1, 1, 1, 1⟩

def sampleServer : ServerRegistration where
  tenantId := sampleScope.tenantId
  userId := sampleScope.userId
  serverId := "s"
  providerId := "p"
  transport := .streamableHttp
  targetRef := "t"
  protocolVersion := "1"
  affinity := default
  credential := default
  allowedServerRequests := []

def sampleTool (policy : ReplayPolicy) (automatic confirmation : Nat) : ToolRegistration where
  tenantId := sampleScope.tenantId
  userId := sampleScope.userId
  serverId := "s"
  toolName := "f"
  sideEffecting := true
  replayPolicy := policy
  maxAutomaticRetries := automatic
  maxConfirmationRetries := confirmation

def sampleConfiguration : Configuration where
  bounds := bounds
  servers := [sampleServer]
  tools := [tool]
  allowReferenceMemory := true

def sampleDependencies : Dependencies where
  authority := true
  authorizer := true
  credentials := false
  repository := some ⟨false, true, true, true, true, true, true, true, true, true, true, true, true⟩
  audit := true
  providers := [("p", true)]
  sampling := false
  elicitation := false
  roots := false

def sampleDigest : CallDigest := fun _ _ _ => some 1

def sampleGateway : Gateway where
  bounds := bounds
  servers := [sampleServer]
  tools := [tool]
  digestCanonicalCall := sampleDigest

def sampleRequest : AdmissionRequest where
  authority := [1]
  effectId := sampleScope.effectId
  invocationId := sampleScope.invocationId
  requestDigest := 1
  call := ⟨"s", "f", [1]⟩

def sampleAvailability : ServerAvailability where
  available := true
  durableNegotiation := true
  negotiatedProtocolVersion := "1"
  affinity := default
  supportsInvocationLedger := ledger
  supportsIdempotencyKey := ledger

def sampleEffect : Effect where
  scope := sampleScope
  requestDigest := 1
  serverId := "s"
  toolName := "f"
  providerId := "p"
  transport := .streamableHttp
  targetRef := "t"
  protocolVersion := "1"
  affinity := default
  credential := default
  inputCanonical := [1]
  sideEffecting := true
  replayPolicy := tool.replayPolicy
  maxAutomaticRetries := tool.maxAutomaticRetries
  maxConfirmationRetries := tool.maxConfirmationRetries
  supportsInvocationLedger := ledger
  supportsIdempotencyKey := ledger
  state := .admitted
  revision := 1
  eventCount := 0
  eventBytes := 0
  attempts := []
  automaticRetriesUsed := 0
  confirmationRetriesUsed := 0
  chunkCount := 0
  streamBytes := 0
  externalCommitId := ""
  output := []
  failureReason := ""
  cancellationRequested := false

/-- The receipt of the sample server for an attempt. -/
def sampleReceipt (attempt : Nat) (ledger : Bool) : StartNegotiationReceipt where
  durable := true
  scope := sampleScope
  server := ⟨"s", .streamableHttp, "t", "1", default⟩
  invocationId := sampleScope.invocationId
  requestDigest := 1
  attempt := attempt
  negotiatedProtocolVersion := "1"
  affinity := default
  supportsInvocationLedger := ledger
  supportsIdempotencyKey := ledger
  connectionGeneration := 1

/-- The report of a failed dispatch with a class. -/
def failureReport (revision : Nat) (failure : FailureClass) : Event :=
  { Event.plain revision .dispatchFailed with failure, reason := "r" }

/-- The run of the given events on the sample gateway; it is empty when one is refused. -/
def sampleRun (events : List Event) : List Application × Effect :=
  ((sampleGateway bounds tool).applyAll (sampleEffect tool ledger) events).toOption.getD ([], sampleEffect tool ledger)

/-- The sample gateway admits the sample effect, and its events make up a run. -/
theorem sampleRun_run {bounds : Bounds} {tool : ToolRegistration} {ledger : Bool} {events : List Event}
    (admits : (sampleGateway bounds tool).admittedEffect sampleRequest sampleScope
      (sampleAvailability ledger) = .ok (sampleEffect tool ledger)) :
    (sampleGateway bounds tool).Run (sampleEffect tool ledger)
      (sampleRun bounds tool ledger events).1 (sampleRun bounds tool ledger events).2 := by
  refine ⟨⟨_, _, _, admits⟩, ?_⟩
  unfold sampleRun
  cases result : (sampleGateway bounds tool).applyAll (sampleEffect tool ledger) events with
  | error => exact .nil _
  | ok reached => exact Gateway.run_of_applyAll result

end Sample

end Circulusd.Mcp
