import Circulusd.Mcp.Types

/-
The configuration of the gateway: its bounds, its server and tool registrations, and the effect
that an admission builds from them.
-/

namespace Circulusd.Mcp

open Checked Platform Protocol GatewayError List

variable (gateway : Gateway) (bounds : Bounds) (dependencies : Dependencies) (registration : ToolRegistration)

def hardMaxAuthorityBytes : Nat := 65536

def hardMaxIdentifierBytes : Nat := 512

def hardMaxTargetRefBytes : Nat := 1024

def hardMaxCredentialHandleBytes : Nat := 1024

def hardMaxInputBytes : Nat := 16777216

def hardMaxInputDepth : Int := 64

def hardMaxProviderRequestIdBytes : Nat := 1024

def hardMaxExternalCommitIdBytes : Nat := 1024

def hardMaxChunkBytes : Nat := 1048576

def hardMaxChunks : Nat := 1048576

def hardMaxOutputBytes : Nat := 67108864

def hardMaxFailureBytes : Nat := 4096

def hardMaxEvents : Nat := 1048576

def hardMaxRetries : Nat := 16

structure Bounds where
  maxAuthorityBytes : Nat
  maxServerIdBytes : Nat
  maxToolNameBytes : Nat
  maxTargetRefBytes : Nat
  maxProtocolVersionBytes : Nat
  maxCredentialHandleBytes : Nat
  maxAudienceBytes : Nat
  maxInputBytes : Nat
  maxInputDepth : Int
  maxProviderRequestIdBytes : Nat
  maxExternalCommitIdBytes : Nat
  maxChunkBytes : Nat
  maxChunks : Nat
  maxOutputBytes : Nat
  maxFailureBytes : Nat
  maxEvents : Nat
  /-- Nanoseconds. -/
  cancelTimeout : Int
deriving DecidableEq

/-- The bounds that `validateBounds` accepts. -/
@[mk_iff]
structure Bounds.Valid (bounds : Bounds) : Prop where
  authority : Within bounds.maxAuthorityBytes hardMaxAuthorityBytes
  serverId : Within bounds.maxServerIdBytes hardMaxIdentifierBytes
  toolName : Within bounds.maxToolNameBytes hardMaxIdentifierBytes
  targetRef : Within bounds.maxTargetRefBytes hardMaxTargetRefBytes
  protocolVersion : Within bounds.maxProtocolVersionBytes hardMaxIdentifierBytes
  credentialHandle : Within bounds.maxCredentialHandleBytes hardMaxCredentialHandleBytes
  audience : Within bounds.maxAudienceBytes hardMaxIdentifierBytes
  input : Within bounds.maxInputBytes hardMaxInputBytes
  inputDepth : 0 < bounds.maxInputDepth ∧ bounds.maxInputDepth ≤ hardMaxInputDepth
  providerRequestId : Within bounds.maxProviderRequestIdBytes hardMaxProviderRequestIdBytes
  externalCommitId : Within bounds.maxExternalCommitIdBytes hardMaxExternalCommitIdBytes
  chunk : Within bounds.maxChunkBytes hardMaxChunkBytes
  chunks : Within bounds.maxChunks hardMaxChunks
  output : Within bounds.maxOutputBytes hardMaxOutputBytes
  failure : Within bounds.maxFailureBytes hardMaxFailureBytes
  events : 8 ≤ bounds.maxEvents ∧ bounds.maxEvents ≤ hardMaxEvents
  chunkInOutput : bounds.maxChunkBytes ≤ bounds.maxOutputBytes
  chunksInEvents : bounds.maxChunks ≤ bounds.maxEvents
  timeout : 0 < bounds.cancelTimeout ∧ bounds.cancelTimeout ≤ 30000000000

instance (bounds : Bounds) : Decidable bounds.Valid :=
  decidable_of_iff _ bounds.valid_iff.symm

def validateBounds : Except Refusal Unit :=
  refuseIf (¬ bounds.Valid) ⟨.invalidConfiguration,
    "every MCP input/output/time bound must be positive, consistent, and below its hard ceiling"⟩

/-- A template has no scope identity yet; a resolved affinity names one of its scope's kind. -/
def validateAffinity (affinity : BackendAffinity) (template : Bool) : Except Refusal Unit := do
  refuseIf (¬ (ValidIdentifier affinity.backend hardMaxIdentifierBytes ∧
      affinity.environmentRevision.kind = some .environmentRevision ∧
      affinity.resourceProfileDigest ≠ zeroDigest ∧ affinity.networkPolicyDigest ≠ zeroDigest ∧
      ValidIdentifier affinity.secretExposureClass hardMaxIdentifierBytes ∧
      ValidIdentifier affinity.sandboxProtocolVersion hardMaxIdentifierBytes))
    ⟨.invalidConfiguration, "incomplete stdio backend affinity"⟩
  refuseIf (template ∧ affinity.scopeId ≠ default)
    ⟨.invalidConfiguration, "stdio affinity template cannot pin a caller scope identity"⟩
  match affinity.scope with
  | .workspace =>
    refuseIf (¬ template ∧ affinity.scopeId.kind ≠ some .workspace)
      ⟨.invalidConfiguration, "workspace affinity has wrong scope identity"⟩
  | .session =>
    refuseIf (¬ template ∧ affinity.scopeId.kind ≠ some .session)
      ⟨.invalidConfiguration, "session affinity has wrong scope identity"⟩
  | .invocation =>
    refuseIf (¬ template ∧ affinity.scopeId.kind ≠ some .invocation)
      ⟨.invalidConfiguration, "invocation affinity has wrong scope identity"⟩
  | .other _ => .error ⟨.invalidConfiguration, "invalid stdio scope"⟩

structure RepositoryDurability where
  crashDurable : Bool
  atomicAdmissionCas : Bool
  atomicAdmissionReplay : Bool
  atomicTransitionCas : Bool
  exclusiveDispatchClaim : Bool
  exclusiveProviderStartClaim : Bool
  atomicProviderStartResolution : Bool
  exclusiveCancellationClaim : Bool
  atomicExpiredRequestReconciliation : Bool
  atomicCurrentFence : Bool
  atomicActiveEffect : Bool
  atomicAuditOutbox : Bool
  referenceMemory : Bool
deriving DecidableEq

/-- Of an interface the constructor reads only whether it is present. -/
structure Dependencies where
  authority : Bool
  authorizer : Bool
  credentials : Bool
  repository : Option RepositoryDurability
  audit : Bool
  providers : List (String × Bool)
  sampling : Bool
  elicitation : Bool
  roots : Bool
deriving DecidableEq

structure Configuration where
  bounds : Bounds
  servers : List ServerRegistration
  tools : List ToolRegistration
  allowReferenceMemory : Bool
deriving DecidableEq

/-- The exact key of a server registration: tenant, user and server. -/
structure ServerKey where
  tenant : ID
  user : ID
  server : String
deriving DecidableEq

def ServerRegistration.key (registration : ServerRegistration) : ServerKey :=
  ⟨registration.tenantId, registration.userId, registration.serverId⟩

def ToolRegistration.serverKey : ServerKey :=
  ⟨registration.tenantId, registration.userId, registration.serverId⟩

/-- The hash of the canonical call is a parameter; it has no value where encoding fails. -/
abbrev CallDigest := String → String → Bytes → Option Digest

structure Gateway where
  bounds : Bounds
  servers : List ServerRegistration
  tools : List ToolRegistration
  digestCanonicalCall : CallDigest

def Gateway.server (key : ServerKey) : Option ServerRegistration :=
  gateway.servers.find? fun registration => registration.key = key

def Gateway.tool (key : ServerKey) (toolName : String) : Option ToolRegistration :=
  gateway.tools.find? fun registration =>
    registration.serverKey = key ∧ registration.toolName = toolName

/-- Every provider of the map is named and present. -/
def validateProvider (provider : String × Bool) : Except Refusal Unit :=
  refuseIf (¬ (ValidIdentifier provider.1 bounds.maxServerIdBytes ∧ provider.2 = true))
    ⟨.invalidConfiguration, "invalid provider registration " ++ quoted provider.1⟩

/-- One method of a server is supported, has its broker, and stands once in the list. -/
def validateServerRequestMethod (seen : List ServerRequestMethod)
    (method : ServerRequestMethod) : Except Refusal Unit := do
  match method with
  | .sampling =>
    refuseIf (dependencies.sampling = false)
      ⟨.invalidConfiguration, "sampling is allowed without a model-gateway broker"⟩
  | .elicitation =>
    refuseIf (dependencies.elicitation = false) ⟨.invalidConfiguration, "elicitation is allowed without its broker"⟩
  | .roots =>
    refuseIf (dependencies.roots = false)
      ⟨.invalidConfiguration, "roots/list is allowed without a workspace roots provider"⟩
  | .other text =>
    .error ⟨.invalidConfiguration, "unsupported server-initiated method " ++ quoted text⟩
  refuseIf (method ∈ seen) ⟨.invalidConfiguration, "duplicate server-initiated method"⟩

/-- The transport decides whether a registration carries an affinity template. -/
def validateTransport (registration : ServerRegistration) : Except Refusal Unit :=
  match registration.transport with
  | .stdio => validateAffinity registration.affinity true
  | .streamableHttp =>
    refuseIf (registration.affinity ≠ default)
      ⟨.invalidConfiguration, "HTTP MCP registration cannot carry stdio affinity"⟩
  | .other _ => .error ⟨.invalidConfiguration, "unsupported MCP transport"⟩

/-- One turn of the server loop: the registration is checked and enters the map under a new key. -/
def registerServer (servers : List ServerRegistration)
    (registration : ServerRegistration) : Except Refusal (List ServerRegistration) := do
  refuseIf (¬ (registration.tenantId.kind = some .tenant ∧ registration.userId.kind = some .subject ∧
      ValidIdentifier registration.serverId bounds.maxServerIdBytes ∧
      ValidIdentifier registration.providerId bounds.maxServerIdBytes ∧
      ValidBoundedText registration.protocolVersion bounds.maxProtocolVersionBytes ∧
      identifierPattern registration.protocolVersion = true ∧
      ValidRegistryRef registration.targetRef bounds.maxTargetRefBytes))
    ⟨.invalidConfiguration, "invalid MCP server registration"⟩
  refuseIf (registration.providerId ∉ dependencies.providers.map Prod.fst)
    ⟨.invalidConfiguration, "server references unregistered provider " ++ quoted registration.providerId⟩
  validateTransport registration
  refuseIf (¬ (registration.credential.handle = "" ↔ registration.credential.audience = ""))
    ⟨.invalidConfiguration, "credential handle and audience must be configured together"⟩
  refuseIf (registration.credential.handle ≠ "" ∧
      ¬ (registration.credential.handle.utf8ByteSize ≤ bounds.maxCredentialHandleBytes ∧
        ValidBoundedText registration.credential.audience bounds.maxAudienceBytes ∧
        identifierPattern registration.credential.audience = true))
    ⟨.invalidConfiguration, "invalid credential binding"⟩
  forEachPrior (validateServerRequestMethod dependencies) registration.allowedServerRequests
  refuseIf (registration.key ∈ servers.map ServerRegistration.key)
    ⟨.invalidConfiguration, "duplicate exact server registration"⟩
  return servers ++ [registration]

/-- A tool without side effects may leave its policy out. -/
def resolveReplayPolicy : Except Refusal ToolRegistration :=
  if registration.replayPolicy = .other "" then
    if registration.sideEffecting then .error replayPolicyRequired
    else .ok { registration with replayPolicy := .safe }
  else .ok registration

/-- The events that a tool's retries and its settlement may need. -/
def requiredEvents : Nat :=
  bounds.maxChunks +
    match registration.replayPolicy with
    | .safe | .idempotencyKey => 4 * registration.maxAutomaticRetries + 10
    | .never => 3 * registration.maxAutomaticRetries + 10
    | .confirm => 3 * registration.maxAutomaticRetries + 10 * registration.maxConfirmationRetries + 12
    | .other _ => 0

/-- One turn of the tool loop. -/
def registerTool (servers : List ServerRegistration) (tools : List ToolRegistration)
    (registration : ToolRegistration) : Except Refusal (List ToolRegistration) := do
  refuseIf (¬ (registration.tenantId.kind = some .tenant ∧ registration.userId.kind = some .subject ∧
      ValidIdentifier registration.serverId bounds.maxServerIdBytes ∧
      ValidIdentifier registration.toolName bounds.maxToolNameBytes ∧
      registration.maxAutomaticRetries ≤ hardMaxRetries ∧
      registration.maxConfirmationRetries ≤ hardMaxRetries))
    ⟨.invalidConfiguration, "invalid MCP tool registration"⟩
  refuseIf (registration.serverKey ∉ servers.map ServerRegistration.key)
    ⟨.invalidConfiguration, "tool references an unregistered exact tenant/user/server"⟩
  let registration ← resolveReplayPolicy registration
  refuseIf (registration.replayPolicy ∉
      [ReplayPolicy.safe, ReplayPolicy.idempotencyKey, ReplayPolicy.never, ReplayPolicy.confirm])
    ⟨.invalidConfiguration, "invalid replay policy"⟩
  refuseIf (registration.replayPolicy = .confirm ∧ registration.maxConfirmationRetries = 0)
    ⟨.invalidConfiguration, "confirm policy has no bounded confirmation retry"⟩
  refuseIf (bounds.maxEvents < requiredEvents bounds registration) ⟨.invalidConfiguration,
    "event bound cannot preserve the configured retry and settlement envelope"⟩
  refuseIf (∃ tool ∈ tools, tool.serverKey = registration.serverKey ∧ tool.toolName = registration.toolName)
    ⟨.invalidConfiguration, "duplicate exact tool registration"⟩
  return tools ++ [registration]

/-- The repository is crash durable in production, and the reference memory is explicitly selected. -/
def acceptsRepository (configuration : Configuration) (durability : RepositoryDurability)
    (verifiedProduction : Bool) : Bool :=
  let atomicRepository := durability.atomicAdmissionCas && durability.atomicAdmissionReplay &&
    durability.atomicTransitionCas && durability.exclusiveDispatchClaim &&
    durability.exclusiveProviderStartClaim && durability.atomicProviderStartResolution &&
    durability.exclusiveCancellationClaim && durability.atomicExpiredRequestReconciliation &&
    durability.atomicCurrentFence && durability.atomicActiveEffect && durability.atomicAuditOutbox
  (verifiedProduction && durability.crashDurable && atomicRepository && !durability.referenceMemory) ||
    (!verifiedProduction && configuration.allowReferenceMemory && !durability.crashDurable &&
      atomicRepository && durability.referenceMemory)

def missingDependencies : Refusal := ⟨.invalidConfiguration,
  "authority, authorizer, durable repository, audit sink, and providers are required"⟩

def newGateway (digestCanonicalCall : CallDigest) (configuration : Configuration)
    (dependencies : Dependencies) (verifiedProduction : Bool) : Except Refusal Gateway := do
  validateBounds configuration.bounds
  refuseIf (dependencies.authority = false ∨ dependencies.authorizer = false ∨
    dependencies.audit = false ∨ dependencies.providers = []) missingDependencies
  let durability ← require dependencies.repository missingDependencies
  refuseIf (acceptsRepository configuration durability verifiedProduction = false)
    ⟨.storeUnavailable, "repository lacks required crash durability and atomic fencing"⟩
  forEach (validateProvider configuration.bounds) dependencies.providers
  refuseIf (configuration.servers = [] ∨ configuration.tools = []) ⟨.invalidConfiguration,
    "at least one exact server and tool registration is required"⟩
  let servers ← configuration.servers.foldlM (registerServer configuration.bounds dependencies) []
  refuseIf ((∃ registration ∈ configuration.servers, registration.credential.handle ≠ "") ∧
      dependencies.credentials = false)
    ⟨.credentialUnavailable, "configured credential binding has no broker"⟩
  let tools ← configuration.tools.foldlM (registerTool configuration.bounds servers) []
  return { bounds := configuration.bounds, servers, tools, digestCanonicalCall }

/-- What every constructed gateway keeps of its configuration. -/
structure Gateway.Configured (gateway : Gateway) : Prop where
  bounds : gateway.bounds.Valid
  transports : ∀ server ∈ gateway.servers, validateTransport server = .ok ()
  policies : ∀ tool ∈ gateway.tools, tool.replayPolicy ∈
    [ReplayPolicy.safe, ReplayPolicy.idempotencyKey, ReplayPolicy.never, ReplayPolicy.confirm]
  confirmations : ∀ tool ∈ gateway.tools, tool.replayPolicy = .confirm → tool.maxConfirmationRetries ≠ 0
  envelopes : ∀ tool ∈ gateway.tools, requiredEvents gateway.bounds tool ≤ gateway.bounds.maxEvents

/-- A loop that only appends entries of a kind builds a list of that kind. -/
theorem foldlM_append_forall {α ε : Type} {kept : α → Prop} {next : List α → α → Except ε (List α)}
    (step : ∀ before entry after, next before entry = .ok after → ∃ added, after = before ++ [added] ∧ kept added)
    {entries initial final : List α} (start : ∀ entry ∈ initial, kept entry)
    (ok : entries.foldlM next initial = .ok final) : ∀ entry ∈ final, kept entry := by
  induction entries generalizing initial with
  | nil =>
    rw [foldlM_nil, pure_ok] at ok
    exact ok ▸ start
  | cons entry rest ih =>
    rw [foldlM_cons, bind_ok] at ok
    obtain ⟨middle, first, others⟩ := ok
    obtain ⟨added, rfl, holds⟩ := step _ _ _ first
    refine ih ?_ others
    intro candidate member
    rcases mem_append.mp member with old | new
    · exact start candidate old
    · rw [mem_singleton.mp new]
      exact holds

theorem registerServer_ok {bounds : Bounds} {dependencies : Dependencies}
    {servers next : List ServerRegistration} {registration : ServerRegistration}
    (ok : registerServer bounds dependencies servers registration = .ok next) :
    ∃ added, next = servers ++ [added] ∧ validateTransport added = .ok () := by
  simp only [registerServer, steps_ok] at ok
  obtain ⟨-, -, transport, -, -, -, -, rfl⟩ := ok
  exact ⟨registration, rfl, transport⟩

theorem registerTool_ok {bounds : Bounds} {servers : List ServerRegistration}
    {tools next : List ToolRegistration} {registration : ToolRegistration}
    (ok : registerTool bounds servers tools registration = .ok next) :
    ∃ added, next = tools ++ [added] ∧ (added.replayPolicy ∈
          [ReplayPolicy.safe, ReplayPolicy.idempotencyKey, ReplayPolicy.never, ReplayPolicy.confirm] ∧
        (added.replayPolicy = .confirm → added.maxConfirmationRetries ≠ 0) ∧
        requiredEvents bounds added ≤ bounds.maxEvents) := by
  simp only [registerTool, steps_ok, not_and, not_lt] at ok
  obtain ⟨-, -, resolved, -, policy, confirmation, envelope, -, rfl⟩ := ok
  exact ⟨resolved, rfl, policy, confirmation, envelope⟩

theorem newGateway_configured {digestCanonicalCall : CallDigest} {configuration : Configuration}
    {dependencies : Dependencies} {verifiedProduction : Bool} {gateway : Gateway}
    (ok : newGateway digestCanonicalCall configuration dependencies verifiedProduction = .ok gateway) :
    gateway.Configured := by
  simp only [newGateway, steps_ok, validateBounds] at ok
  obtain ⟨bounds, -, -, -, -, -, -, servers, registered, -, tools, listed, rfl⟩ := ok
  have transports := foldlM_append_forall (fun _ _ _ => registerServer_ok) (by simp) registered
  have policies := foldlM_append_forall (fun _ _ _ => registerTool_ok) (by simp) listed
  exact ⟨bounds, transports, fun tool member => (policies tool member).1,
    fun tool member => (policies tool member).2.1, fun tool member => (policies tool member).2.2⟩

def ValidScope (scope : ValidatedAuthority) : Prop :=
  scope.tenantId.kind = some .tenant ∧ scope.userId.kind = some .subject ∧
    scope.sessionId.kind = some .session ∧ scope.turnId.kind = some .turn ∧
    scope.effectId.kind = some .effect ∧ scope.invocationId.kind = some .invocation ∧
    scope.runtimeRevision.kind = some .runtimeRevision ∧ scope.generations.turnLease ≠ 0 ∧
    scope.generations.placement ≠ 0 ∧ scope.generations.policy ≠ 0 ∧
    (scope.workspaceId = default ∨ scope.workspaceId.kind = some .workspace)
deriving Decidable

/-- Two scopes of one operation differ at most in their generations. -/
def sameOperationScope (left right : ValidatedAuthority) : Prop :=
  left.tenantId = right.tenantId ∧ left.userId = right.userId ∧ left.sessionId = right.sessionId ∧
    left.workspaceId = right.workspaceId ∧ left.turnId = right.turnId ∧
    left.effectId = right.effectId ∧ left.invocationId = right.invocationId ∧
    left.runtimeRevision = right.runtimeRevision
deriving Decidable

/-- A stdio registration is bound to the caller's session, invocation or workspace. -/
def resolveServerRegistration (server : ServerRegistration) (scope : ValidatedAuthority) :
    Except Refusal ServerRegistration := do
  if server.transport ≠ .stdio then return server
  let scopeId ← match server.affinity.scope with
    | .session => Except.ok scope.sessionId
    | .invocation => .ok scope.invocationId
    | .workspace =>
      if scope.workspaceId.kind ≠ some .workspace then .error affinityMismatch
      else .ok scope.workspaceId
    | .other _ => .error affinityMismatch
  let affinity := { server.affinity with scopeId }
  if validateAffinity affinity false ≠ .ok () then .error affinityMismatch
  return { server with affinity }

structure CallRequest where
  serverId : String
  toolName : String
  /-- The canonical encoding of the input. -/
  input : Bytes
deriving DecidableEq

structure AdmissionRequest where
  authority : Bytes
  effectId : ID
  invocationId : ID
  requestDigest : Digest
  call : CallRequest
deriving DecidableEq

/-- The provider supports the call that the tool's policy needs. -/
def checkAvailability (server : ServerRegistration) (tool : ToolRegistration)
    (availability : ServerAvailability) : Except Refusal Unit := do
  refuseIf (availability.available = false) ⟨.providerUnavailable, "unavailable"⟩
  refuseIf (availability.durableNegotiation = false ∨
    availability.negotiatedProtocolVersion ≠ server.protocolVersion) protocolMismatch
  refuseIf (server.transport = .stdio ∧ availability.affinity ≠ server.affinity) affinityMismatch
  refuseIf (server.transport = .streamableHttp ∧ availability.affinity ≠ default) affinityMismatch
  refuseIf (tool.replayPolicy = .idempotencyKey ∧
      ¬ (availability.supportsIdempotencyKey = true ∧ availability.supportsInvocationLedger = true))
    ⟨.providerUnavailable, "idempotency-key tool lacks durable target deduplication"⟩

/-- An error of a dependency is shown only when it is one of those allowed. -/
def redactedDependencyError (fallback : GatewayError) (allowed : List GatewayError) (refusal : Refusal) : Refusal :=
  if refusal.error ∈ allowed then refusal.error else fallback

/-- The effect that an admission stores, when the authority, the authorizer, the credential broker
and the provider answer with this scope and this availability. -/
def Gateway.admittedEffect (request : AdmissionRequest) (scope : ValidatedAuthority)
    (availability : ServerAvailability) : Except Refusal Effect := do
  refuseIf (¬ (request.effectId.kind = some .effect ∧ request.invocationId.kind = some .invocation ∧
      request.requestDigest ≠ zeroDigest ∧ request.authority ≠ [] ∧
      request.authority.length ≤ gateway.bounds.maxAuthorityBytes))
    invalidRequest
  refuseIf (¬ (ValidIdentifier request.call.serverId gateway.bounds.maxServerIdBytes ∧
      ValidIdentifier request.call.toolName gateway.bounds.maxToolNameBytes))
    invalidRequest
  let digest ← require (gateway.digestCanonicalCall request.call.serverId request.call.toolName request.call.input)
    ⟨.invalidRequest, "digest MCP request"⟩
  refuseIf (digest ≠ request.requestDigest) ⟨.invalidRequest, "request digest does not match prepared effect"⟩
  refuseIf (¬ (ValidScope scope ∧ scope.effectId = request.effectId ∧
    scope.invocationId = request.invocationId)) authorityMismatch
  let key : ServerKey := ⟨scope.tenantId, scope.userId, request.call.serverId⟩
  let server ← require (gateway.server key) serverNotAllowed
  let server ← (resolveServerRegistration server scope).mapError
    (redactedDependencyError toolNotAllowed [invalidRequest, serverNotAllowed, toolNotAllowed, authorizationMismatch])
  let tool ← require (gateway.tool key request.call.toolName) toolNotAllowed
  checkAvailability server tool availability
  return {
    scope, requestDigest := digest, serverId := server.serverId, toolName := tool.toolName
    providerId := server.providerId, transport := server.transport, targetRef := server.targetRef
    protocolVersion := server.protocolVersion, affinity := server.affinity
    credential := server.credential, inputCanonical := request.call.input
    sideEffecting := tool.sideEffecting, replayPolicy := tool.replayPolicy
    maxAutomaticRetries := tool.maxAutomaticRetries
    maxConfirmationRetries := tool.maxConfirmationRetries
    supportsInvocationLedger := availability.supportsInvocationLedger
    supportsIdempotencyKey := availability.supportsIdempotencyKey
    state := .admitted, revision := 1, eventCount := 0, eventBytes := 0, attempts := []
    automaticRetriesUsed := 0, confirmationRetriesUsed := 0, chunkCount := 0, streamBytes := 0
    externalCommitId := "", output := [], failureReason := "", cancellationRequested := false }

end Circulusd.Mcp
