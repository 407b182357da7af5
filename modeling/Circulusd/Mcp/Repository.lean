import Circulusd.Library.Store
import Circulusd.Mcp.Permits

/-
The effect repository. One lock guards every operation, so each is a function of the whole state;
`now` is the reading of the clock in nanoseconds, and the hash of the permit proofs is a parameter.
-/

namespace Circulusd.Mcp

open Checked KeyValue Platform Protocol GatewayError Function

structure ScopeKey where
  tenant : ID
  session : ID
  turn : ID
deriving DecidableEq

structure ServerRequestKey where
  invocation : ID
  providerRequestId : String
  connectionGeneration : Nat
  requestId : String
deriving DecidableEq, Inhabited

/-- `dispatchClaimKey`: the source appends the four bytes of the attempt to the invocation. -/
structure ClaimKey where
  invocation : String
  attempt : Nat
deriving DecidableEq

inductive ProviderStartStatus where
  | active
  | completed
  | revoked
deriving DecidableEq

structure ProviderStartRecord where
  permit : ProviderStartPermit
  status : ProviderStartStatus
deriving DecidableEq

structure MemoryRepository where
  effects : Store String Effect
  scopes : Store ScopeKey ValidatedAuthority
  active : Store ScopeKey String
  claims : Store ClaimKey DispatchPermit
  providerStarts : Store ClaimKey ProviderStartRecord
  cancellationClaims : Store ClaimKey CancellationPermit
  serverRequests : Store ServerRequestKey ServerRequestRecord
  serverRequestCounts : String → Nat
  serverRequestLimits : Store String Nat
  activeServerRequests : Store String ServerRequestKey
  serverRequestReconciliations : Store String ServerRequestKey
  serverRequestCancellationPermits : Store ServerRequestKey ServerRequestPermit
  parentCancellationRequired : Store String ServerRequestKey
  pendingAudits : Store Nat AuditEnvelope
  auditSequence : Nat
  nonce : Nat

def newMemoryRepository : MemoryRepository where
  effects _ := none
  scopes _ := none
  active _ := none
  claims _ := none
  providerStarts _ := none
  cancellationClaims _ := none
  serverRequests _ := none
  serverRequestCounts _ := 0
  serverRequestLimits _ := none
  activeServerRequests _ := none
  serverRequestReconciliations _ := none
  serverRequestCancellationPermits _ := none
  parentCancellationRequired _ := none
  pendingAudits _ := none
  auditSequence := 0
  nonce := 0

def keyForScope (scope : ValidatedAuthority) : ScopeKey :=
  ⟨scope.tenantId, scope.sessionId, scope.turnId⟩

/-- The effects map is keyed by the text of the invocation. -/
def Effect.key (effect : Effect) : String :=
  effect.scope.invocationId.value

def sameFence (left right : ValidatedAuthority) : Prop :=
  left.tenantId = right.tenantId ∧ left.userId = right.userId ∧ left.sessionId = right.sessionId ∧
    left.workspaceId = right.workspaceId ∧ left.turnId = right.turnId ∧
    left.runtimeRevision = right.runtimeRevision ∧ left.generations = right.generations
deriving Decidable

/-- Unknown outcomes may still have a late provider owner. -/
def retainsLateProviderOwner (effect : Effect) : Prop :=
  effect.state = .uncertain ∨ effect.state = .failed ∧ ∃ attempt ∈ effect.currentAttempt, attempt.failure = .unknown
deriving Decidable

def leaseLimit : Int := 30000000000

/-- An unsigned counter of 64 bits. -/
def increment (value : Nat) : Nat :=
  (value + 1) % 2 ^ 64

def bigEndian (width value : Nat) : Bytes :=
  (List.range width).map fun index => UInt8.ofNat (value / 256 ^ (width - 1 - index))

def textBytes (text : String) : Bytes :=
  text.toUTF8.toList

def ClaimKey.bytes (key : ClaimKey) : Bytes :=
  textBytes key.invocation ++ bigEndian 4 key.attempt

section Operations

variable (sha256 : Bytes → Digest) (repository : MemoryRepository)

/-- Every operation on a stored effect needs the current generation of its scope. -/
def MemoryRepository.checkFence (current : Effect) (scope : ValidatedAuthority) : Except Refusal Unit :=
  refuseIf (¬ (sameOperationScope scope current.scope ∧
      sameFence ((repository.scopes (keyForScope current.scope)).getD default) scope))
    staleAuthority

def MemoryRepository.admitEffect (effect : Effect) : Except Refusal (StoredEffect × MemoryRepository) :=
  match repository.effects effect.key with
  | some existing => do
    refuseIf (¬ sameImmutableEffect existing effect) invocationConflict
    refuseIf (¬ sameFence ((repository.scopes (keyForScope effect.scope)).getD default) effect.scope) staleAuthority
    return (⟨existing, true, none⟩, repository)
  | none => do
    let scope := keyForScope effect.scope
    refuseIf (∃ current ∈ repository.scopes scope, ¬ sameFence current effect.scope) staleAuthority
    refuseIf (∃ invocation ∈ repository.active scope, invocation ≠ effect.key) effectInFlight
    return (⟨effect, true, none⟩, { repository with
      scopes := update repository.scopes scope (some effect.scope)
      effects := update repository.effects effect.key (some effect)
      active := update repository.active scope (some effect.key) })

def MemoryRepository.commitAndClaimDispatch (request : DispatchClaimRequest) :
    Except Refusal (DispatchPermit × MemoryRepository) := do
  let key := request.previous.key
  let current ← require (repository.effects key) invocationNotFound
  refuseIf (current.revision ≠ request.expectedRevision ∨ current ≠ request.previous) concurrentTransition
  repository.checkFence current request.currentScope
  refuseIf ((repository.active (keyForScope current.scope)).getD "" ≠ key) effectInFlight
  refuseIf (¬ (request.next.revision = increment request.expectedRevision ∧
      request.next.state = .dispatching ∧ sameImmutableEffect current request.next ∧
      ValidAuthorizationPermit request.authorization request.currentScope current.serverId
        current.toolName current.requestDigest)) invalidTransition
  let attempt ← require request.next.currentAttempt invalidTransition
  refuseIf (attempt.attempt = 0 ∨ attempt.attempt ≠ request.next.attempts.length % 2 ^ 32) invalidTransition
  let claimKey : ClaimKey := ⟨key, attempt.attempt⟩
  refuseIf ((repository.claims claimKey).isSome = true) concurrentTransition
  let nonce := increment repository.nonce
  let permit : DispatchPermit := {
    proof := sha256 (textBytes key ++ bigEndian 8 attempt.attempt ++ bigEndian 8 nonce), durable := true
    scope := request.currentScope, invocationId := current.scope.invocationId
    requestDigest := current.requestDigest, providerId := current.providerId, attempt := attempt.attempt
    effectRevision := request.next.revision, authorization := request.authorization }
  return (permit, { repository with
    nonce
    effects := update repository.effects key (some request.next)
    claims := update repository.claims claimKey (some permit) })

def MemoryRepository.claimProviderStart (request : ProviderStartClaimRequest) (now : Int) :
    Except Refusal (ProviderStartPermit × MemoryRepository) := do
  refuseIf (request.lease ≤ 0 ∨ leaseLimit < request.lease) invalidRequest
  let key := request.effect.key
  let current ← require (repository.effects key) invocationNotFound
  refuseIf (¬ (current = request.effect ∧ current.state = .dispatching ∧
    current.cancellationRequested = false)) concurrentTransition
  repository.checkFence current request.currentScope
  refuseIf ((repository.active (keyForScope current.scope)).getD "" ≠ key) effectInFlight
  let attempt ← require current.currentAttempt invalidTransition
  refuseIf (attempt.negotiation = .zero) invalidTransition
  let claimKey : ClaimKey := ⟨key, attempt.attempt⟩
  refuseIf (¬ (request.dispatch ≠ default ∧ (repository.claims claimKey).getD default = request.dispatch ∧
      request.dispatch.scope = request.currentScope ∧
      request.dispatch.invocationId = current.scope.invocationId ∧
      request.dispatch.requestDigest = current.requestDigest ∧
      request.dispatch.providerId = current.providerId ∧ request.dispatch.attempt = attempt.attempt))
    dispatchNotDurable
  match repository.providerStarts claimKey with
  | some existing => do
    refuseIf (¬ (existing.status = .active ∧ existing.permit.scope = request.currentScope ∧
        existing.permit.effectRevision = current.revision ∧
        existing.permit.dispatch = request.dispatch ∧
        existing.permit.negotiation = attempt.negotiation ∧
        now < existing.permit.leaseExpiresAtUnixNano)) concurrentTransition
    return (existing.permit, repository)
  | none => do
    let nonce := increment repository.nonce
    let permit : ProviderStartPermit := {
      proof := sha256 (textBytes "mcp.provider.start\x00" ++ claimKey.bytes ++ bigEndian 8 nonce)
      durable := true, scope := request.currentScope, invocationId := current.scope.invocationId
      requestDigest := current.requestDigest, providerId := current.providerId
      attempt := attempt.attempt, effectRevision := current.revision, claimGeneration := 1
      leaseExpiresAtUnixNano := now + request.lease, dispatch := request.dispatch
      negotiation := attempt.negotiation }
    return (permit, { repository with
      nonce
      providerStarts := update repository.providerStarts claimKey (some ⟨permit, .active⟩) })

/-- The answer for an attempt that was never started. -/
def startAbsent : StoredProviderStartResolution :=
  ⟨default, false, true, false, 0⟩

def startPresent (permit : ProviderStartPermit) : StoredProviderStartResolution :=
  ⟨permit, true, true, false, 0⟩

def MemoryRepository.resolveProviderStart (request : ProviderStartResolutionRequest) (now : Int) :
    Except Refusal (StoredProviderStartResolution × MemoryRepository) := do
  let key := request.effect.key
  let current ← require (repository.effects key) invocationNotFound
  refuseIf (current ≠ request.effect) concurrentTransition
  repository.checkFence current request.currentScope
  let attempt ← require current.currentAttempt invalidTransition
  let claimKey : ClaimKey := ⟨key, attempt.attempt⟩
  match repository.providerStarts claimKey with
  | none => do
    refuseIf (current.state ≠ .dispatching ∨ attempt.providerRequestId ≠ "") storeUnavailable
    return (startAbsent, { repository with
      providerStarts := update repository.providerStarts claimKey (some ⟨default, .revoked⟩) })
  | some start =>
    if start.status = .revoked ∧ start.permit = default then
      return (startAbsent, repository)
    else if start.status = .active then
      if sameFence start.permit.scope request.currentScope ∧ now < start.permit.leaseExpiresAtUnixNano then
        return (⟨start.permit, true, true, true, start.permit.leaseExpiresAtUnixNano - now⟩, repository)
      else
        return (startPresent start.permit, { repository with
          providerStarts :=
            update repository.providerStarts claimKey (some { start with status := .revoked }) })
    else
      return (startPresent start.permit, repository)

/-- The request of a broker that must cancel a nested effect of its own. -/
def ServerRequestMethod.brokered (method : ServerRequestMethod) : Prop :=
  method = .sampling ∨ method = .elicitation
deriving Decidable

/-- The nested request that a cancellation of the parent has to settle. -/
def MemoryRepository.pendingChild (key : String) : Except Refusal (ServerRequestPermit × ServerRequestMethod) :=
  match repository.serverRequestReconciliations key with
  | none => return (default, default)
  | some childKey => do
    let record ← require (repository.serverRequests childKey) storeUnavailable
    let permit ← require (repository.serverRequestCancellationPermits childKey) storeUnavailable
    refuseIf (¬ (record.state = .abandoned ∧ record.method.brokered)) storeUnavailable
    return (permit, record.method)

/-- The claim of a cancellation: its proof is stable, its generation counts the owners. The number
of the next proof advances before the nested request is looked up, also where that fails. -/
def MemoryRepository.issueCancellation (request : CancellationClaimRequest) (current : Effect)
    (attempt : AttemptRecord) (now : Int) : Except Refusal CancellationClaim × MemoryRepository :=
  let key := request.effect.key
  let claimKey : ClaimKey := ⟨key, attempt.attempt⟩
  let nonce := increment repository.nonce
  let (proof, generation, advanced) := match repository.cancellationClaims claimKey with
    | some existing => (existing.proof, increment existing.claimGeneration, repository)
    | none => (sha256 (textBytes "mcp.cancel\x00" ++ claimKey.bytes ++ bigEndian 8 nonce), 1, { repository with nonce })
  match repository.pendingChild key with
  | .error refusal => (.error refusal, advanced)
  | .ok (serverRequest, serverRequestMethod) =>
    let permit : CancellationPermit := {
      proof, durable := true, scope := request.currentScope
      invocationId := current.scope.invocationId, requestDigest := current.requestDigest
      providerId := current.providerId, providerRequestId := attempt.providerRequestId
      attempt := attempt.attempt, effectRevision := current.revision, claimGeneration := generation
      leaseExpiresAtUnixNano := now + request.lease
      start := ((repository.providerStarts claimKey).map ProviderStartRecord.permit).getD default
      serverRequest, serverRequestMethod }
    (.ok ⟨permit, true, 0⟩, { advanced with
      cancellationClaims := update repository.cancellationClaims claimKey (some permit) })

def MemoryRepository.claimCancellation (request : CancellationClaimRequest) (now : Int) :
    Except Refusal (Except Refusal CancellationClaim × MemoryRepository) := do
  refuseIf (request.lease ≤ 0 ∨ leaseLimit < request.lease) invalidRequest
  let current ← require (repository.effects request.effect.key) invocationNotFound
  refuseIf (¬ (current = request.effect ∧ current.state = .cancellationPending)) concurrentTransition
  repository.checkFence current request.currentScope
  let attempt ← require current.currentAttempt invalidTransition
  match repository.cancellationClaims ⟨request.effect.key, attempt.attempt⟩ with
  | some existing =>
    if sameFence existing.scope request.currentScope ∧ now < existing.leaseExpiresAtUnixNano then
      return (.ok ⟨existing, false, existing.leaseExpiresAtUnixNano - now⟩, repository)
    else return repository.issueCancellation sha256 request current attempt now
  | none => return repository.issueCancellation sha256 request current attempt now

/-- `enqueueAuditLocked`. -/
def MemoryRepository.enqueueAudit (event : Option AuditEvent) :
    Except Refusal (Option AuditEnvelope × MemoryRepository) :=
  match event with
  | none => return (none, repository)
  | some event => do
    refuseIf (repository.auditSequence = maxUint64) storeUnavailable
    let sequence := repository.auditSequence + 1
    let envelope : AuditEnvelope := ⟨sequence, { event with outboxSequence := sequence }⟩
    return (some envelope, { repository with
      auditSequence := sequence
      pendingAudits := update repository.pendingAudits sequence (some envelope) })

def ServerRequestMethod.auditText : ServerRequestMethod → String
  | .sampling => "sampling/createMessage"
  | .elicitation => "elicitation/create"
  | .roots => "roots/list"
  | .other _ => "unsupported"

def serverRequestAudit (effect : Effect) (method : ServerRequestMethod) (decision reason : String) : AuditEvent where
  outboxSequence := 0
  tenantId := effect.scope.tenantId
  userId := effect.scope.userId
  sessionId := effect.scope.sessionId
  turnId := effect.scope.turnId
  invocationId := effect.scope.invocationId
  serverId := effect.serverId
  method := method.auditText
  decision := decision
  reason := reason

def serverRequestAbandonAudit (effect : Effect) (record : ServerRequestRecord) : AuditEvent :=
  serverRequestAudit effect record.method "failed" "server request abandoned before completion"

def ServerRequestRecord.abandoned (record : ServerRequestRecord) (scope : ValidatedAuthority) (now : Int)
    (auditSequence : Nat) : ServerRequestRecord :=
  { record with
    state := .abandoned, auditSequence
    permit := { record.permit with
      scope, claimGeneration := increment record.permit.claimGeneration, leaseExpiresAtUnixNano := now } }

/-- The broker of an abandoned request still has to cancel its nested effect. -/
def ServerRequestRecord.needsReconciliation (record : ServerRequestRecord) : Prop :=
  record.brokerCancellationRequired = true ∧ record.method.brokered
deriving Decidable

/-- An active server request that is given up: its claim ends, and its broker may be left to do. -/
def MemoryRepository.abandon (key : String) (childKey : ServerRequestKey) (record : ServerRequestRecord)
    (scope : ValidatedAuthority) (now : Int) (auditSequence : Nat) : MemoryRepository :=
  { repository with
    serverRequests := update repository.serverRequests childKey (some (record.abandoned scope now auditSequence))
    activeServerRequests := update repository.activeServerRequests key none
    serverRequestReconciliations := if record.needsReconciliation then
        update repository.serverRequestReconciliations key (some childKey)
      else repository.serverRequestReconciliations
    serverRequestCancellationPermits := if record.needsReconciliation then
        update repository.serverRequestCancellationPermits childKey (some record.permit)
      else repository.serverRequestCancellationPermits }

/-- The slot of a turn is released when its effect has ended for good. -/
def MemoryRepository.release (key : String) (effect : Effect) : MemoryRepository :=
  if effect.Terminal ∧ ¬ retainsLateProviderOwner effect ∧
      (repository.active (keyForScope effect.scope)).getD "" = key then
    { repository with
      active := update repository.active (keyForScope effect.scope) none
      cancellationClaims := match effect.currentAttempt with
        | some attempt => update repository.cancellationClaims ⟨key, attempt.attempt⟩ none
        | none => repository.cancellationClaims }
  else repository

def cancellationIntent (current next : Effect) : Prop :=
  current.cancellationRequested = false ∧ next.cancellationRequested = true ∧ next.state = .cancellationPending ∧
    current.state ∈ [State.dispatching, State.dispatched, State.streaming, State.uncertain,
      State.needsConfirmation, State.failed]
deriving Decidable

/-- What a commit does to the provider start of the current attempt. -/
def MemoryRepository.fenceStart (request : TransitionCommitRequest) (current : Effect) (now : Int) :
    Except Refusal (Option (ClaimKey × ProviderStartRecord)) :=
  match current.currentAttempt with
  | none => do
    refuseIf (request.providerStart.isSome = true) invalidTransition
    return none
  | some attempt =>
    let startKey : ClaimKey := ⟨request.previous.key, attempt.attempt⟩
    match request.providerStart, repository.providerStarts startKey with
    | some permit, some start => do
      refuseIf (¬ (current.state = .dispatching ∧ start.status = .active ∧ start.permit = permit)) concurrentTransition
      return some (startKey, { start with status := .completed })
    | some _, none => .error ↑concurrentTransition
    | none, some start => do
      refuseIf (start.status = .active ∧ ¬ cancellationIntent current request.next ∧
          sameFence start.permit.scope request.currentScope ∧
          now < start.permit.leaseExpiresAtUnixNano) effectInFlight
      return if start.status = .active then some (startKey, { start with status := .revoked }) else none
    | none, none => return none

/-- The answer of a cancellation is committed under the claim that sent it. -/
def MemoryRepository.checkCancellation (request : TransitionCommitRequest) (current : Effect) : Except Refusal Unit :=
  match request.cancellation with
  | none => return ()
  | some permit =>
    refuseIf (¬ ∃ attempt ∈ current.currentAttempt, current.state = .cancellationPending ∧
        (repository.cancellationClaims ⟨request.previous.key, attempt.attempt⟩).getD default = permit)
      concurrentTransition

/-- The active server request that a commit gives up. -/
def MemoryRepository.lapsedChild (request : TransitionCommitRequest) (current : Effect) (now : Int) :
    Except Refusal (Option (ServerRequestKey × ServerRequestRecord)) :=
  match repository.activeServerRequests request.previous.key with
  | none => return none
  | some childKey => do
    let record ← require (repository.serverRequests childKey) effectInFlight
    refuseIf (record.state ≠ .claimed ∨ ¬ cancellationIntent current request.next ∧
      now < record.permit.leaseExpiresAtUnixNano) effectInFlight
    return some (childKey, record)

def MemoryRepository.writeStart (write : Option (ClaimKey × ProviderStartRecord)) : MemoryRepository :=
  match write with
  | none => repository
  | some (key, record) =>
    { repository with providerStarts := update repository.providerStarts key (some record) }

/-- The abandonment of a commit, with its audit record. -/
def MemoryRepository.abandonLapsed (current : Effect) (child : Option (ServerRequestKey × ServerRequestRecord))
    (scope : ValidatedAuthority) (now : Int) : Except Refusal MemoryRepository :=
  match child with
  | none => return repository
  | some (childKey, record) => do
    let (_, audited) ← repository.enqueueAudit (some (serverRequestAbandonAudit current record))
    return audited.abandon current.key childKey record scope now audited.auditSequence

/-- The effect and its slot after a commit. A nested effect that is still to be cancelled keeps it. -/
def MemoryRepository.storeNext (current next : Effect) (reconciles : Bool) : MemoryRepository :=
  let scope := keyForScope current.scope
  let taken := if repository.active scope = none ∧ ¬ next.Terminal then
      { repository with active := update repository.active scope (some current.key) }
    else repository
  let stored := { taken with
    effects := update taken.effects current.key (some next)
    parentCancellationRequired := if cancellationIntent current next then
        update taken.parentCancellationRequired current.key none
      else taken.parentCancellationRequired }
  if reconciles then stored else stored.release current.key next

def MemoryRepository.commit (request : TransitionCommitRequest) (now : Int) :
    Except Refusal (StoredEffect × MemoryRepository) := do
  let key := request.previous.key
  let current ← require (repository.effects key) invocationNotFound
  refuseIf (current.revision ≠ request.expectedRevision ∨ current ≠ request.previous) concurrentTransition
  repository.checkFence current request.currentScope
  refuseIf (¬ (request.next.revision = increment request.expectedRevision ∧
    sameImmutableEffect current request.next)) invalidTransition
  refuseIf ((repository.parentCancellationRequired key).isSome = true ∧
    ¬ cancellationIntent current request.next) effectInFlight
  let start ← repository.fenceStart request current now
  repository.checkCancellation request current
  refuseIf ((repository.serverRequestReconciliations key).isSome = true) effectInFlight
  let child ← repository.lapsedChild request current now
  let owner := repository.active (keyForScope current.scope)
  refuseIf (∃ invocation ∈ owner, invocation ≠ key) effectInFlight
  refuseIf (owner = none ∧ ¬ current.Terminal) effectInFlight
  let auditCount := (if request.audit.isSome then 1 else 0) + if child.isSome then 1 else 0
  refuseIf (maxUint64 - repository.auditSequence < auditCount) storeUnavailable
  let (audit, audited) ← repository.enqueueAudit request.audit
  let abandoned ← audited.abandonLapsed current child request.currentScope now
  let reconciles := child.any fun lapsed => lapsed.2.needsReconciliation
  return (⟨request.next, true, audit⟩, (abandoned.writeStart start).storeNext current request.next reconciles)

/-- The nested request that is already being settled. -/
def MemoryRepository.reportPending (request : ServerRequestReconcileRequest) (current : Effect)
    (childKey : ServerRequestKey) : Except Refusal ServerRequestReconcileResult := do
  refuseIf (current ≠ request.parent) concurrentTransition
  let record ← require (repository.serverRequests childKey) storeUnavailable
  let permit ← require (repository.serverRequestCancellationPermits childKey) storeUnavailable
  refuseIf (¬ (record.state = .abandoned ∧ record.needsReconciliation)) storeUnavailable
  return { durable := true, reconciled := false, active := false, pendingCancellation := true
           parentCancelRequired := (repository.parentCancellationRequired request.parent.key).isSome
           record := some record, cancellationClaim := permit, retryAfter := 0 }

/-- The active request is left alone while its lease runs, and abandoned afterwards. -/
def MemoryRepository.reconcileActive (request : ServerRequestReconcileRequest) (current : Effect)
    (childKey : ServerRequestKey) (now : Int) :
    Except Refusal (ServerRequestReconcileResult × MemoryRepository) := do
  refuseIf (current ≠ request.parent) concurrentTransition
  let record ← require (repository.serverRequests childKey) storeUnavailable
  refuseIf (record.state ≠ .claimed) storeUnavailable
  if now < record.permit.leaseExpiresAtUnixNano then
    return ({ durable := true, reconciled := false, active := true, pendingCancellation := false
              parentCancelRequired := false, record := none, cancellationClaim := default
              retryAfter := record.permit.leaseExpiresAtUnixNano - now }, repository)
  else
    let (_, audited) ← repository.enqueueAudit (some (serverRequestAbandonAudit current record))
    let abandoned := audited.abandon request.parent.key childKey record request.currentScope now audited.auditSequence
    return ({ durable := true, reconciled := true, active := false
              pendingCancellation := decide record.needsReconciliation, parentCancelRequired := true
              record := some (record.abandoned request.currentScope now audited.auditSequence)
              cancellationClaim := if record.needsReconciliation then record.permit else default
              retryAfter := 0 },
      { abandoned with
        parentCancellationRequired :=
          update abandoned.parentCancellationRequired request.parent.key (some childKey) })

def MemoryRepository.reconcileServerRequests (request : ServerRequestReconcileRequest) (now : Int) :
    Except Refusal (ServerRequestReconcileResult × MemoryRepository) := do
  let key := request.parent.key
  let current ← require (repository.effects key) invocationNotFound
  repository.checkFence current request.currentScope
  match repository.serverRequestReconciliations key with
  | some childKey => do
    let result ← repository.reportPending request current childKey
    return (result, repository)
  | none =>
    match repository.activeServerRequests key with
    | none =>
      return ({ durable := true, reconciled := false, active := false, pendingCancellation := false
                parentCancelRequired := (repository.parentCancellationRequired key).isSome
                record := none, cancellationClaim := default, retryAfter := 0 }, repository)
    | some childKey => repository.reconcileActive request current childKey now

/-- `validSamplingCancellationReceipt`, for the claim of the parent in the given scope. -/
def ValidSamplingCancellationReceipt (receipt : SamplingCancellationReceipt) (scope : ValidatedAuthority)
    (parent : Effect) (claim : ServerRequestPermit) : Prop :=
  receipt.durable = true ∧ receipt.proof ≠ zeroDigest ∧ receipt.scope = scope ∧
    receipt.parentEffectId = parent.scope.effectId ∧
    receipt.parentInvocationId = parent.scope.invocationId ∧
    receipt.childEffectId = claim.childEffectId ∧ receipt.childInvocationId = claim.childInvocationId ∧
    receipt.requestDigest = claim.requestDigest ∧ receipt.claimProof = claim.proof ∧
    claim.durable = true ∧ claim.proof ≠ zeroDigest ∧
    claim.parentInvocationId = parent.scope.invocationId ∧ claim.childEffectId.kind = some .effect ∧
    claim.childInvocationId.kind = some .invocation
deriving Decidable

/-- `validElicitationCancellationReceipt`, for the claim of the parent in the given scope. -/
def ValidElicitationCancellationReceipt (receipt : ElicitationCancellationReceipt)
    (scope : ValidatedAuthority) (parent : Effect) (claim : ServerRequestPermit) : Prop :=
  receipt.durable = true ∧ receipt.proof ≠ zeroDigest ∧ receipt.scope = scope ∧
    receipt.parentEffectId = parent.scope.effectId ∧
    receipt.parentInvocationId = parent.scope.invocationId ∧
    receipt.requestDigest = claim.requestDigest ∧ receipt.claimProof = claim.proof ∧
    claim.durable = true ∧ claim.proof ≠ zeroDigest ∧
    claim.parentInvocationId = parent.scope.invocationId
deriving Decidable

/-- The receipt of the record's own broker, and of no other, ends a reconciliation. -/
def ServerRequestRecord.settledBy (record : ServerRequestRecord) (current : Effect)
    (request : ServerRequestReconcileCommitRequest) : Except Refusal ServerRequestRecord :=
  match record.method with
  | .sampling => do
    refuseIf (¬ (request.elicitationCancellation = default ∧
        ValidSamplingCancellationReceipt request.cancellation request.currentScope current request.permit))
      serverRequestDenied
    return { record with childCancellation := request.cancellation }
  | .elicitation => do
    refuseIf (¬ (request.cancellation = default ∧
        ValidElicitationCancellationReceipt request.elicitationCancellation request.currentScope current
          request.permit)) serverRequestDenied
    return { record with elicitationCancellation := request.elicitationCancellation }
  | .roots | .other _ => return record

def MemoryRepository.completeServerRequestReconciliation (request : ServerRequestReconcileCommitRequest) :
    Except Refusal (StoredServerRequest × MemoryRepository) := do
  let key := request.permit.parentInvocationId.value
  let current ← require (repository.effects key) invocationNotFound
  repository.checkFence current request.currentScope
  let childKey ← require (repository.serverRequestReconciliations key) invocationConflict
  refuseIf ((repository.serverRequestCancellationPermits childKey).getD default ≠ request.permit) invocationConflict
  let record ← require (repository.serverRequests childKey) storeUnavailable
  refuseIf (¬ (record.state = .abandoned ∧ record.needsReconciliation)) storeUnavailable
  let settled ← record.settledBy current request
  let reconciled := { repository with
    serverRequests := update repository.serverRequests childKey (some settled)
    serverRequestReconciliations := update repository.serverRequestReconciliations key none
    serverRequestCancellationPermits :=
      update repository.serverRequestCancellationPermits childKey none }
  return (⟨settled, true, true, none, 0⟩, reconciled.release key current)

/-- A server request belongs to the call that the provider is running. -/
def Effect.serves (current : Effect) (request : ServerRequestClaimRequest) : Except Refusal Unit := do
  refuseIf (current.state ≠ .dispatched ∧ current.state ≠ .streaming) invalidTransition
  refuseIf (¬ ∃ attempt ∈ current.currentAttempt, attempt.providerRequestId = request.providerRequestId ∧
      attempt.negotiation.connectionGeneration = request.connectionGeneration)
    authorityMismatch

def ServerRequestClaimRequest.key (request : ServerRequestClaimRequest) : ServerRequestKey :=
  ⟨request.parent.scope.invocationId, request.providerRequestId, request.connectionGeneration, request.requestId⟩

/-- A request that is known already: its result, the running claim, or a claim with a new lease. -/
def MemoryRepository.replayServerRequest (request : ServerRequestClaimRequest) (current : Effect)
    (existing : ServerRequestRecord) (now : Int) :
    Except Refusal (StoredServerRequest × MemoryRepository) := do
  refuseIf (¬ (existing.parentInvocationId = request.parent.scope.invocationId ∧
      existing.providerRequestId = request.providerRequestId ∧
      existing.connectionGeneration = request.connectionGeneration ∧
      existing.requestId = request.requestId ∧ existing.method = request.method ∧
      existing.requestDigest = request.requestDigest ∧
      existing.brokerCancellationRequired = request.brokerCancellationRequired))
    invocationConflict
  match existing.state with
  | .completed => return (⟨existing, true, false, none, 0⟩, repository)
  | .abandoned => .error ↑invalidTransition
  | .claimed => do
    current.serves request
    if sameFence existing.permit.scope request.currentScope ∧ now < existing.permit.leaseExpiresAtUnixNano then
      return (⟨existing, true, false, none, existing.permit.leaseExpiresAtUnixNano - now⟩, repository)
    else
      let renewed := { existing with permit := { existing.permit with
        scope := request.currentScope
        claimGeneration := increment existing.permit.claimGeneration
        leaseExpiresAtUnixNano := now + request.lease } }
      return (⟨renewed, true, true, none, 0⟩, { repository with
        serverRequests := update repository.serverRequests request.key (some renewed)
        activeServerRequests := update repository.activeServerRequests request.parent.key (some request.key) })

def MemoryRepository.newServerRequest (request : ServerRequestClaimRequest) (now : Int) :
    StoredServerRequest × MemoryRepository :=
  let key := request.parent.key
  let nonce := increment repository.nonce
  let permit : ServerRequestPermit := {
    proof := sha256 (textBytes key ++ textBytes request.providerRequestId ++
      bigEndian 8 request.connectionGeneration ++ textBytes request.requestId ++ bigEndian 8 nonce)
    durable := true, scope := request.currentScope
    parentInvocationId := request.parent.scope.invocationId
    providerRequestId := request.providerRequestId
    connectionGeneration := request.connectionGeneration, requestId := request.requestId
    requestDigest := request.requestDigest, childEffectId := request.childEffectId
    childInvocationId := request.childInvocationId, claimGeneration := 1
    leaseExpiresAtUnixNano := now + request.lease }
  let record : ServerRequestRecord := {
    state := .claimed, parentInvocationId := request.parent.scope.invocationId
    providerRequestId := request.providerRequestId
    connectionGeneration := request.connectionGeneration, requestId := request.requestId
    method := request.method, requestDigest := request.requestDigest
    brokerCancellationRequired := request.brokerCancellationRequired, response := default, permit
    childCancellation := default, elicitationCancellation := default, auditSequence := 0 }
  (⟨record, true, true, none, 0⟩, { repository with
    nonce
    serverRequests := update repository.serverRequests request.key (some record)
    serverRequestLimits := update repository.serverRequestLimits key (some request.maxRequests)
    serverRequestCounts := update repository.serverRequestCounts key (repository.serverRequestCounts key + 1)
    activeServerRequests := update repository.activeServerRequests key (some request.key) })

/-- The fields of a claim that the repository reads before it takes the lock. -/
def ServerRequestClaimRequest.validate (request : ServerRequestClaimRequest) : Except Refusal Unit := do
  refuseIf (request.lease ≤ 0 ∨ leaseLimit < request.lease ∨ request.connectionGeneration = 0 ∨
    request.maxRequests = 0 ∨ hardMaxEvents < request.maxRequests) invalidRequest
  if request.brokerCancellationRequired = true ∧ request.method = .sampling then
    refuseIf (request.childEffectId.kind ≠ some .effect ∨
      request.childInvocationId.kind ≠ some .invocation) invalidRequest
  else
    refuseIf (request.childEffectId ≠ default ∨ request.childInvocationId ≠ default) invalidRequest
  refuseIf (request.brokerCancellationRequired = true ∧ ¬ request.method.brokered) invalidRequest

/-- The limit of a parent's requests is fixed by its first one. -/
def MemoryRepository.checkLimit (request : ServerRequestClaimRequest) : Except Refusal Unit :=
  match repository.serverRequestLimits request.parent.key with
  | some limit => refuseIf (limit ≠ request.maxRequests) invalidRequest
  | none => refuseIf (repository.serverRequestCounts request.parent.key ≠ 0) storeUnavailable

/-- A request that is not known yet. At the limit it is refused, and its parent must be cancelled. -/
def MemoryRepository.admitServerRequest (request : ServerRequestClaimRequest) (current : Effect) (now : Int) :
    Except Refusal (Except Refusal StoredServerRequest × MemoryRepository) := do
  refuseIf (current ≠ request.parent) invalidTransition
  current.serves request
  if request.maxRequests ≤ repository.serverRequestCounts request.parent.key then
    let (_, audited) ← repository.enqueueAudit
      (some (serverRequestAudit current request.method "denied" "server request limit exceeded"))
    return (.error eventLimit, { audited with
      parentCancellationRequired := update audited.parentCancellationRequired request.parent.key (some request.key) })
  else
    refuseIf ((repository.activeServerRequests request.parent.key).isSome = true) effectInFlight
    let (stored, next) := repository.newServerRequest sha256 request now
    return (.ok stored, next)

def MemoryRepository.claimServerRequest (request : ServerRequestClaimRequest) (now : Int) :
    Except Refusal (Except Refusal StoredServerRequest × MemoryRepository) := do
  request.validate
  let key := request.parent.key
  let current ← require (repository.effects key) invocationNotFound
  repository.checkFence current request.currentScope
  repository.checkLimit request
  refuseIf ((repository.parentCancellationRequired key).isSome = true) invalidTransition
  refuseIf ((repository.serverRequestReconciliations key).isSome = true) effectInFlight
  match repository.serverRequests request.key with
  | some existing => do
    let (stored, next) ← repository.replayServerRequest request current existing now
    return (.ok stored, next)
  | none => repository.admitServerRequest sha256 request current now

def ServerRequestPermit.key (permit : ServerRequestPermit) : ServerRequestKey :=
  ⟨permit.parentInvocationId, permit.providerRequestId, permit.connectionGeneration, permit.requestId⟩

/-- The receipts that may come with a response. -/
def ServerRequestRecord.withReceipts (record : ServerRequestRecord) (current : Effect)
    (request : ServerRequestCommitRequest) : Except Refusal ServerRequestRecord := do
  refuseIf (request.samplingCancellation ≠ default ∧
      ¬ (record.method = .sampling ∧ ValidSamplingCancellationReceipt request.samplingCancellation
        request.currentScope current request.permit)) serverRequestDenied
  refuseIf (request.elicitationCancellation ≠ default ∧
      ¬ (record.method = .elicitation ∧ ValidElicitationCancellationReceipt
        request.elicitationCancellation request.currentScope current request.permit))
    serverRequestDenied
  return { record with
    childCancellation := if request.samplingCancellation = default then record.childCancellation
      else request.samplingCancellation
    elicitationCancellation := if request.elicitationCancellation = default then
        record.elicitationCancellation
      else request.elicitationCancellation }

def MemoryRepository.completeServerRequest (request : ServerRequestCommitRequest) :
    Except Refusal (StoredServerRequest × MemoryRepository) := do
  refuseIf (request.audit = none) invalidRequest
  let key := request.permit.key
  let parent := request.permit.parentInvocationId.value
  let record ← require (repository.serverRequests key) invocationNotFound
  let current ← require (repository.effects parent) invocationNotFound
  repository.checkFence current request.currentScope
  refuseIf (record.permit ≠ request.permit) invocationConflict
  if record.state = .completed then
    refuseIf (record.response ≠ request.response) invocationConflict
    return (⟨record, true, false, none, 0⟩, repository)
  else
    refuseIf ((repository.activeServerRequests parent).getD default ≠ key) effectInFlight
    let receipted ← record.withReceipts current request
    let (audit, audited) ← repository.enqueueAudit request.audit
    let completed := { receipted with
      state := .completed, response := request.response
      auditSequence := (audit.map AuditEnvelope.sequence).getD receipted.auditSequence }
    return (⟨completed, true, true, audit, 0⟩, { audited with
      serverRequests := update audited.serverRequests key (some completed)
      activeServerRequests := update audited.activeServerRequests parent none })

def MemoryRepository.setCurrentAuthority (scope : ValidatedAuthority) : Except Refusal (Unit × MemoryRepository) := do
  refuseIf (¬ ValidScope scope) invalidRequest
  return ((), { repository with
    scopes := update repository.scopes (keyForScope scope) (some scope) })

end Operations

end Circulusd.Mcp
