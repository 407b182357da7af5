import Circulusd.Mcp.Gateway

/-
The checks of a restored effect and of an event before the machine moves.
-/

namespace Circulusd.Mcp

open Checked Platform Protocol GatewayError List

variable (gateway : Gateway) (effect : EffectIdentity)

/-- `serverForEffect`. -/
def EffectIdentity.server : ServerDescriptor where
  serverId := effect.serverId
  transport := effect.transport
  targetRef := effect.targetRef
  protocolVersion := effect.protocolVersion
  affinity := effect.affinity

/-- `validNegotiationReceiptForEffect`. -/
def ValidNegotiationReceipt (receipt : StartNegotiationReceipt) (effect : EffectIdentity) (attempt : Nat) : Prop :=
  receipt.durable = true ∧ receipt.connectionGeneration ≠ 0 ∧ receipt.connectionGeneration ≤ maxInt64 ∧
    ValidScope receipt.scope ∧ sameOperationScope receipt.scope effect.scope ∧
    receipt.server = effect.server ∧ receipt.invocationId = effect.scope.invocationId ∧
    receipt.requestDigest = effect.requestDigest ∧ receipt.attempt = attempt ∧
    receipt.negotiatedProtocolVersion = effect.protocolVersion ∧ receipt.affinity = effect.affinity ∧
    receipt.supportsInvocationLedger = effect.supportsInvocationLedger ∧
    receipt.supportsIdempotencyKey = effect.supportsIdempotencyKey
deriving Decidable

def negotiationEventBytes (receipt : StartNegotiationReceipt) : Nat :=
  if receipt = .zero then 0
  else 256 + (receipt.server.serverId.utf8ByteSize + receipt.server.targetRef.utf8ByteSize +
    receipt.server.protocolVersion.utf8ByteSize + receipt.negotiatedProtocolVersion.utf8ByteSize +
    receipt.affinity.backend.utf8ByteSize + receipt.affinity.scope.text.utf8ByteSize +
    receipt.affinity.secretExposureClass.utf8ByteSize +
    receipt.affinity.sandboxProtocolVersion.utf8ByteSize)

def ledgerEventBytes (record : LedgerRecord) : Nat :=
  record.providerRequestId.utf8ByteSize + record.externalCommitId.utf8ByteSize +
    record.output.length + record.failureReason.utf8ByteSize

def Gateway.maximumEventBytes : Nat :=
  gateway.bounds.maxEvents * (gateway.bounds.maxOutputBytes + gateway.bounds.maxProviderRequestIdBytes +
    gateway.bounds.maxExternalCommitIdBytes + gateway.bounds.maxFailureBytes +
    gateway.bounds.maxTargetRefBytes + 2 * gateway.bounds.maxProtocolVersionBytes +
    6 * gateway.bounds.maxServerIdBytes + 256)

/-- What a ledger record of each status may carry. -/
def LedgerRecord.ShapeOf (record : LedgerRecord) (allowInflight : Bool) : LedgerStatus → Prop
  | .absent | .unknown =>
    record.providerRequestId = "" ∧ record.externalCommitId = "" ∧ record.output = [] ∧ record.failureReason = ""
  | .inflight =>
    allowInflight = true ∧ record.providerRequestId ≠ "" ∧ record.externalCommitId = "" ∧
      record.output = [] ∧ record.failureReason = ""
  | .committed =>
    record.output ≠ [] ∧ record.failureReason = "" ∧ ¬ (record.providerRequestId = "" ∧ record.externalCommitId = "")
  | .failed => record.failureReason ≠ "" ∧ record.externalCommitId = "" ∧ record.output = []
  | .none | .other _ => False

instance (record : LedgerRecord) (allowInflight : Bool) :
    (status : LedgerStatus) → Decidable (record.ShapeOf allowInflight status)
  | .absent | .unknown | .inflight | .committed | .failed => inferInstanceAs (Decidable (_ ∧ _))
  | .none | .other _ => .isFalse id

/-- The records for which `validateLedgerRecord` returns no error. -/
def Gateway.ValidLedgerRecord (gateway : Gateway) (record : LedgerRecord) (allowInflight : Bool) : Prop :=
  record.invocationId.kind = some .invocation ∧ record.requestDigest ≠ zeroDigest ∧
    OptionalText record.providerRequestId gateway.bounds.maxProviderRequestIdBytes ∧
    OptionalText record.externalCommitId gateway.bounds.maxExternalCommitIdBytes ∧
    record.output.length ≤ gateway.bounds.maxOutputBytes ∧
    OptionalText record.failureReason gateway.bounds.maxFailureBytes ∧
    record.ShapeOf allowInflight record.status
deriving Decidable

def cancellationUnknownReason : String := "cancellation outcome is unknown"

def externalFailedReason : String := "external invocation failed"

def ledgerAbsentReason : String := "external ledger has no invocation"

def ledgerUnknownReason : String := "external invocation outcome is unknown"

def confirmationRetryReason : String := "explicit retry confirmed"

def confirmationAbandonUnknownReason : String := "user abandoned unknown cancellation"

def confirmationDeclinedReason : String := "user declined uncertain replay"

/-- The event without its fields: what an event of its kind carries at least. -/
def Event.bare (event : Event) : Event :=
  .plain event.expectedRevision event.kind

/-- Only a committed answer to a cancellation carries a ledger record. -/
def Gateway.validateCancellation (event : Event) : Except Refusal Unit :=
  match event.cancellation with
  | .prevented | .absent | .unknown => refuseIf (event.ledger ≠ .zero) invalidRequest
  | .committed =>
    refuseIf (¬ (event.ledger.status = .committed ∧ gateway.ValidLedgerRecord event.ledger false)) invalidRequest
  | .none | .other _ => .error ↑invalidRequest

/-- An event is refused when it carries a field that its kind does not read. The result is the
number of bytes that the event adds to the effect's account. -/
def Gateway.validateEvent (effect : Effect) (event : Event) : Except Refusal Nat := do
  match event.kind with
  | .beginDispatch | .settlementCompleted | .cancelRequested =>
    refuseIf (event ≠ event.bare) invalidRequest
    return 0
  | .negotiationRecorded =>
    let attempt ← require effect.currentAttempt invalidRequest
    refuseIf (¬ (event = { event.bare with negotiation := event.negotiation } ∧ event.negotiation ≠ .zero ∧
        ValidNegotiationReceipt event.negotiation effect.toEffectIdentity attempt.attempt))
      invalidRequest
    return negotiationEventBytes event.negotiation
  | .providerAccepted =>
    refuseIf (¬ (event = { event.bare with providerRequestId := event.providerRequestId } ∧
        ValidBoundedText event.providerRequestId gateway.bounds.maxProviderRequestIdBytes))
      invalidRequest
    return event.providerRequestId.utf8ByteSize
  | .outputChunk =>
    refuseIf (gateway.bounds.maxChunkBytes < event.chunk.length) outputLimit
    refuseIf (¬ (event = { event.bare with chunk := event.chunk } ∧ event.chunk ≠ [])) invalidRequest
    return event.chunk.length
  | .callCommitted =>
    refuseIf (gateway.bounds.maxOutputBytes < event.output.length) outputLimit
    refuseIf (¬ (event = { event.bare with output := event.output, externalCommitId := event.externalCommitId } ∧
        event.output ≠ [] ∧
        OptionalText event.externalCommitId gateway.bounds.maxExternalCommitIdBytes))
      invalidRequest
    return event.output.length + event.externalCommitId.utf8ByteSize
  | .dispatchFailed =>
    refuseIf (event.failure ∉ [FailureClass.definitelyNotSent, FailureClass.rejected,
      FailureClass.ledgerAbsent, FailureClass.unknown]) invalidRequest
    refuseIf (¬ (event = { event.bare with failure := event.failure, reason := event.reason } ∧
        ValidBoundedText event.reason gateway.bounds.maxFailureBytes))
      invalidRequest
    return event.reason.utf8ByteSize
  | .cancellationResolved =>
    gateway.validateCancellation event
    refuseIf (event ≠ { event.bare with cancellation := event.cancellation, ledger := event.ledger }) invalidRequest
    return ledgerEventBytes event.ledger +
      if event.cancellation = .unknown then cancellationUnknownReason.utf8ByteSize else 0
  | .recoveryObserved =>
    refuseIf (¬ (event = { event.bare with ledger := event.ledger } ∧ event.ledger ≠ .zero)) invalidRequest
    refuseIf (¬ gateway.ValidLedgerRecord event.ledger true) ledgerMismatch
    return ledgerEventBytes event.ledger +
      match event.ledger.status with
      | .failed => externalFailedReason.utf8ByteSize
      | .absent => ledgerAbsentReason.utf8ByteSize
      | .unknown => ledgerUnknownReason.utf8ByteSize
      | _ => 0
  | .confirmationDecided =>
    refuseIf (event.decision ≠ .retry ∧ event.decision ≠ .abandon) invalidRequest
    refuseIf (event ≠ { event.bare with decision := event.decision }) invalidRequest
    return if event.decision = .retry then confirmationRetryReason.utf8ByteSize
      else if effect.cancellationRequested then confirmationAbandonUnknownReason.utf8ByteSize
      else confirmationDeclinedReason.utf8ByteSize
  | .other _ => Except.error ↑invalidRequest

/-- The fields of the admission, as `validateEffect` checks them before the digest. -/
def Gateway.ValidAdmission (gateway : Gateway) (effect : EffectIdentity) : Prop :=
  ValidScope effect.scope ∧ effect.requestDigest ≠ zeroDigest ∧
    ValidIdentifier effect.serverId gateway.bounds.maxServerIdBytes ∧
    ValidIdentifier effect.toolName gateway.bounds.maxToolNameBytes ∧
    ValidIdentifier effect.providerId gateway.bounds.maxServerIdBytes ∧
    ValidRegistryRef effect.targetRef gateway.bounds.maxTargetRefBytes ∧
    ValidBoundedText effect.protocolVersion gateway.bounds.maxProtocolVersionBytes ∧
    effect.inputCanonical ≠ [] ∧ effect.inputCanonical.length ≤ gateway.bounds.maxInputBytes ∧
    effect.maxAutomaticRetries ≤ hardMaxRetries ∧ effect.maxConfirmationRetries ≤ hardMaxRetries
deriving Decidable

/-- The fields that the machine moves, as `validateEffect` checks them before the digest. -/
def Gateway.ValidProgress (gateway : Gateway) (effect : Effect) : Prop :=
  effect.revision ≠ 0 ∧ effect.revision = effect.eventCount + 1 ∧ effect.eventCount ≤ gateway.bounds.maxEvents ∧
    effect.automaticRetriesUsed ≤ effect.maxAutomaticRetries ∧
    effect.confirmationRetriesUsed ≤ effect.maxConfirmationRetries ∧
    effect.attempts.length ≤ 1 + effect.automaticRetriesUsed + effect.confirmationRetriesUsed ∧
    effect.chunkCount ≤ gateway.bounds.maxChunks ∧ effect.streamBytes ≤ gateway.bounds.maxOutputBytes ∧
    effect.eventBytes ≤ gateway.maximumEventBytes ∧
    effect.output.length ≤ gateway.bounds.maxOutputBytes ∧
    OptionalText effect.externalCommitId gateway.bounds.maxExternalCommitIdBytes ∧
    OptionalText effect.failureReason gateway.bounds.maxFailureBytes
deriving Decidable

def EffectIdentity.serverKey : ServerKey :=
  ⟨effect.scope.tenantId, effect.scope.userId, effect.serverId⟩

/-- The effect still has the digest, the server and the tool of its admission. -/
def Gateway.validateRegistration : Except Refusal Unit := do
  refuseIf (gateway.digestCanonicalCall effect.serverId effect.toolName effect.inputCanonical ≠
      some effect.requestDigest)
    ⟨.invalidRequest, "restored canonical request digest mismatch"⟩
  let server ← require (gateway.server effect.serverKey) invalidRequest
  let server ← require (resolveServerRegistration server effect.scope).toOption invalidRequest
  refuseIf (¬ (server.providerId = effect.providerId ∧ server.transport = effect.transport ∧
      server.targetRef = effect.targetRef ∧ server.protocolVersion = effect.protocolVersion ∧
      server.affinity = effect.affinity ∧ server.credential = effect.credential))
    invalidRequest
  let tool ← require (gateway.tool effect.serverKey effect.toolName) invalidRequest
  refuseIf (¬ (tool.sideEffecting = effect.sideEffecting ∧ tool.replayPolicy = effect.replayPolicy ∧
      tool.maxAutomaticRetries = effect.maxAutomaticRetries ∧
      tool.maxConfirmationRetries = effect.maxConfirmationRetries))
    invalidRequest
  refuseIf (effect.replayPolicy = .idempotencyKey ∧
      ¬ (effect.supportsIdempotencyKey = true ∧ effect.supportsInvocationLedger = true))
    invalidRequest

/-- What the attempt at each position may hold. -/
def Gateway.ValidAttempt (gateway : Gateway) (effect : EffectIdentity) (index : Nat) (attempt : AttemptRecord) : Prop :=
  attempt.attempt = index + 1 ∧ OptionalText attempt.providerRequestId gateway.bounds.maxProviderRequestIdBytes ∧
    (attempt.hadOutput = true → attempt.providerRequestId ≠ "") ∧
    (attempt.negotiation = .zero ∨ ValidNegotiationReceipt attempt.negotiation effect attempt.attempt) ∧
    attempt.failure ∈ [FailureClass.none, FailureClass.definitelyNotSent, FailureClass.rejected,
      FailureClass.ledgerAbsent, FailureClass.externalFailed, FailureClass.unknown]
deriving Decidable

def AttemptRecord.bytes (attempt : AttemptRecord) : Nat :=
  attempt.providerRequestId.utf8ByteSize + negotiationEventBytes attempt.negotiation

/-- One turn of the attempt loop: the index and the bytes accounted so far move on. -/
def Gateway.accountAttempt (sofar : Nat × Nat) (attempt : AttemptRecord) : Except Refusal (Nat × Nat) := do
  refuseIf (¬ gateway.ValidAttempt effect sofar.1 attempt) invalidRequest
  refuseIf (maxUint64 - sofar.2 < attempt.providerRequestId.utf8ByteSize) invalidRequest
  let accounted := sofar.2 + attempt.providerRequestId.utf8ByteSize
  refuseIf (maxUint64 - accounted < negotiationEventBytes attempt.negotiation) invalidRequest
  return (sofar.1 + 1, accounted + negotiationEventBytes attempt.negotiation)

/-- The bytes of the effect outside its attempts. -/
def Effect.ownBytes (effect : Effect) : Nat :=
  effect.streamBytes + effect.output.length + effect.externalCommitId.utf8ByteSize + effect.failureReason.utf8ByteSize

/-- What an effect in each state may hold. -/
def Effect.ShapeOf (effect : Effect) : State → Prop
  | .admitted =>
    effect.attempts = [] ∧ effect.eventCount = 0 ∧ effect.chunkCount = 0 ∧ effect.streamBytes = 0 ∧
      effect.output = [] ∧ effect.externalCommitId = "" ∧ effect.failureReason = "" ∧
      effect.cancellationRequested = false
  | .dispatching =>
    ∃ attempt ∈ effect.currentAttempt, attempt.providerRequestId = "" ∧ attempt.hadOutput = false ∧
      attempt.failure = .none ∧ effect.failureReason = "" ∧ effect.output = [] ∧
      effect.cancellationRequested = false
  | .dispatched =>
    ∃ attempt ∈ effect.currentAttempt, attempt.providerRequestId ≠ "" ∧ attempt.hadOutput = false ∧
      attempt.failure = .none ∧ attempt.negotiation ≠ .zero ∧ effect.output = [] ∧
      effect.cancellationRequested = false
  | .streaming =>
    ∃ attempt ∈ effect.currentAttempt, attempt.providerRequestId ≠ "" ∧ attempt.hadOutput = true ∧
      attempt.failure = .none ∧ attempt.negotiation ≠ .zero ∧ effect.chunkCount ≠ 0 ∧
      effect.streamBytes ≠ 0 ∧ effect.output = [] ∧ effect.cancellationRequested = false
  | .retryPending =>
    ∃ attempt ∈ effect.currentAttempt, attempt.failure ≠ .none ∧ effect.failureReason ≠ "" ∧
      effect.output = [] ∧ effect.cancellationRequested = false
  | .cancellationPending =>
    effect.currentAttempt.isSome = true ∧ effect.output = [] ∧ effect.cancellationRequested = true
  | .externallyCommitted | .completed =>
    ∃ attempt ∈ effect.currentAttempt, effect.output ≠ [] ∧ effect.failureReason = "" ∧ attempt.negotiation ≠ .zero ∧
      ¬ (attempt.providerRequestId = "" ∧ effect.externalCommitId = "")
  | .needsConfirmation | .failed | .uncertain => effect.failureReason ≠ "" ∧ effect.output = []
  | .cancelled =>
    effect.output = [] ∧ effect.externalCommitId = "" ∧ effect.failureReason = "" ∧ effect.cancellationRequested = true
  | .other _ => False

instance (effect : Effect) : (state : State) → Decidable (effect.ShapeOf state)
  | .admitted | .cancellationPending | .needsConfirmation | .failed | .uncertain | .cancelled =>
    inferInstanceAs (Decidable (_ ∧ _))
  | .dispatching | .dispatched | .streaming | .retryPending | .externallyCommitted | .completed =>
    inferInstanceAs (Decidable (∃ attempt ∈ effect.currentAttempt, _))
  | .other _ => .isFalse id

def Gateway.validateEffect (effect : Effect) : Except Refusal Unit := do
  refuseIf (¬ (gateway.ValidAdmission effect.toEffectIdentity ∧ gateway.ValidProgress effect)) invalidRequest
  gateway.validateRegistration effect.toEffectIdentity
  let (_, accounted) ← effect.attempts.foldlM (gateway.accountAttempt effect.toEffectIdentity) (0, effect.ownBytes)
  refuseIf (effect.eventBytes < accounted) invalidRequest
  refuseIf (¬ effect.ShapeOf effect.state) invalidRequest

/-- Each attempt is valid at its position, counted from the given one. -/
def Gateway.ValidAttempts (gateway : Gateway) (effect : EffectIdentity) : Nat → List AttemptRecord → Prop
  | _, [] => True
  | index, attempt :: rest =>
    gateway.ValidAttempt effect index attempt ∧ gateway.ValidAttempts effect (index + 1) rest

/-- The bytes that the attempts account for. -/
def attemptBytes (attempts : List AttemptRecord) : Nat :=
  (attempts.map AttemptRecord.bytes).sum

@[simp]
theorem attemptBytes_append (first second : List AttemptRecord) :
    attemptBytes (first ++ second) = attemptBytes first + attemptBytes second := by
  simp [attemptBytes]

@[simp]
theorem attemptBytes_singleton (attempt : AttemptRecord) : attemptBytes [attempt] = attempt.bytes := by
  simp [attemptBytes]

theorem Gateway.validAttempts_concat (index : Nat) (earlier : List AttemptRecord) (last : AttemptRecord) :
    gateway.ValidAttempts effect index (earlier ++ [last]) ↔ gateway.ValidAttempts effect index earlier ∧
        gateway.ValidAttempt effect (index + earlier.length) last := by
  induction earlier generalizing index with
  | nil => simp [ValidAttempts]
  | cons attempt rest ih =>
    have shifted : index + (rest.length + 1) = index + 1 + rest.length := by omega
    simp only [cons_append, ValidAttempts, ih, length_cons, shifted, and_assoc]

variable {gateway effect}

theorem Gateway.accountAttempts_valid {attempts : List AttemptRecord} {start final : Nat × Nat}
    (ok : attempts.foldlM (gateway.accountAttempt effect) start = .ok final) :
    gateway.ValidAttempts effect start.1 attempts ∧ final.2 = start.2 + attemptBytes attempts := by
  induction attempts generalizing start with
  | nil =>
    rw [foldlM_nil, pure_ok] at ok
    simp [ValidAttempts, attemptBytes, ok]
  | cons attempt rest ih =>
    simp only [foldlM_cons, accountAttempt, steps_ok] at ok
    obtain ⟨_, ⟨valid, -, -, rfl⟩, others⟩ := ok
    obtain ⟨following, total⟩ := ih others
    refine ⟨⟨valid, following⟩, ?_⟩
    simp only [total, attemptBytes, AttemptRecord.bytes, map_cons, sum_cons]
    omega

theorem Gateway.accountAttempts_ok {attempts : List AttemptRecord} (start : Nat × Nat)
    (valid : gateway.ValidAttempts effect start.1 attempts) (bounded : start.2 + attemptBytes attempts ≤ maxUint64) :
    attempts.foldlM (gateway.accountAttempt effect) start =
      .ok (start.1 + attempts.length, start.2 + attemptBytes attempts) := by
  induction attempts generalizing start with
  | nil => rfl
  | cons attempt rest ih =>
    have split : attemptBytes (attempt :: rest) = attempt.bytes + attemptBytes rest := by
      simp [attemptBytes]
    have own : attempt.bytes = attempt.providerRequestId.utf8ByteSize + negotiationEventBytes attempt.negotiation := rfl
    rw [split, own] at bounded
    have step : gateway.accountAttempt effect start attempt = .ok (start.1 + 1, start.2 + attempt.bytes) := by
      simp only [accountAttempt, steps_ok]
      exact ⟨valid.1, by omega, by omega, trivial, by rw [own, ← Nat.add_assoc]⟩
    rw [List.foldlM_cons, step, ok_bind, ih _ valid.2 (by simp only; omega), split]
    simp only [List.length_cons, Except.ok.injEq, Prod.mk.injEq]
    omega

/-- The effects that `validateEffect` accepts. -/
structure Gateway.ValidEffect (gateway : Gateway) (effect : Effect) : Prop where
  admission : gateway.ValidAdmission effect.toEffectIdentity
  registration : gateway.validateRegistration effect.toEffectIdentity = .ok ()
  progress : gateway.ValidProgress effect
  attempts : gateway.ValidAttempts effect.toEffectIdentity 0 effect.attempts
  accounted : effect.ownBytes + attemptBytes effect.attempts ≤ effect.eventBytes
  shape : effect.ShapeOf effect.state

theorem Gateway.validateEffect_valid {effect : Effect}
    (ok : gateway.validateEffect effect = .ok ()) : gateway.ValidEffect effect := by
  simp only [validateEffect, steps_ok, Prod.exists, not_lt] at ok
  obtain ⟨⟨admission, progress⟩, registration, _, total, loop, accounted, shape⟩ := ok
  obtain ⟨attempts, sum⟩ := accountAttempts_valid loop
  simp only at sum
  exact ⟨admission, registration, progress, attempts, sum ▸ accounted, shape⟩

theorem Gateway.Configured.maximumEventBytes_le (configured : gateway.Configured) :
    gateway.maximumEventBytes ≤ 2 ^ 48 := by
  have events := configured.bounds.events.2
  have output := configured.bounds.output.2
  have providerRequestId := configured.bounds.providerRequestId.2
  have externalCommitId := configured.bounds.externalCommitId.2
  have failure := configured.bounds.failure.2
  have targetRef := configured.bounds.targetRef.2
  have protocolVersion := configured.bounds.protocolVersion.2
  have serverId := configured.bounds.serverId.2
  simp only [hardMaxEvents, hardMaxOutputBytes, hardMaxProviderRequestIdBytes,
    hardMaxExternalCommitIdBytes, hardMaxFailureBytes, hardMaxTargetRefBytes,
    hardMaxIdentifierBytes] at *
  calc gateway.maximumEventBytes ≤ 1048576 * 134217728 := Nat.mul_le_mul events (by omega)
    _ ≤ 2 ^ 48 := by norm_num

/-- For a configured gateway the sum of the account never reaches the overflow check. -/
theorem Gateway.Configured.validateEffect_ok_iff (configured : gateway.Configured)
    (effect : Effect) : gateway.validateEffect effect = .ok () ↔ gateway.ValidEffect effect := by
  refine ⟨validateEffect_valid, fun valid => ?_⟩
  have ceiling := configured.maximumEventBytes_le
  have eventBytes : effect.eventBytes ≤ gateway.maximumEventBytes := valid.progress.2.2.2.2.2.2.2.2.1
  have accounted := valid.accounted
  have loop := accountAttempts_ok (0, effect.ownBytes) valid.attempts (by simp only [maxUint64]; omega)
  simp only [validateEffect, steps_ok, Prod.exists, not_lt]
  exact ⟨⟨valid.admission, valid.progress⟩, valid.registration, _, _, loop, accounted, valid.shape⟩

/-- The registrations that stand behind a valid effect. -/
structure Gateway.Registered (gateway : Gateway) (effect : EffectIdentity) : Prop where
  tool : ∃ tool ∈ gateway.tools, tool.replayPolicy = effect.replayPolicy ∧
    tool.maxAutomaticRetries = effect.maxAutomaticRetries ∧
    tool.maxConfirmationRetries = effect.maxConfirmationRetries
  server : ∃ server ∈ gateway.servers, ∃ resolved,
    resolveServerRegistration server effect.scope = .ok resolved ∧ resolved.affinity = effect.affinity
  deduplicated : effect.replayPolicy = .idempotencyKey →
    effect.supportsIdempotencyKey = true ∧ effect.supportsInvocationLedger = true

theorem Gateway.registered (ok : gateway.validateRegistration effect = .ok ()) : gateway.Registered effect := by
  simp only [validateRegistration, steps_ok] at ok
  obtain ⟨-, server, found, resolved, resolution, ⟨-, -, -, -, affinity, -⟩, tool, listed,
    ⟨-, policy, automatic, confirmation⟩, deduplicated⟩ := ok
  have resolution : resolveServerRegistration server effect.scope = .ok resolved := by
    cases result : resolveServerRegistration server effect.scope with
    | error => simp [result, Except.toOption] at resolution
    | ok found => simpa [result, Except.toOption] using resolution
  exact ⟨⟨tool, mem_of_find?_eq_some listed, policy, automatic, confirmation⟩,
    ⟨server, mem_of_find?_eq_some found, resolved, resolution, affinity⟩,
    fun keyed => by_contra fun unsupported => deduplicated ⟨keyed, unsupported⟩⟩

theorem Gateway.Configured.policy (configured : gateway.Configured) (registered : gateway.Registered effect) :
    effect.replayPolicy ∈
      [ReplayPolicy.safe, ReplayPolicy.idempotencyKey, ReplayPolicy.never, ReplayPolicy.confirm] := by
  obtain ⟨tool, listed, policy, -⟩ := registered.tool
  exact policy ▸ configured.policies tool listed

end Circulusd.Mcp
