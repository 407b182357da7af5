import Circulusd.Celld.Bridge

/-
The celld host: one command through the aggregate, the bridge, the barrier and the sealer.
-/

namespace Circulusd.Celld

open Dialogue Protocol

structure Limits where
  maxCommandBytes : Nat
  maxStateBytes : Nat
  maxResponseBytes : Nat
  maxCapabilityClaims : Nat
  maxCapabilityClaimBytes : Nat
deriving DecidableEq

/-- A host with its storage; a fault injector may be there. -/
structure Host where
  storage : Storage
  limits : Limits
  faultInjector : Bool
deriving DecidableEq

section Claims

variable (platform : Platform) (limits : Limits)

/-- The claims of a stored receipt. -/
def storedClaimsValid : Nat → List RawCapabilityClaims → Bool
  | _, [] => true
  | total, claim :: rest =>
    platform.validIdentifier claim.kind && claim.payload.length != 0 &&
      decide (claim.payload.length ≤ limits.maxCapabilityClaimBytes - total) &&
      storedClaimsValid (total + claim.payload.length) rest

/-- The claims of a result of the aggregate. -/
def appliedClaimsError : Nat → List RawCapabilityClaims → Option Error
  | _, [] => none
  | total, claim :: rest =>
    if platform.validIdentifier claim.kind = false ∨ claim.payload.length = 0 then
      some Sentinel.invalidAggregateOutput.error
    else if limits.maxCapabilityClaimBytes - total < claim.payload.length then
      some (Sentinel.capabilityClaimsTooLarge.wrap ("limit " ++ toString limits.maxCapabilityClaimBytes))
    else appliedClaimsError (total + claim.payload.length) rest

end Claims

namespace Host

variable (platform : Platform) (host : Host)

def inject (point : FaultPoint) : Code Unit :=
  if host.faultInjector then check (.inject point) else pure ()

/-- The callback with a receipt of the command at hand. -/
def replay (request : Request) (stored : StoredReceipt) : Code Unit := do
  Script.refuseIf (stored.commandDigest ≠ platform.sha256 request.command) Sentinel.idempotencyConflict.error
  Script.refuseIf (host.limits.maxResponseBytes < stored.response.length ∨
      host.limits.maxCapabilityClaims < stored.capabilityClaims.length) Sentinel.corruptReceipt.error
  Script.refuseIf (storedClaimsValid platform host.limits 0 stored.capabilityClaims = false)
    Sentinel.corruptReceipt.error
  Script.modify fun frame => { frame with receipt := stored, replayed := true }
  host.inject .beforeCommit

/-- The receipt of a result of the aggregate. -/
def receiptOf (request : Request) (applied : ApplyResult) : StoredReceipt :=
  ⟨platform.sha256 request.command, applied.response, applied.capabilityClaims⟩

/-- The callback without a receipt of the command. -/
def apply (request : Request) (state : Bytes) : Code Unit := do
  let answer ← ask.apply state request.command
  match answer with
  | .error error => Script.fail error
  | .ok applied => do
    Script.refuseIf (host.limits.maxStateBytes < applied.nextState.length)
      (tooLarge .stateTooLarge applied.nextState.length host.limits.maxStateBytes "bytes")
    Script.refuseIf (host.limits.maxResponseBytes < applied.response.length)
      (tooLarge .responseTooLarge applied.response.length host.limits.maxResponseBytes "bytes")
    Script.refuseIf (host.limits.maxCapabilityClaims < applied.capabilityClaims.length)
      (tooLarge .capabilityClaimsTooLarge applied.capabilityClaims.length host.limits.maxCapabilityClaims "claims")
    match appliedClaimsError platform host.limits 0 applied.capabilityClaims with
    | some error => Script.fail error
    | none => do
      check (.validateState applied.nextState)
      Script.modify fun frame => { frame with receipt := receiptOf platform request applied }
      writeState host.storage.bounds applied.nextState
      writeReceipt platform host.storage.bounds request.commandId (receiptOf platform request applied)
      host.inject .beforeCommit

/-- The callback of a transaction; it assigns the receipt that the call goes on with. -/
def callback (request : Request) : Code Unit := do
  Script.modify fun frame => { frame with invoked := true }
  let state ← readState
  Script.refuseIf (host.limits.maxStateBytes < state.length)
    (tooLarge .stateTooLarge state.length host.limits.maxStateBytes "bytes")
  check (.validateState state)
  check (.authorize state request.command)
  let stored ← lookupReceipt platform host.storage.bounds request.commandId
  if stored.found then host.replay platform request stored.receipt
  else host.apply platform request state

/-- The permits of the claims, each under its index. -/
def sealAll (request : Request) : Nat → List RawCapabilityClaims → Code (List Bytes)
  | _, [] => pure []
  | index, claims :: rest => do
    let answer ← ask.seal ⟨request.objectId, request.commandId, platform.sha256 request.command, index⟩ claims
    match answer with
    | .error error => Script.fail error
    | .ok permit => do
      Script.refuseIf (permit.length = 0) Sentinel.invalidPermit.error
      let others ← sealAll request (index + 1) rest
      pure (permit :: others)

/-- `Execute`. -/
def execute (request : Request) : Code Result := do
  contextErr
  Script.refuseIf (platform.validIdentifier request.objectId = false ∨
    platform.validIdentifier request.commandId = false ∨ request.command.length = 0) Sentinel.invalidRequest.error
  Script.refuseIf (host.limits.maxCommandBytes < request.command.length)
    (tooLarge .commandTooLarge request.command.length host.limits.maxCommandBytes "bytes")
  check (.validateCommand request.command)
  let commit ← transaction platform host.storage request.objectId (host.callback platform request)
  let frame ← Script.get
  Script.refuseIf (frame.invoked = false ∨ commit.objectId ≠ request.objectId ∨ commit.revision = 0)
    Sentinel.storageContract.error
  host.inject .afterCommit
  host.inject .beforeBarrier
  let barrier ← Script.attempt (durabilityBarrier platform commit)
  match barrier with
  | .error error => Script.fail (.joined Sentinel.durabilityBarrier.error error)
  | .ok () => do
    host.inject .afterBarrier
    let permits ← sealAll platform request 0 frame.receipt.capabilityClaims
    host.inject .beforeResponse
    pure { commandDigest := platform.sha256 request.command
           response := frame.receipt.response
           permits
           commitRevision := commit.revision
           replayed := frame.replayed
           durable := true }

/-- The variables before anything is assigned. -/
def initialFrame : Frame where
  receipt := .zero
  replayed := false
  invoked := false
  tx := ⟨⟨"", false, 0, 0⟩, [], [], false, [], [], 0, none⟩

/-- A call as a program: its result, with the variables left out. -/
def call (request : Request) : Program Question Answer (Except Error Result) :=
  (host.execute platform request initialFrame).bind fun outcome => .done outcome.1

end Host

end Circulusd.Celld
