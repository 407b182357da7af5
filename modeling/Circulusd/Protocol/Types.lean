import Mathlib.Tactic

/-
The records of the wire protocol that the session aggregate stores or receives.
-/

namespace Circulusd.Protocol

/-- A digest is the 256-bit value behind its `sha256:` text. -/
abbrev Digest := BitVec 256

instance lawfulDigest : LawfulBEq Digest := inferInstance

abbrev Bytes := List UInt8

/-- The all-zero digest never names a provider route or a provider command. -/
def zeroDigest : Digest := 0

/-- `Number.MAX_SAFE_INTEGER` of the host language. -/
def maxSafeInteger : Nat := 9007199254740991

mutual

/-- The values that canonical encoding accepts. -/
inductive NormalizedValue where
  | null
  | boolean (value : Bool)
  | number (value : Int)
  | text (value : String)
  | bytes (value : Bytes)
  | array (entries : NormalizedEntries)
  | map (fields : NormalizedFields)
deriving DecidableEq

inductive NormalizedEntries where
  | nil
  | cons (entry : NormalizedValue) (rest : NormalizedEntries)
deriving DecidableEq

inductive NormalizedFields where
  | nil
  | cons (key : String) (entry : NormalizedValue) (rest : NormalizedFields)
deriving DecidableEq

end

mutual

/-- The strings of a value, its field names included. -/
def NormalizedValue.texts : NormalizedValue → List String
  | .text value => [value]
  | .array entries => entries.texts
  | .map fields => fields.texts
  | _ => []

def NormalizedEntries.texts : NormalizedEntries → List String
  | .nil => []
  | .cons entry rest => entry.texts ++ rest.texts

def NormalizedFields.texts : NormalizedFields → List String
  | .nil => []
  | .cons key entry rest => key :: entry.texts ++ rest.texts

end

def NormalizedFields.names : NormalizedFields → List String
  | .nil => []
  | .cons key _ rest => key :: rest.names

mutual

/-- What a walk with a stack finds first that is not normalized. It reads the names of a map when it
meets the map, and takes the entry pushed last first. -/
def NormalizedValue.unnormalized (isNfc : String → Bool) : NormalizedValue → Option String
  | .text value => if isNfc value then none else some "strings"
  | .array entries => entries.unnormalized isNfc
  | .map fields => if fields.names.all isNfc then fields.unnormalized isNfc else some "field names"
  | _ => none

def NormalizedEntries.unnormalized (isNfc : String → Bool) : NormalizedEntries → Option String
  | .nil => none
  | .cons entry rest => (rest.unnormalized isNfc).or (entry.unnormalized isNfc)

def NormalizedFields.unnormalized (isNfc : String → Bool) : NormalizedFields → Option String
  | .nil => none
  | .cons _ entry rest => (rest.unnormalized isNfc).or (entry.unnormalized isNfc)

end

mutual

/-- The item count includes map keys, array entries and their containers. -/
def sessionPayloadItems : NormalizedValue → Nat
  | .array entries => 1 + sessionPayloadEntryItems entries
  | .map fields => 1 + sessionPayloadFieldItems fields
  | _ => 1

def sessionPayloadEntryItems : NormalizedEntries → Nat
  | .nil => 0
  | .cons entry rest => sessionPayloadItems entry + sessionPayloadEntryItems rest

def sessionPayloadFieldItems : NormalizedFields → Nat
  | .nil => 0
  | .cons _ entry rest => 1 + sessionPayloadItems entry + sessionPayloadFieldItems rest

end

inductive EngineKind where
  | lowLevel
  | agentHarness
deriving DecidableEq

inductive CheckpointPayloadEncoding where
  | protobuf
  | canonicalCbor
  | opaqueV1
deriving DecidableEq

inductive CheckpointKind where
  | genesis
  | engine
deriving DecidableEq

/-- The fields that the wire form and the durable form of a checkpoint share. -/
structure CheckpointMetadata where
  kind : CheckpointKind
  engineKind : EngineKind
  adapterAbiVersion : Nat
  checkpointSchemaVersion : Nat
  runtimeRevisionDigest : Digest
  sessionId : String
  turnId : String
  checkpointSequence : Nat
  predecessorDigest : Option Digest
  payloadEncoding : CheckpointPayloadEncoding
  payloadDigest : Digest
deriving DecidableEq

/-- The wire form carries the payload bytes. -/
structure AgentCheckpoint extends CheckpointMetadata where
  payloadBytes : Bytes
deriving DecidableEq

/-- The durable form keeps only the length of the payload. -/
structure ExternalizedAgentCheckpoint extends CheckpointMetadata where
  payloadSize : Nat
deriving DecidableEq

inductive EffectService where
  | model
  | workspace
  | executor
  | mcp
  | artifact
  | externalTool
deriving DecidableEq

inductive ReplayPolicy where
  | safe
  | idempotencyKey
  | never
  | confirm
deriving DecidableEq

structure EffectClaim where
  tenantId : String
  userId : String
  sessionId : String
  turnId : String
  effectId : String
  invocationId : String
  requestDigest : Digest
  service : EffectService
  operation : String
  replayPolicy : ReplayPolicy
  parentOperationId : Option String
  ordinal : Option Nat
deriving DecidableEq

/-- The four generations that fence every authority of a session. -/
@[ext]
structure SessionFence where
  turnLeaseGeneration : Nat
  placementGeneration : Nat
  sandboxGeneration : Nat
  authorizationGeneration : Nat
deriving DecidableEq

structure DispatchPermitClaims extends EffectClaim, SessionFence where
  dispatchAttempt : Nat
  providerRouteDigest : Digest
  deadline : Nat
deriving DecidableEq

/-- The semantic request that a request digest binds. -/
structure EffectRequest where
  service : EffectService
  operation : String
  replayPolicy : ReplayPolicy
  payload : NormalizedValue
  parentOperationId : Option String
  ordinal : Option Nat
deriving DecidableEq

/-- An engine asks for an effect by its semantic request. -/
structure EffectIntent extends EffectRequest where
  requestDigest : Digest
deriving DecidableEq

structure AgentError where
  code : String
  message : String
  retryable : Bool
  details : Option NormalizedValue
deriving DecidableEq

inductive EngineStepResult where
  | checkpoint (committed : AgentCheckpoint)
  | effectRequest (committed : AgentCheckpoint) (request : EffectIntent)
  | turnComplete (committed : AgentCheckpoint) (result : NormalizedValue)
  | turnError (committed : AgentCheckpoint) (error : AgentError)
deriving DecidableEq

/-- The four step kinds without their contents. -/
inductive EngineStepKind where
  | checkpoint
  | effectRequest
  | turnComplete
  | turnError
deriving DecidableEq

def EngineStepResult.kind : EngineStepResult → EngineStepKind
  | .checkpoint .. => .checkpoint
  | .effectRequest .. => .effectRequest
  | .turnComplete .. => .turnComplete
  | .turnError .. => .turnError

/-- Each step commits one checkpoint. -/
def EngineStepResult.committed : EngineStepResult → AgentCheckpoint
  | .checkpoint committed => committed
  | .effectRequest committed _ => committed
  | .turnComplete committed _ => committed
  | .turnError committed _ => committed

end Circulusd.Protocol
