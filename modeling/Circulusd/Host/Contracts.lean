import Circulusd.Protocol.Types

/-
The failures of the host and the result of an aggregate migration.
-/

namespace Circulusd.Host

open Protocol

inductive HostContractErrorCode where
  | storageContract
  | cellIdMismatch
  | notInitialized
  | initializationConflict
  | structuredCloneFailed
  | corruptState
  | invalidAggregateOutput
deriving DecidableEq

structure HostContractError where
  code : HostContractErrorCode
  message : String
deriving DecidableEq

abbrev Hosted := Except HostContractError

/-- A migration may leave out its payload effects. -/
structure AggregateMigrationResult (State : Type) where
  state : State
  migrated : Bool
  blobs : Option (List (Digest × Bytes))
  referencedBlobs : Option (List Digest)
deriving DecidableEq

end Circulusd.Host
