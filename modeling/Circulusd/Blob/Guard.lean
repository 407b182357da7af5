import Circulusd.Library.Checked
import Circulusd.Library.Store
import Circulusd.Platform.Identity

/-
The guard table of content-addressed blobs. Each operation gives its answer and the table it leaves,
also when the answer is an error.
-/

namespace Circulusd.Blob

open Checked KeyValue

variable (guard : GuardRecord) (table : GuardTable)

inductive GuardError where
  | incompleteRoots
  | objectMissing
  | objectDeleting
  | permitMissing
  | permitReused
  | stalePermit
  | staleDeletion
  | epochOrder
  | markedObjectMissing
deriving DecidableEq

def GuardError.text : GuardError → String
  | .incompleteRoots => "root export is incomplete"
  | .objectMissing => "object guard is missing"
  | .objectDeleting => "object is being deleted"
  | .permitMissing => "protection permit is missing"
  | .permitReused => "protection permit ID was reused"
  | .stalePermit => "protection permit is stale"
  | .staleDeletion => "deletion claim is stale"
  | .epochOrder => "GC epoch is not monotonic"
  | .markedObjectMissing => "marked object is unavailable"

/-- An error wraps one of the package's errors or has its text only. -/
structure Refusal where
  error : Option GuardError
  message : Formatted
deriving DecidableEq

def GuardError.refusal (error : GuardError) : Refusal :=
  ⟨some error, error.text⟩

def GuardError.wrap (error : GuardError) (context : Formatted) : Refusal :=
  ⟨some error, context ++ ": " ++ error.text⟩

/-- Nanoseconds; the zero time is 0. -/
abbrev Time := Int

structure Key where
  tenantId : String
  digest : String
deriving DecidableEq

structure Permit where
  id : String
  key : Key
  guardGeneration : UInt64
  objectIncarnation : UInt64
deriving DecidableEq

structure Deletion where
  key : Key
  guardGeneration : UInt64
  epoch : Nat
deriving DecidableEq

inductive GuardState where
  | live
  | candidate
  | deleting
  | deleted
deriving DecidableEq

structure GuardRecord where
  state : GuardState
  generation : UInt64
  incarnation : UInt64
  createdAt : Time
  candidateEpoch : Nat
  candidateSince : Time
  deletionEpoch : Nat
  pending : Finset String
deriving DecidableEq

/-- The object is being deleted or is gone. -/
def GuardRecord.Condemned (guard : GuardRecord) : Prop :=
  guard.state = .deleting ∨ guard.state = .deleted
deriving Decidable

inductive PermitState where
  | pending
  | finalized
  | abandoned
deriving DecidableEq

structure PermitRecord where
  permit : Permit
  state : PermitState
deriving DecidableEq

/-- The keys are those of the guards, in the order in which a loop visits them. -/
structure GuardTable where
  grace : Int
  lastEpoch : Nat
  keys : List Key
  guards : Store Key GuardRecord
  permits : Store String PermitRecord

def newGuardTable (grace : Int) : GuardTable where
  grace := grace
  lastEpoch := 0
  keys := []
  guards _ := none
  permits _ := none

/-- `unicode.IsSpace`. -/
def isSpace (character : Char) : Bool :=
  character.toNat ∈ [0x09, 0x0a, 0x0b, 0x0c, 0x0d, 0x20, 0x85, 0xa0, 0x1680, 0x2028, 0x2029, 0x202f, 0x205f, 0x3000] ||
    (0x2000 ≤ character.toNat && character.toNat ≤ 0x200a)

/-- `strings.TrimSpace(value) == ""`. -/
def blank (value : String) : Bool :=
  value.toList.all isSpace

def lowerHex (character : Char) : Bool :=
  ('0' ≤ character && character ≤ '9') || ('a' ≤ character && character ≤ 'f')

/-- `digestPattern`. -/
def digestPattern (digest : String) : Bool :=
  digest.toList.take 7 = "sha256:".toList && digest.toList.length = 71 && (digest.toList.drop 7).all lowerHex

def validateKey (key : Key) : Option Refusal :=
  if blank key.tenantId then some ⟨none, "blob tenant ID is required"⟩
  else if digestPattern key.digest then none
  else some ⟨none, "blob digest " ++ quoted key.digest ++ " is not canonical SHA-256"⟩

def GuardTable.setGuard (key : Key) (guard : GuardRecord) : GuardTable :=
  { table with guards := Function.update table.guards key (some guard) }

def GuardTable.setPermit (permitId : String) (record : PermitRecord) : GuardTable :=
  { table with permits := Function.update table.permits permitId (some record) }

/-- The guard of an object that was never there. -/
def GuardRecord.fresh (createdAt : Time) : GuardRecord where
  state := .live
  generation := 1
  incarnation := 1
  createdAt := createdAt
  candidateEpoch := 0
  candidateSince := 0
  deletionEpoch := 0
  pending := ∅

/-- The guard of an object that is there again. -/
def GuardRecord.revived (createdAt : Time) : GuardRecord where
  state := .live
  generation := guard.generation + 1
  incarnation := guard.incarnation + 1
  createdAt := createdAt
  candidateEpoch := 0
  candidateSince := 0
  deletionEpoch := 0
  pending := ∅

def GuardTable.register (table : GuardTable) (key : Key) (createdAt : Time) : Except Refusal Unit × GuardTable :=
  match validateKey key with
  | some refusal => (.error refusal, table)
  | none =>
    if createdAt = 0 then
      (.error ⟨none, "register " ++ key.digest ++ ": creation time is required"⟩, table)
    else match table.guards key with
      | none =>
        (.ok (), { table.setGuard key (.fresh createdAt) with keys := table.keys ++ [key] })
      | some guard =>
        match guard.state with
        | .live | .candidate => (.ok (), table)
        | .deleting => (.error (GuardError.objectDeleting.wrap ("register " ++ key.digest)), table)
        | .deleted => (.ok (), table.setGuard key (guard.revived createdAt))

/-- A protected object is live again. -/
def GuardRecord.protect (permitId : String) : GuardRecord :=
  { guard with
    generation := guard.generation + 1
    state := .live
    candidateEpoch := 0
    candidateSince := 0
    pending := insert permitId guard.pending }

def GuardTable.protect (table : GuardTable) (key : Key) (permitId : String) : Except Refusal Permit × GuardTable :=
  match validateKey key with
  | some refusal => (.error refusal, table)
  | none =>
    if blank permitId then (.error ⟨none, "protection permit ID is required"⟩, table)
    else match table.permits permitId with
      | some existing =>
        let context := "protect " ++ key.digest
        if existing.permit.key ≠ key then (.error (GuardError.permitReused.wrap context), table)
        else if existing.state = .abandoned then (.error (GuardError.stalePermit.wrap context), table)
        else match table.guards key with
          | none => (.error (GuardError.stalePermit.wrap context), table)
          | some guard =>
            if guard.incarnation ≠ existing.permit.objectIncarnation then
              (.error (GuardError.stalePermit.wrap context), table)
            else if guard.Condemned then (.error (GuardError.objectDeleting.wrap context), table)
            else (.ok existing.permit, table)
      | none =>
        match table.guards key with
        | none => (.error (GuardError.objectMissing.wrap ("protect " ++ key.digest)), table)
        | some guard =>
          if guard.Condemned then
            (.error (GuardError.objectDeleting.wrap ("protect " ++ key.digest)), table)
          else
            let guard := guard.protect permitId
            let permit : Permit := ⟨permitId, key, guard.generation, guard.incarnation⟩
            (.ok permit, (table.setGuard key guard).setPermit permitId ⟨permit, .pending⟩)

/-- A permit that is settled no longer holds its object. -/
def GuardTable.settle (record : PermitRecord) (permitId : String) (state : PermitState) : GuardTable :=
  match table.guards record.permit.key with
  | none => table.setPermit permitId { record with state }
  | some guard =>
    (table.setGuard record.permit.key { guard with pending := guard.pending.erase permitId }).setPermit
      permitId { record with state }

def GuardTable.finalize (table : GuardTable) (permitId : String) : Except Refusal Unit × GuardTable :=
  let context := "finalize permit " ++ quoted permitId
  match table.permits permitId with
  | none => (.error (GuardError.permitMissing.wrap context), table)
  | some record =>
    match record.state with
    | .finalized => (.ok (), table)
    | .abandoned => (.error (GuardError.stalePermit.wrap context), table)
    | .pending =>
      match table.guards record.permit.key with
      | none => (.error (GuardError.stalePermit.wrap context), table)
      | some guard =>
        if guard.state = .deleted then (.error (GuardError.stalePermit.wrap context), table)
        else (.ok (), table.settle record permitId .finalized)

def GuardTable.abandon (table : GuardTable) (permitId : String) : Except Refusal Unit × GuardTable :=
  let context := "abandon permit " ++ quoted permitId
  match table.permits permitId with
  | none => (.error (GuardError.permitMissing.wrap context), table)
  | some record =>
    match record.state with
    | .abandoned => (.ok (), table)
    | .finalized => (.error (GuardError.stalePermit.wrap context), table)
    | .pending => (.ok (), table.settle record permitId .abandoned)

/-- The second sweep that finds an object unused takes it, once the grace has passed. -/
def GuardRecord.Expired (guard : GuardRecord) (grace : Int) (epoch : Nat) (now : Time) : Prop :=
  guard.state = .candidate ∧ guard.candidateEpoch < epoch ∧ guard.candidateSince + grace ≤ now
deriving Decidable

/-- One round of the loop of a sweep. -/
def GuardRecord.swept (grace : Int) (epoch : Nat) (now : Time) (used : Prop) [Decidable used] : GuardRecord :=
  if guard.Condemned then guard
  else if used ∨ guard.pending ≠ ∅ then
    { guard with state := .live, candidateEpoch := 0, candidateSince := 0 }
  else if guard.state = .live then
    { guard with state := .candidate, candidateEpoch := epoch, candidateSince := now }
  else if guard.Expired grace epoch now then
    { guard with state := .deleting, generation := guard.generation + 1, deletionEpoch := epoch }
  else guard

/-- The deletion that a round of the loop emits. -/
def GuardTable.condemn (epoch : Nat) (marked : List Key) (now : Time) (key : Key) : Option Deletion :=
  match table.guards key with
  | none => none
  | some guard =>
    if ¬ guard.Condemned ∧ (guard.swept table.grace epoch now (key ∈ marked)).state = .deleting then
      some ⟨key, (guard.swept table.grace epoch now (key ∈ marked)).generation, epoch⟩
    else none

def Deletion.before (left right : Deletion) : Prop :=
  left.key.tenantId < right.key.tenantId ∨ left.key.tenantId = right.key.tenantId ∧ left.key.digest ≤ right.key.digest
deriving Decidable

/-- A marked object must be there. -/
def GuardTable.checkMarked (table : GuardTable) : List Key → Option Refusal
  | [] => none
  | key :: rest =>
    match validateKey key with
    | some refusal => some refusal
    | none =>
      match table.guards key with
      | none => some (GuardError.markedObjectMissing.wrap ("mark " ++ key.digest))
      | some guard =>
        if guard.Condemned then some (GuardError.markedObjectMissing.wrap ("mark " ++ key.digest))
        else table.checkMarked rest

def GuardTable.sweepAll (epoch : Nat) (marked : List Key) (now : Time) : GuardTable :=
  { table with
    lastEpoch := epoch
    guards := fun key =>
      (table.guards key).map fun guard => guard.swept table.grace epoch now (key ∈ marked) }

def GuardTable.sweep (table : GuardTable) (epoch : Nat) (rootsComplete : Bool) (marked : List Key)
    (now : Time) : Except Refusal (List Deletion) × GuardTable :=
  if rootsComplete = false then (.error GuardError.incompleteRoots.refusal, table)
  else if now = 0 then (.error ⟨none, "sweep time is required"⟩, table)
  else if epoch ≤ table.lastEpoch then
    (.error (GuardError.epochOrder.wrap
      ("sweep epoch " ++ toString epoch ++ " after " ++ toString table.lastEpoch)), table)
  else match table.checkMarked marked with
    | some refusal => (.error refusal, table)
    | none => (.ok ((table.keys.filterMap (table.condemn epoch marked now)).insertionSort Deletion.before),
        table.sweepAll epoch marked now)

/-- `deletionMatchesGuard`. -/
def Deletion.matchesGuard (deletion : Deletion) (guard : GuardRecord) : Prop :=
  guard.generation = deletion.guardGeneration ∧ guard.deletionEpoch = deletion.epoch
deriving Decidable

def GuardTable.completeDeletion (deletion : Deletion) : Except Refusal Unit × GuardTable :=
  match validateKey deletion.key with
  | some refusal => (.error refusal, table)
  | none =>
    let stale := GuardError.staleDeletion.wrap ("complete deletion of " ++ deletion.key.digest)
    match table.guards deletion.key with
    | none => (.error stale, table)
    | some guard =>
      if guard.state = .deleted ∧ deletion.matchesGuard guard then (.ok (), table)
      else if guard.state = .deleting ∧ deletion.matchesGuard guard then
        (.ok (), table.setGuard deletion.key { guard with state := .deleted })
      else (.error stale, table)

def GuardTable.validateDeletion (deletion : Deletion) : Except Refusal Unit :=
  match validateKey deletion.key with
  | some refusal => .error refusal
  | none =>
    let stale := GuardError.staleDeletion.wrap ("validate deletion of " ++ deletion.key.digest)
    match table.guards deletion.key with
    | none => .error stale
    | some guard =>
      if guard.Condemned ∧ deletion.matchesGuard guard then .ok () else .error stale

/-- The exported operations of the table. -/
inductive Operation where
  | register (key : Key) (createdAt : Time)
  | protect (key : Key) (permitId : String)
  | finalize (permitId : String)
  | abandon (permitId : String)
  | sweep (epoch : Nat) (rootsComplete : Bool) (marked : List Key) (now : Time)
  | completeDeletion (deletion : Deletion)
deriving DecidableEq

inductive Answer where
  | done
  | permit (permit : Permit)
  | deletions (deletions : List Deletion)
deriving DecidableEq

/-- An answer with the table beside it. -/
def answered {Value : Type} (wrap : Value → Answer) (result : Except Refusal Value × GuardTable) :
    Except Refusal Answer × GuardTable :=
  (result.1.map wrap, result.2)

def GuardTable.execute : Operation → Except Refusal Answer × GuardTable
  | .register key createdAt => answered (fun _ => .done) (table.register key createdAt)
  | .protect key permitId => answered .permit (table.protect key permitId)
  | .finalize permitId => answered (fun _ => .done) (table.finalize permitId)
  | .abandon permitId => answered (fun _ => .done) (table.abandon permitId)
  | .sweep epoch rootsComplete marked now =>
    answered .deletions (table.sweep epoch rootsComplete marked now)
  | .completeDeletion deletion => answered (fun _ => .done) (table.completeDeletion deletion)

end Circulusd.Blob
