import Circulusd.Blob.Guard
import Circulusd.Library.Turns
import Circulusd.Protocol.Types

/-
The content store over a shared guard table. Every caller runs its operation step by step, so the
operations of any number of callers interleave.
-/

namespace Circulusd.Blob

open KeyValue Platform Protocol Turns Function

/-- The digest of a content as text, and the texts that `identity.Parse` takes for a tenant. -/
structure Content where
  digestOf : Bytes → String
  parsesTenant : String → Bool

structure Reference where
  tenantId : ID
  digest : String
  size : Nat
deriving DecidableEq

/-- `ReferenceFor`. -/
def Content.referenceFor (content : Content) (tenant : ID) (data : Bytes) : Reference :=
  ⟨tenant, content.digestOf data, data.length⟩

def Reference.objectKey (reference : Reference) : String :=
  if reference.tenantId.kind ≠ some .tenant ∨ digestPattern reference.digest = false then ""
  else
    let hexDigest := reference.digest.toList.drop 7
    String.ofList (reference.tenantId.value.toList ++ "/sha256/".toList ++ hexDigest.take 2 ++ ['/'] ++
      (hexDigest.drop 2).take 2 ++ ['/'] ++ hexDigest)

/-- The place of an object whose tenant is an identity. -/
def Key.objectKey (key : Key) : String :=
  Reference.objectKey ⟨⟨some .tenant, key.tenantId⟩, key.digest, 0⟩

structure StoredObject where
  data : Bytes
  etag : String
deriving DecidableEq

/-- The operations that pass the gate of their key. -/
inductive Task where
  | upload (tenant : ID) (data : Bytes) (createdAt : Time)
  | protect (tenant : ID) (reference : Reference) (permitId : String)
  | delete (deletion : Deletion)
deriving DecidableEq

def Task.key (content : Content) : Task → Key
  | .upload tenant data _ => ⟨tenant.value, content.digestOf data⟩
  | .protect tenant reference _ => ⟨tenant.value, reference.digest⟩
  | .delete deletion => deletion.key

/-- `validateReference`. -/
def ValidReference (tenant : ID) (reference : Reference) : Prop :=
  tenant.kind = some .tenant ∧ reference.tenantId.kind = some .tenant ∧
    digestPattern reference.digest = true ∧ reference.objectKey ≠ "" ∧ tenant = reference.tenantId
deriving Decidable

/-- What an operation checks before it asks for the gate. -/
def Task.Admissible : Task → Prop
  | .upload tenant _ createdAt => tenant.kind = some .tenant ∧ createdAt ≠ 0
  | .protect tenant reference _ => ValidReference tenant reference
  | .delete _ => True

/-- What an operation does next inside the gate. -/
inductive Stage where
  | put
  | compare
  | register
  | read
  | grant
  | validate
  | remove
  | complete
  | done
deriving DecidableEq

def Task.firstStage : Task → Stage
  | .upload .. => .put
  | .protect .. => .read
  | .delete _ => .validate

/-- An operation with its key and the gate that counts it. -/
structure Visit where
  task : Task
  key : Key
  gate : Nat
deriving DecidableEq

inductive Point where
  | idle
  | waiting (visit : Visit)
  | entered (visit : Visit)
  | working (visit : Visit) (stage : Stage)
  | leaving (visit : Visit)
deriving DecidableEq

def Point.position : Point → Position Key
  | .idle => .outside
  | .waiting visit => .waiting visit.key visit.gate
  | .entered visit | .working visit _ => .holding visit.key visit.gate
  | .leaving visit => .leaving visit.key visit.gate

structure World where
  table : GuardTable
  objects : Store String StoredObject
  gates : Gates Key
  callers : Nat → Point

/-- The store may hold objects already; no guard is there yet. -/
def World.initial (grace : Int) (objects : Store String StoredObject) : World where
  table := newGuardTable grace
  objects := objects
  gates := Turns.initial
  callers _ := .idle

/-- What a step shows: a direct call of the table, an accepted registration, and an object that the
execution of a deletion removed. -/
inductive Action where
  | guard (operation : Operation) (answer : Except Refusal Answer)
  | registered (key : Key)
  | removed (deletion : Deletion)
  | silent

/-- The calls of the table that need no gate. -/
def Operation.ungated : Operation → Bool
  | .protect .. | .finalize _ | .abandon _ | .sweep .. => true
  | .register .. | .completeDeletion _ => false

/-- The object store after a conditional put that may have taken effect. -/
def MayPut (objects : Store String StoredObject) (key : String) (data : Bytes)
    (after : Store String StoredObject) : Prop :=
  after = objects ∨ objects key = none ∧ ∃ etag, after = update objects key (some ⟨data, etag⟩)

/-- One step inside the gate. A call of the object store is atomic; with an error it may have taken
effect or not. -/
inductive Works (content : Content) (table : GuardTable) (objects : Store String StoredObject) :
    Task → Stage → Action → GuardTable → Store String StoredObject → Stage → Prop
  /-- `PutIfAbsent` succeeds. -/
  | stored (tenant : ID) (data : Bytes) (createdAt : Time) (etag : String)
      (absent : objects (content.referenceFor tenant data).objectKey = none) :
      Works content table objects (.upload tenant data createdAt) .put .silent table
        (update objects (content.referenceFor tenant data).objectKey (some ⟨data, etag⟩)) .register
  /-- `PutIfAbsent` reports a failed precondition. -/
  | conflicted (tenant : ID) (data : Bytes) (createdAt : Time) {after : Store String StoredObject}
      (effect : MayPut objects (content.referenceFor tenant data).objectKey data after) :
      Works content table objects (.upload tenant data createdAt) .put .silent table after .compare
  /-- `PutIfAbsent` fails otherwise. -/
  | unstored (tenant : ID) (data : Bytes) (createdAt : Time) {after : Store String StoredObject}
      (effect : MayPut objects (content.referenceFor tenant data).objectKey data after) :
      Works content table objects (.upload tenant data createdAt) .put .silent table after .done
  | matched (tenant : ID) (data : Bytes) (createdAt : Time) (object : StoredObject)
      (found : objects (content.referenceFor tenant data).objectKey = some object)
      (etag : object.etag = content.digestOf data) (same : object.data = data) :
      Works content table objects (.upload tenant data createdAt) .compare .silent table objects .register
  | unmatched (task : Task) : Works content table objects task .compare .silent table objects .done
  | registered (tenant : ID) (data : Bytes) (createdAt : Time)
      (ok : (table.register ⟨tenant.value, content.digestOf data⟩ createdAt).1 = .ok ()) :
      Works content table objects (.upload tenant data createdAt) .register
        (.registered ⟨tenant.value, content.digestOf data⟩)
        (table.register ⟨tenant.value, content.digestOf data⟩ createdAt).2 objects .done
  | unregistered (tenant : ID) (data : Bytes) (createdAt : Time) (refusal : Refusal)
      (refused : (table.register ⟨tenant.value, content.digestOf data⟩ createdAt).1 = .error refusal) :
      Works content table objects (.upload tenant data createdAt) .register .silent
        (table.register ⟨tenant.value, content.digestOf data⟩ createdAt).2 objects .done
  | readable (tenant : ID) (reference : Reference) (permitId : String) (object : StoredObject)
      (found : objects reference.objectKey = some object)
      (intact : content.digestOf object.data = reference.digest ∧ object.etag = reference.digest ∧
        object.data.length = reference.size) :
      Works content table objects (.protect tenant reference permitId) .read .silent table objects .grant
  | unreadable (task : Task) : Works content table objects task .read .silent table objects .done
  | granted (tenant : ID) (reference : Reference) (permitId : String) :
      Works content table objects (.protect tenant reference permitId) .grant
        (.guard (.protect ⟨tenant.value, reference.digest⟩ permitId)
          (table.execute (.protect ⟨tenant.value, reference.digest⟩ permitId)).1)
        (table.execute (.protect ⟨tenant.value, reference.digest⟩ permitId)).2 objects .done
  | validated (deletion : Deletion) (ok : table.validateDeletion deletion = .ok ())
      (parsed : content.parsesTenant deletion.key.tenantId = true)
      (digest : digestPattern deletion.key.digest = true) :
      Works content table objects (.delete deletion) .validate .silent table objects .remove
  | invalid (task : Task) : Works content table objects task .validate .silent table objects .done
  /-- `DeleteIfMatch` takes effect; it may still report an error, and then the call ends. -/
  | removed (deletion : Deletion) (object : StoredObject) (stage : Stage)
      (found : objects deletion.key.objectKey = some object) (etag : object.etag = deletion.key.digest)
      (next : stage = .complete ∨ stage = .done) :
      Works content table objects (.delete deletion) .remove (.removed deletion) table
        (update objects deletion.key.objectKey none) stage
  /-- `DeleteIfMatch` has no effect: the object is not found, or the call fails. -/
  | unremoved (task : Task) (stage : Stage) (next : stage = .complete ∨ stage = .done) :
      Works content table objects task .remove .silent table objects stage
  | completed (deletion : Deletion) : Works content table objects (.delete deletion) .complete .silent
        (table.completeDeletion deletion).2 objects .done

/-- The steps of all callers, of the table and of readers. -/
inductive World.Step (content : Content) : World → Action → World → Prop
  | guard (world : World) (operation : Operation) (ungated : operation.ungated = true) :
      World.Step content world (.guard operation (world.table.execute operation).1)
        { world with table := (world.table.execute operation).2 }
  /-- `Read` passes no gate and changes nothing. -/
  | read (world : World) (reference : Reference) : World.Step content world .silent world
  /-- The first part of `acquireStorage`. -/
  | join (world : World) (caller : Nat) (task : Task) (idle : world.callers caller = .idle)
      (admissible : task.Admissible) (valid : validateKey (task.key content) = none) :
      World.Step content world .silent
        { world with
          gates := world.gates.join (task.key content)
          callers := update world.callers caller
            (.waiting ⟨task, task.key content, world.gates.target (task.key content)⟩) }
  | take (world : World) (caller : Nat) (visit : Visit) (waiting : world.callers caller = .waiting visit)
      (free : (world.gates.gate visit.gate).taken = false) :
      World.Step content world .silent
        { world with
          gates := world.gates.take visit.gate
          callers := update world.callers caller (.entered visit) }
  /-- A waiting caller is cancelled. -/
  | withdraw (world : World) (caller : Nat) (visit : Visit) (waiting : world.callers caller = .waiting visit) :
      World.Step content world .silent
        { world with
          gates := world.gates.leave visit.key visit.gate
          callers := update world.callers caller .idle }
  | start (world : World) (caller : Nat) (visit : Visit) (entered : world.callers caller = .entered visit) :
      World.Step content world .silent
        { world with
          callers := update world.callers caller (.working visit visit.task.firstStage) }
  /-- The turn is given back: the caller was cancelled as it entered, or it is done. -/
  | give (world : World) (caller : Nat) (visit : Visit)
      (ending : world.callers caller = .entered visit ∨ world.callers caller = .working visit .done) :
      World.Step content world .silent
        { world with
          gates := world.gates.give visit.gate
          callers := update world.callers caller (.leaving visit) }
  | leave (world : World) (caller : Nat) (visit : Visit) (leaving : world.callers caller = .leaving visit) :
      World.Step content world .silent
        { world with
          gates := world.gates.leave visit.key visit.gate
          callers := update world.callers caller .idle }
  | work (world : World) (caller : Nat) (visit : Visit) (stage next : Stage) (action : Action)
      (table : GuardTable) (objects : Store String StoredObject)
      (working : world.callers caller = .working visit stage)
      (works : Works content world.table world.objects visit.task stage action table objects next) :
      World.Step content world action
        { world with
          table, objects
          callers := update world.callers caller (.working visit next) }

/-- The caller has its turn at the gate of the key. -/
def World.Inside (world : World) (caller : Nat) (key : Key) : Prop :=
  ∃ visit, visit.key = key ∧
    (world.callers caller = .entered visit ∨ ∃ stage, world.callers caller = .working visit stage)

end Circulusd.Blob
