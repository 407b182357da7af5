import Circulusd.Blob.Retention
import Circulusd.Blob.Store

/-
Live blobs are in the object store, whatever the callers do and wherever they are cancelled.
-/

namespace Circulusd.Blob

open Function GuardRecord GuardTable KeyValue Platform Trace Turns

section Keys

theorem digestPattern_of_valid {key : Key} (valid : validateKey key = none) : digestPattern key.digest = true := by
  unfold validateKey at valid
  split at valid
  case isTrue => cases valid
  case isFalse =>
    split at valid
    case isTrue pattern => exact pattern
    case isFalse => cases valid

/-- A digest of the pattern is its prefix followed by 64 characters. -/
theorem digest_split {digest : String} (pattern : digestPattern digest = true) :
    digest.toList = "sha256:".toList ++ digest.toList.drop 7 ∧ (digest.toList.drop 7).length = 64 := by
  simp only [digestPattern, Bool.and_eq_true, decide_eq_true_eq] at pattern
  obtain ⟨⟨start, length⟩, -⟩ := pattern
  refine ⟨?_, by rw [List.length_drop, length]⟩
  rw [← start, List.take_append_drop]

/-- Distinct keys have distinct places in the object store. -/
theorem objectKey_injective {left right : Key} (leftValid : validateKey left = none)
    (rightValid : validateKey right = none) (same : left.objectKey = right.objectKey) : left = right := by
  have leftPattern := digestPattern_of_valid leftValid
  have rightPattern := digestPattern_of_valid rightValid
  simp only [Key.objectKey, Reference.objectKey, leftPattern, rightPattern, ne_eq, not_true_eq_false,
    Bool.true_eq_false, or_self, if_false] at same
  obtain ⟨leftText, leftLength⟩ := digest_split leftPattern
  obtain ⟨rightText, rightLength⟩ := digest_split rightPattern
  obtain ⟨front, hex⟩ := List.append_inj' (String.ofList_injective same) (leftLength.trans rightLength.symm)
  rw [hex] at front
  have tenants : left.tenantId.toList = right.tenantId.toList := by simpa using front
  have digests : left.digest.toList = right.digest.toList := by rw [leftText, rightText, hex]
  cases left
  cases right
  exact congrArg₂ Key.mk (String.toList_inj.mp tenants) (String.toList_inj.mp digests)

theorem referenceFor_objectKey (content : Content) {tenant : ID} (kind : tenant.kind = some .tenant)
    (data : Protocol.Bytes) : (content.referenceFor tenant data).objectKey =
      Key.objectKey ⟨tenant.value, content.digestOf data⟩ := by
  unfold Key.objectKey Content.referenceFor Reference.objectKey
  simp only [kind]

end Keys

section Table

variable {table after : GuardTable} {operation : Operation} {answer : Except Refusal Answer}
variable {key : Key}

/-- A guard that stands was not condemned by the sweep before. -/
theorem GuardRecord.swept_standing {guard : GuardRecord} {grace : Int} {epoch : Nat} {now : Time}
    {used : Prop} [Decidable used] (standing : ¬ (guard.swept grace epoch now used).Condemned) :
    ¬ guard.Condemned := by
  intro condemned
  unfold swept at standing
  rw [if_pos condemned] at standing
  exact standing condemned

/-- What the calls without a gate leave of the guards. -/
structure GuardTable.Follows (table after : GuardTable) : Prop where
  standing : ∀ key next, after.guards key = some next →
    ∃ guard, table.guards key = some guard ∧ (¬ next.Condemned → ¬ guard.Condemned)
  condemned : ∀ key guard, table.guards key = some guard → guard.Condemned →
    ∃ next, after.guards key = some next ∧ next.Condemned ∧ next.generation = guard.generation ∧
      next.deletionEpoch = guard.deletionEpoch

theorem GuardTable.Follows.refl (table : GuardTable) : table.Follows table where
  standing _ guard found := ⟨guard, found, id⟩
  condemned _ guard found condemned := ⟨guard, found, condemned, rfl, rfl⟩

/-- One guard changes without being condemned or brought back. -/
theorem GuardTable.Follows.setGuard {guard : GuardRecord} (next : GuardRecord)
    (found : table.guards key = some guard) (standing : ¬ next.Condemned → ¬ guard.Condemned)
    (condemned : guard.Condemned → next.Condemned ∧ next.generation = guard.generation ∧
      next.deletionEpoch = guard.deletionEpoch) : table.Follows (table.setGuard key next) := by
  constructor <;> simp only [GuardTable.setGuard, update_apply] <;> grind

theorem GuardTable.Follows.setPermit (follows : table.Follows after) (permitId : String)
    (record : PermitRecord) : table.Follows (after.setPermit permitId record) :=
  ⟨follows.standing, follows.condemned⟩

theorem Changed.follows (changed : Changed table operation answer after)
    (ungated : operation.ungated = true) : table.Follows after := by
  cases changed with
  | refused | reprotected | refinalized | reabandoned => exact .refl table
  | present | registered | revived | recompleted | completed => cases ungated
  | granted key permitId guard _ found standing =>
    exact (Follows.setGuard (guard.protect permitId) found (fun _ => standing)
      fun condemned => absurd condemned standing).setPermit _ _
  | finalized permitId record | abandoned permitId record =>
    unfold settle
    split
    case h_1 => exact (Follows.refl table).setPermit _ _
    case h_2 guard found =>
      exact (Follows.setGuard { guard with pending := guard.pending.erase permitId } found id
        fun condemned => ⟨condemned, rfl, rfl⟩).setPermit _ _
  | swept epoch marked now =>
    constructor
    case standing =>
      intro key next found
      obtain ⟨guard, present, rfl⟩ := sweepAll_guards found
      exact ⟨guard, present, swept_standing⟩
    case condemned =>
      intro key guard found condemned
      refine ⟨guard, ?_, condemned, rfl, rfl⟩
      simp [sweepAll, found, GuardRecord.swept, condemned]

/-- Only a condemned guard has the epoch of a deletion, and it was swept already. -/
def GuardTable.Dated (table : GuardTable) : Prop :=
  ∀ key guard, table.guards key = some guard →
    (¬ guard.Condemned → guard.deletionEpoch = 0) ∧ guard.deletionEpoch ≤ table.lastEpoch

theorem GuardTable.Dated.setGuard (dated : table.Dated) (next : GuardRecord)
    (standing : ¬ next.Condemned → next.deletionEpoch = 0) (swept : next.deletionEpoch ≤ table.lastEpoch) :
    (table.setGuard key next).Dated := by
  intro other record present
  obtain ⟨-, rfl⟩ | ⟨-, present⟩ := update_eq_some present
  · exact ⟨standing, swept⟩
  · exact dated other record present

/-- The epoch of a swept guard is the one it had, or that of the sweep. -/
theorem GuardRecord.swept_epoch (guard : GuardRecord) (grace : Int) (epoch : Nat) (now : Time)
    (used : Prop) [Decidable used] :
    (guard.swept grace epoch now used).deletionEpoch = guard.deletionEpoch ∨
      (guard.swept grace epoch now used).Condemned ∧ (guard.swept grace epoch now used).deletionEpoch = epoch := by
  unfold swept
  split_ifs
  · exact .inl rfl
  · exact .inl rfl
  · exact .inl rfl
  · exact .inr ⟨.inl rfl, rfl⟩
  · exact .inl rfl

theorem Changed.dated (changed : Changed table operation answer after) (dated : table.Dated) : after.Dated := by
  cases changed with
  | refused | present | reprotected | refinalized | reabandoned | recompleted => exact dated
  | registered key createdAt =>
    exact dated.setGuard (.fresh createdAt) (fun _ => rfl) (Nat.zero_le _)
  | revived key createdAt guard =>
    exact dated.setGuard (guard.revived createdAt) (fun _ => rfl) (Nat.zero_le _)
  | granted key permitId guard _ found standing =>
    obtain ⟨zero, swept⟩ := dated key guard found
    exact dated.setGuard (guard.protect permitId) (fun _ => zero standing) swept
  | finalized permitId record | abandoned permitId record =>
    unfold settle
    split
    case h_1 => exact dated
    case h_2 guard found =>
      obtain ⟨zero, swept⟩ := dated record.permit.key guard found
      exact dated.setGuard { guard with pending := guard.pending.erase permitId } zero swept
  | swept epoch marked now _ later =>
    intro key next found
    obtain ⟨guard, present, rfl⟩ := sweepAll_guards found
    obtain ⟨zero, swept⟩ := dated key guard present
    rcases guard.swept_epoch table.grace epoch now (key ∈ marked) with same | ⟨condemned, same⟩
    · exact ⟨fun standing => same.trans (zero (swept_standing standing)), same ▸ swept.trans later.le⟩
    · exact ⟨fun standing => absurd condemned standing, same.le⟩
  | completed deletion guard found deleting =>
    obtain ⟨-, swept⟩ := dated deletion.key guard found
    exact dated.setGuard { guard with state := .deleted } (fun standing => absurd (.inr rfl) standing) swept

/-- A deletion whose object was registered again since: the guard never has its epoch any more. -/
def GuardTable.Retired (table : GuardTable) (deletion : Deletion) : Prop :=
  deletion.epoch ≠ 0 ∧ deletion.epoch ≤ table.lastEpoch ∧
    ∀ guard, table.guards deletion.key = some guard → guard.deletionEpoch ≠ deletion.epoch

theorem GuardTable.Retired.setGuard {deletion : Deletion} (retired : table.Retired deletion)
    (next : GuardRecord) (epoch : key = deletion.key → next.deletionEpoch ≠ deletion.epoch) :
    (table.setGuard key next).Retired deletion := by
  refine ⟨retired.1, retired.2.1, fun record present => ?_⟩
  obtain ⟨same, rfl⟩ | ⟨-, present⟩ := update_eq_some present
  · exact epoch same.symm
  · exact retired.2.2 record present

theorem Changed.retired {deletion : Deletion} (changed : Changed table operation answer after)
    (retired : table.Retired deletion) : after.Retired deletion := by
  have zero := retired.1
  cases changed with
  | refused | present | reprotected | refinalized | reabandoned | recompleted => exact retired
  | registered key createdAt =>
    exact retired.setGuard (.fresh createdAt) fun _ => zero.symm
  | revived key createdAt guard =>
    exact retired.setGuard (guard.revived createdAt) fun _ => zero.symm
  | granted key permitId guard _ found =>
    refine retired.setGuard (guard.protect permitId) fun same => ?_
    exact retired.2.2 guard (same ▸ found)
  | finalized permitId record | abandoned permitId record =>
    unfold settle
    split
    case h_1 => exact retired
    case h_2 guard found =>
      refine retired.setGuard { guard with pending := guard.pending.erase permitId } fun same => ?_
      exact retired.2.2 guard (same ▸ found)
  | swept epoch marked now _ later =>
    refine ⟨zero, retired.2.1.trans later.le, fun next found => ?_⟩
    obtain ⟨guard, present, rfl⟩ := sweepAll_guards found
    rcases guard.swept_epoch table.grace epoch now (deletion.key ∈ marked) with same | ⟨-, same⟩
    · rw [same]
      exact retired.2.2 guard present
    · rw [same]
      exact (retired.2.1.trans_lt later).ne'
  | completed other guard found =>
    refine retired.setGuard { guard with state := .deleted } fun same => ?_
    exact retired.2.2 guard (same ▸ found)

end Table

section Worlds

variable {content : Content} {world after : World} {action : Action} {objects : Store String StoredObject}
variable {caller : Nat} {table : GuardTable}

/-- The object store holds an object with the content of the key. -/
def Holds (content : Content) (objects : Store String StoredObject) (key : Key) : Prop :=
  ∃ object, objects key.objectKey = some object ∧ content.digestOf object.data = key.digest

/-- The guard is condemned by this very deletion. -/
def Condemns (table : GuardTable) (deletion : Deletion) : Prop :=
  ∃ guard, table.guards deletion.key = some guard ∧ guard.Condemned ∧ deletion.matchesGuard guard

def Point.visit : Point → Option Visit
  | .idle => none
  | .waiting visit | .entered visit | .working visit _ | .leaving visit => some visit

/-- The invariant of all worlds: what a caller inside its gate has established stays until it leaves. -/
structure World.Sound (content : Content) (world : World) : Prop where
  turns : Turns.Sound world.gates fun caller => (world.callers caller).position
  keyed : ∀ caller visit, (world.callers caller).visit = some visit →
    visit.key = visit.task.key content ∧ visit.task.Admissible ∧ validateKey visit.key = none
  valid : ∀ key, world.table.guards key ≠ none → validateKey key = none
  dated : world.table.Dated
  present : ∀ key guard, world.table.guards key = some guard → ¬ guard.Condemned → Holds content world.objects key
  uploading : ∀ caller visit, world.callers caller = .working visit .register → Holds content world.objects visit.key
  deleting : ∀ caller visit deletion stage, world.callers caller = .working visit stage →
    visit.task = .delete deletion → stage = .remove ∨ stage = .complete → Condemns world.table deletion

theorem World.initial_sound (content : Content) (grace : Int) (objects : Store String StoredObject) :
    (World.initial grace objects).Sound content where
  turns := Turns.initial_sound
  keyed _ _ visit := by cases visit
  valid _ found := absurd rfl found
  dated _ _ found := by cases found
  present _ _ found := by cases found
  uploading _ _ working := by cases working
  deleting _ _ _ _ working := by cases working

theorem position_update (callers : Nat → Point) (caller : Nat) (point : Point) :
    (fun other => (update callers caller point other).position) =
      update (fun other => (callers other).position) caller point.position := by
  funext other
  by_cases same : other = caller
  · subst same
    simp
  · simp [same]

/-- Callers that only wait, enter or leave keep what the others rely on. -/
theorem World.Sound.moveCaller (sound : world.Sound content) {point : Point} {gates : Gates Key}
    (turns : Turns.Sound gates (update (fun other => (world.callers other).position) caller point.position))
    (keyed : ∀ visit, point.visit = some visit →
      visit.key = visit.task.key content ∧ visit.task.Admissible ∧ validateKey visit.key = none)
    (early : ∀ visit stage, point = .working visit stage → stage ≠ .register ∧ stage ≠ .remove ∧ stage ≠ .complete) :
    World.Sound content { world with gates, callers := update world.callers caller point } := by
  obtain ⟨-, before, valid, dated, present, uploading, deleting⟩ := sound
  refine ⟨by rw [position_update]; exact turns, ?_, valid, dated, present, ?_, ?_⟩ <;>
    simp only [update_apply] <;> grind

/-- A step inside a gate needs to respect only the other keys and what it hands to its next stage. -/
theorem World.Sound.work (sound : world.Sound content) {visit : Visit} {stage next : Stage}
    (working : world.callers caller = .working visit stage)
    (valid : ∀ key, table.guards key ≠ none → validateKey key = none) (dated : table.Dated)
    (present : ∀ key guard, table.guards key = some guard → ¬ guard.Condemned → Holds content objects key)
    (others : ∀ key, validateKey key = none → key ≠ visit.key → Holds content world.objects key →
      Holds content objects key)
    (deletions : ∀ deletion, deletion.key ≠ visit.key → Condemns world.table deletion → Condemns table deletion)
    (uploading : next = .register → Holds content objects visit.key)
    (deleting : ∀ deletion, visit.task = .delete deletion → next = .remove ∨ next = .complete →
      Condemns table deletion) :
    World.Sound content
      { world with table, objects, callers := update world.callers caller (.working visit next) } := by
  have position : (fun other => (update world.callers caller (.working visit next) other).position) =
      fun other => (world.callers other).position := by
    rw [position_update]
    refine update_eq_self_iff.mpr ?_
    rw [working]
    rfl
  -- Another caller inside a gate is at another key.
  have apart {other : Nat} {elsewhere : Visit} {point : Stage} (distinct : other ≠ caller)
      (inside : world.callers other = .working elsewhere point) : elsewhere.key ≠ visit.key := by
    intro same
    refine distinct (sound.turns.exclusive
      (show (world.callers other).position = .holding visit.key elsewhere.gate from ?_)
      (show (world.callers caller).position = .holding visit.key visit.gate from ?_))
    · rw [inside, ← same]
      rfl
    · rw [working]
      rfl
  obtain ⟨turns, keyed, -, -, -, before, earlier⟩ := sound
  have mine := keyed caller visit (by rw [working]; rfl)
  refine ⟨by rwa [position], ?_, valid, dated, present, ?_, ?_⟩ <;> simp only [update_apply]
  · grind [Point.visit]
  · grind [Point.visit]
  · grind [Point.visit, Task.key]

/-- A conditional put leaves every object that is there. -/
theorem MayPut.holds {place : String} {data : Protocol.Bytes} {later : Store String StoredObject} {key : Key}
    (effect : MayPut objects place data later) (holds : Holds content objects key) :
    Holds content later key := by
  obtain ⟨object, found, digest⟩ := holds
  refine ⟨object, ?_, digest⟩
  rcases effect with rfl | ⟨absent, etag, rfl⟩
  · exact found
  · rw [update_of_ne, found]
    intro same
    rw [same, absent] at found
    cases found

/-- A registration is about its own key. -/
theorem GuardTable.register_guards (table : GuardTable) (key : Key) (createdAt : Time) {other : Key}
    (distinct : other ≠ key) : (table.register key createdAt).2.guards other = table.guards other := by
  have changed := table.register_changed key createdAt
  change Changed table _ (answered _ _).1 (table.register key createdAt).2 at changed
  generalize (answered _ _).1 = answer, (table.register key createdAt).2 = later at changed
  cases changed with
  | refused | present => rfl
  | registered | revived => exact update_of_ne distinct _ _

theorem GuardTable.completeDeletion_guards (table : GuardTable) (deletion : Deletion) {other : Key}
    (distinct : other ≠ deletion.key) :
    (table.completeDeletion deletion).2.guards other = table.guards other := by
  have changed := table.completeDeletion_changed deletion
  change Changed table _ (answered _ _).1 (table.completeDeletion deletion).2 at changed
  generalize (answered _ _).1 = answer, (table.completeDeletion deletion).2 = later at changed
  cases changed with
  | refused | recompleted => rfl
  | completed => exact update_of_ne distinct _ _

/-- The completion of a deletion never brings an object back. -/
theorem GuardTable.completeDeletion_standing (table : GuardTable) (deletion : Deletion) {key : Key}
    {next : GuardRecord} (found : (table.completeDeletion deletion).2.guards key = some next)
    (standing : ¬ next.Condemned) : table.guards key = some next := by
  have changed := table.completeDeletion_changed deletion
  change Changed table _ (answered _ _).1 (table.completeDeletion deletion).2 at changed
  generalize (answered _ _).1 = answer, (table.completeDeletion deletion).2 = later at changed found
  cases changed with
  | refused | recompleted => exact found
  | completed _ guard =>
    obtain ⟨-, rfl⟩ | ⟨-, found⟩ := update_eq_some found
    · exact absurd (.inr rfl) standing
    · exact found

theorem GuardTable.validateDeletion_condemns {deletion : Deletion}
    (ok : table.validateDeletion deletion = .ok ()) : Condemns table deletion := by
  unfold validateDeletion at ok
  split at ok
  case h_1 => cases ok
  case h_2 =>
    dsimp only at ok
    split at ok
    case h_1 => cases ok
    case h_2 guard found =>
      split at ok
      case isTrue both => exact ⟨guard, found, both⟩
      case isFalse => cases ok

section

variable {table later : GuardTable} (follows : table.Follows later)
include follows

theorem GuardTable.Follows.condemns {deletion : Deletion} (condemns : Condemns table deletion) :
    Condemns later deletion := by
  obtain ⟨guard, found, condemned, generation, epoch⟩ := condemns
  obtain ⟨next, present, still, sameGeneration, sameEpoch⟩ := follows.condemned _ guard found condemned
  exact ⟨next, present, still, sameGeneration.trans generation, sameEpoch.trans epoch⟩

theorem GuardTable.Follows.present
    (holds : ∀ key guard, table.guards key = some guard → ¬ guard.Condemned → Holds content objects key) (key : Key)
    (next : GuardRecord) (found : later.guards key = some next) (standing : ¬ next.Condemned) :
    Holds content objects key := by
  obtain ⟨guard, present, before⟩ := follows.standing key next found
  exact holds key guard present (before standing)

theorem GuardTable.Follows.valid (valid : ∀ key, table.guards key ≠ none → validateKey key = none) (key : Key)
    (found : later.guards key ≠ none) : validateKey key = none := by
  obtain ⟨next, present⟩ := Option.ne_none_iff_exists'.mp found
  obtain ⟨guard, before, -⟩ := follows.standing key next present
  exact valid key (by simp [before])

end

section

variable (sound : world.Sound content) {caller : Nat} {visit : Visit}
include sound

/-- A call about the key of the visit ends its work when what it leaves standing there has its object. -/
theorem World.Sound.recorded {stage : Stage} (working : world.callers caller = .working visit stage)
    (elsewhere : ∀ other ≠ visit.key, table.guards other = world.table.guards other) (dated : table.Dated)
    (here : ∀ guard, table.guards visit.key = some guard → ¬ guard.Condemned → Holds content world.objects visit.key) :
    World.Sound content { world with table, callers := update world.callers caller (.working visit .done) } := by
  obtain ⟨-, -, validKey⟩ := sound.keyed caller visit (by rw [working]; rfl)
  have valid := sound.valid
  have present := sound.present
  refine sound.work working ?_ dated ?_ (fun _ _ _ held => held) ?_ (by simp) (by simp)
  · grind
  · grind
  · rintro deletion distinct ⟨guard, found, condemned⟩
    exact ⟨guard, (elsewhere _ distinct).trans found, condemned⟩

/-- An upload that reached its registration brings its object with it. -/
theorem World.Sound.register {tenant : ID} {data : Protocol.Bytes} {createdAt : Time}
    (working : world.callers caller = .working visit .register) (task : visit.task = .upload tenant data createdAt) :
    World.Sound content { world with
      table := (world.table.register ⟨tenant.value, content.digestOf data⟩ createdAt).2
      callers := update world.callers caller (.working visit .done) } := by
  obtain ⟨key, -⟩ := sound.keyed caller visit (by rw [working]; rfl)
  rw [task] at key
  change visit.key = ⟨tenant.value, content.digestOf data⟩ at key
  have changed := world.table.register_changed ⟨tenant.value, content.digestOf data⟩ createdAt
  rw [← key] at changed ⊢
  exact sound.recorded working (fun _ => world.table.register_guards visit.key createdAt) (changed.dated sound.dated)
    fun _ _ _ => sound.uploading caller visit working

/-- The execution of a deletion removes only an object whose guard it condemned. -/
theorem World.Sound.remove {deletion : Deletion} {next : Stage}
    (working : world.callers caller = .working visit .remove) (task : visit.task = .delete deletion)
    (late : next = .complete ∨ next = .done) : World.Sound content { world with
      objects := update world.objects deletion.key.objectKey none
      callers := update world.callers caller (.working visit next) } := by
  obtain ⟨key, -, validKey⟩ := sound.keyed caller visit (by rw [working]; rfl)
  rw [task] at key
  change visit.key = deletion.key at key
  have condemns := sound.deleting caller visit deletion .remove working task (.inl rfl)
  have others (place : Key) (valid : validateKey place = none) (distinct : place ≠ visit.key)
      (holds : Holds content world.objects place) :
      Holds content (update world.objects deletion.key.objectKey none) place := by
    obtain ⟨object, found, digest⟩ := holds
    refine ⟨object, ?_, digest⟩
    rw [update_of_ne, found]
    intro same
    exact distinct (objectKey_injective valid validKey (key ▸ same))
  refine sound.work working sound.valid sound.dated
    (fun place guard found standing => ?_) others (fun _ _ condemns => condemns) ?_ ?_
  · by_cases same : place = visit.key
    · obtain ⟨condemnedGuard, present, condemned, -⟩ := condemns
      rw [same, key, present] at found
      cases found
      exact absurd condemned standing
    · exact others place (sound.valid place (by simp [found])) same (sound.present place guard found standing)
  · rintro rfl
    simp at late
  · intro other same _
    rw [task] at same
    obtain rfl : deletion = other := by simpa using same
    exact condemns

theorem World.Sound.complete {deletion : Deletion} (working : world.callers caller = .working visit .complete)
    (task : visit.task = .delete deletion) : World.Sound content { world with
      table := (world.table.completeDeletion deletion).2
      callers := update world.callers caller (.working visit .done) } := by
  obtain ⟨key, -⟩ := sound.keyed caller visit (by rw [working]; rfl)
  rw [task] at key
  change visit.key = deletion.key at key
  refine sound.recorded working (fun other distinct => ?_)
    ((world.table.completeDeletion_changed deletion).dated sound.dated) fun guard found standing => ?_
  · exact world.table.completeDeletion_guards deletion (key ▸ distinct)
  · exact sound.present _ guard (world.table.completeDeletion_standing deletion found standing) standing

end

theorem Works.sound (sound : world.Sound content) {visit : Visit} {stage next : Stage}
    (working : world.callers caller = .working visit stage)
    (works : Works content world.table world.objects visit.task stage action table objects next) :
    World.Sound content
      { world with table, objects, callers := update world.callers caller (.working visit next) } := by
  obtain ⟨key, admissible, -⟩ := sound.keyed caller visit (by rw [working]; rfl)
  generalize named : visit.task = task at works
  rw [named] at key admissible
  -- The steps that only put an object, or change nothing.
  have quiet {later : Store String StoredObject} {place : String} {data : Protocol.Bytes}
      (effect : MayPut world.objects place data later) {next : Stage}
      (uploading : next = .register → Holds content later visit.key)
      (deleting : ∀ deletion, task = .delete deletion → next = .remove ∨ next = .complete →
        Condemns world.table deletion) :=
    sound.work working sound.valid sound.dated
      (fun key guard found standing => effect.holds (sound.present key guard found standing))
      (fun _ _ _ held => effect.holds held) (fun _ _ condemns => condemns) uploading (named ▸ deleting)
  have same {place : String} {data : Protocol.Bytes} : MayPut world.objects place data world.objects :=
    .inl rfl
  cases works with
  | stored tenant data createdAt etag absent =>
    refine quiet (.inr ⟨absent, etag, rfl⟩) (fun _ => ⟨⟨data, etag⟩, ?_, ?_⟩) (by simp)
    · rw [key, referenceFor_objectKey content admissible.1]
      exact update_self _ _ _
    · rw [key]
      rfl
  | conflicted _ _ _ effect | unstored _ _ _ effect => exact quiet effect (by simp) (by simp)
  | matched tenant data createdAt object found _ equal =>
    refine quiet (@same "" []) (fun _ => ⟨object, ?_, ?_⟩) (by simp)
    · rw [key, ← found, referenceFor_objectKey content admissible.1]
      rfl
    · rw [key, equal]
      rfl
  | unmatched | readable | unreadable | invalid => exact quiet (@same "" []) (by simp) (by simp)
  | registered | unregistered => exact sound.register working named
  | granted tenant reference permitId =>
    have changed := world.table.execute_changed (.protect ⟨tenant.value, reference.digest⟩ permitId)
    have follows := changed.follows rfl
    exact sound.work working (follows.valid sound.valid) (changed.dated sound.dated)
      (follows.present sound.present) (fun _ _ _ held => held) (fun _ _ => follows.condemns)
      (by simp) (by simp)
  | validated deletion ok =>
    refine quiet (@same "" []) (by simp) fun other equal _ => ?_
    obtain rfl : deletion = other := by simpa using equal
    exact validateDeletion_condemns ok
  | removed deletion _ _ _ _ late => exact sound.remove working named late
  | unremoved _ _ late =>
    refine quiet (@same "" []) ?_ fun deletion equal _ => ?_
    · rintro rfl
      simp at late
    · exact sound.deleting caller visit deletion .remove working (named.trans equal) (.inl rfl)
  | completed => exact sound.complete working named

theorem World.Step.sound (step : World.Step content world action after) (sound : world.Sound content) :
    after.Sound content := by
  have turns := sound.turns
  cases step with
  | guard operation ungated =>
    have changed := world.table.execute_changed operation
    have follows := changed.follows ungated
    exact ⟨turns, sound.keyed, follows.valid sound.valid, changed.dated sound.dated,
      follows.present sound.present, sound.uploading, fun caller visit deletion stage working task late =>
        follows.condemns (sound.deleting caller visit deletion stage working task late)⟩
  | read => exact sound
  | join caller task idle admissible valid =>
    refine sound.moveCaller (turns.join ?_ _) (fun visit found => ?_) (by simp)
    · simp [idle, Point.position]
    · cases found
      exact ⟨rfl, admissible, valid⟩
  | take caller visit waiting free =>
    refine sound.moveCaller (turns.take ?_ free) (fun other found => ?_) (by simp)
    · simp [waiting, Point.position]
    · cases found
      exact sound.keyed caller visit (by rw [waiting]; rfl)
  | withdraw caller visit waiting =>
    refine sound.moveCaller (turns.leave ?_ ?_) (by simp [Point.visit]) (by simp)
    · simp [waiting, Point.position, Position.reference]
    · simp [waiting, Point.position]
  | start caller visit entered =>
    refine sound.moveCaller ?_ (fun other found => ?_) ?_
    · convert turns using 1
      refine update_eq_self_iff.mpr ?_
      rw [entered]
      rfl
    · cases found
      exact sound.keyed caller visit (by rw [entered]; rfl)
    · rintro _ _ ⟨rfl, rfl⟩
      cases visit.task <;> simp [Task.firstStage]
  | give caller visit ending =>
    refine sound.moveCaller (turns.give ?_) (fun other found => ?_) (by simp)
    · rcases ending with entered | done
      · simp [entered, Point.position]
      · simp [done, Point.position]
    · cases found
      rcases ending with entered | done
      · exact sound.keyed caller visit (by rw [entered]; rfl)
      · exact sound.keyed caller visit (by rw [done]; rfl)
  | leave caller visit leaving =>
    refine sound.moveCaller (turns.leave ?_ ?_) (by simp [Point.visit]) (by simp)
    · simp [leaving, Point.position, Position.reference]
    · simp [leaving, Point.position]
  | work caller visit stage next _ _ _ working works => exact works.sound sound working

end Worlds

section Runs

variable {content : Content} {world after : World} {action : Action} {actions : List Action} {deletion : Deletion}
variable {operation : Operation}

theorem Changed.lastEpoch_le {table later : GuardTable}
    {answer : Except Refusal Answer} (changed : Changed table operation answer later) :
    table.lastEpoch ≤ later.lastEpoch := by
  cases changed with
  | swept _ _ _ _ higher => exact higher.le
  | finalized | abandoned =>
    unfold settle
    split
    case h_1 | h_2 => exact le_rfl
  | _ => exact le_rfl

/-- The deletions of a sweep have its epoch, which is not zero. -/
theorem Changed.issued {table later : GuardTable} {deletions : List Deletion}
    (changed : Changed table operation (.ok (.deletions deletions)) later) (member : deletion ∈ deletions) :
    deletion.epoch ≠ 0 ∧ deletion.epoch ≤ later.lastEpoch := by
  cases changed with
  | swept epoch marked now _ higher _ issued =>
    rw [issued deletion member]
    exact ⟨(Nat.zero_le _).trans_lt higher |>.ne', le_rfl⟩

/-- Every step changes the table by one call at most; the calls that it shows are its own. -/
theorem World.Step.changed (step : World.Step content world action after) :
    ∃ operation answer, Changed world.table operation answer after.table ∧
      ∀ shown given, action = .guard shown given → shown = operation ∧ given = answer := by
  have nothing {table : GuardTable} : Changed table (.finalize "") (.error ⟨none, ""⟩) table :=
    .refused _ _
  cases step with
  | guard operation =>
    exact ⟨operation, _, world.table.execute_changed operation, fun _ _ shown => by cases shown; simp⟩
  | read | join | take | withdraw | start | give | leave =>
    exact ⟨_, _, nothing, fun _ _ shown => by cases shown⟩
  | work caller visit stage next _ _ _ _ works =>
    generalize visit.task = task at works
    cases works with
    | registered tenant data createdAt | unregistered tenant data createdAt =>
      exact ⟨_, _, world.table.register_changed _ createdAt, fun _ _ shown => by cases shown⟩
    | granted tenant reference permitId =>
      exact ⟨_, _, world.table.execute_changed (.protect ⟨tenant.value, reference.digest⟩ permitId),
        fun _ _ shown => by cases shown; simp⟩
    | completed deletion =>
      exact ⟨_, _, world.table.completeDeletion_changed deletion, fun _ _ shown => by cases shown⟩
    | _ => exact ⟨_, _, nothing, fun _ _ shown => by cases shown⟩

theorem GuardTable.register_standing {table : GuardTable} {key : Key} {createdAt : Time}
    (ok : (table.register key createdAt).1 = .ok ()) {guard : GuardRecord}
    (found : (table.register key createdAt).2.guards key = some guard) : ¬ guard.Condemned := by
  unfold register at ok found
  repeat' split at ok
  all_goals simp_all [setGuard, Condemned]
  all_goals simp [← found, fresh, revived, *]

theorem World.Step.registered_standing {key : Key}
    (step : World.Step content world (.registered key) after) {guard : GuardRecord}
    (found : after.table.guards key = some guard) : ¬ guard.Condemned := by
  cases step with
  | work caller visit stage next _ _ _ _ works =>
    generalize visit.task = task at works
    cases works with
    | registered tenant data createdAt ok => exact register_standing ok found

theorem World.Step.removed_condemns (step : World.Step content world (.removed deletion) after)
    (sound : world.Sound content) : Condemns world.table deletion := by
  cases step with
  | work caller visit stage next _ _ _ working works =>
    generalize named : visit.task = task at works
    cases works with
    | removed => exact sound.deleting caller visit deletion .remove working named (.inl rfl)

theorem GuardTable.Retired.not_condemns {table : GuardTable} (retired : table.Retired deletion) :
    ¬ Condemns table deletion := by
  rintro ⟨guard, found, -, -, epoch⟩
  exact retired.2.2 guard found epoch

/-- Every deletion that a sweep gave has an epoch that is used up. -/
def Spent (past : List Action) (world : World) : Prop :=
  ∀ operation deletions, .guard operation (.ok (.deletions deletions)) ∈ past →
    ∀ deletion ∈ deletions, deletion.epoch ≠ 0 ∧ deletion.epoch ≤ world.table.lastEpoch

theorem World.Step.spent (step : World.Step content world action after) {past : List Action}
    (spent : Spent past world) : Spent (past ++ [action]) after := by
  obtain ⟨operation, answer, changed, own⟩ := step.changed
  intro shown deletions member deletion issued
  rcases List.mem_append.mp member with before | now
  · obtain ⟨positive, reached⟩ := spent shown deletions before deletion issued
    exact ⟨positive, reached.trans changed.lastEpoch_le⟩
  · obtain ⟨rfl, rfl⟩ := own shown _ (List.mem_singleton.mp now).symm
    exact changed.issued issued

section

variable {grace : Int} {objects : Store String StoredObject}
  (run : Run (World.Step content) (World.initial grace objects) actions world)
include run

theorem run_spent : Spent actions world := by
  have initial : Spent [] (World.initial grace objects) := fun _ _ member => by cases member
  exact run.traceInvariant initial fun _ _ _ _ step spent => step.spent spent

theorem run_sound : world.Sound content :=
  run.invariant (World.initial_sound content grace objects) fun _ _ _ step sound => step.sound sound

end

/-- After a registration the deletions that were given before it remove nothing any more. -/
theorem run_retired {past rest : List Action} {grace : Int} {objects : Store String StoredObject}
    (run : Run (World.Step content) (World.initial grace objects) (past ++ .registered deletion.key :: rest) world)
    {deletions : List Deletion}
    (given : .guard operation (.ok (.deletions deletions)) ∈ past) (member : deletion ∈ deletions) :
    .removed deletion ∉ rest := by
  obtain ⟨before, after, front, step, back⟩ := run.at
  have sound := step.sound (run_sound front)
  obtain ⟨positive, reached⟩ := run_spent front operation deletions given deletion member
  obtain ⟨_, _, changed, -⟩ := step.changed
  have retired : after.table.Retired deletion := by
    refine ⟨positive, reached.trans changed.lastEpoch_le, fun guard found => ?_⟩
    rw [(sound.dated deletion.key guard found).1 (step.registered_standing found)]
    exact positive.symm
  have kept := @Run.labels _ _ _ (fun world => world.Sound content ∧ world.table.Retired deletion)
    (fun action => action ≠ .removed deletion) _ _ _ back ⟨sound, retired⟩
    (fun _ _ _ step held => by
      obtain ⟨_, _, changed, -⟩ := step.changed
      exact ⟨step.sound held.1, changed.retired held.2⟩)
    (fun _ _ _ step held removal => by
      subst removal
      exact held.2.not_condemns (step.removed_condemns held.1))
  exact fun removal => kept _ removal rfl

/-- Whatever the callers do, a guard that stands has its object, a deletion from before a registration
never removes the object again, and a gate lets one caller in at a time. -/
theorem blobs_present (content : Content) (grace : Int) (objects : Store String StoredObject)
    (run : Run (World.Step content) (World.initial grace objects) actions world) :
    (∀ key guard, world.table.guards key = some guard → guard.state = .live ∨ guard.state = .candidate →
      ∃ object, world.objects key.objectKey = some object ∧ content.digestOf object.data = key.digest) ∧
    (∀ past rest operation deletions deletion, actions = past ++ .registered deletion.key :: rest →
      .guard operation (.ok (.deletions deletions)) ∈ past → deletion ∈ deletions → .removed deletion ∉ rest) ∧
    (∀ key first second, world.Inside first key → world.Inside second key → first = second) := by
  have sound := run_sound run
  refine ⟨fun key guard found state => ?_, ?_, ?_⟩
  · refine sound.present key guard found ?_
    rcases state with live | candidate
    · simp [Condemned, live]
    · simp [Condemned, candidate]
  · rintro past rest operation deletions deletion rfl given member
    exact run_retired run given member
  · have position {caller : Nat} {key : Key} (inside : world.Inside caller key) :
        ∃ gate, (world.callers caller).position = .holding key gate := by
      obtain ⟨visit, rfl, entered | ⟨stage, working⟩⟩ := inside
      · exact ⟨visit.gate, by rw [entered]; rfl⟩
      · exact ⟨visit.gate, by rw [working]; rfl⟩
    intro key first second one two
    obtain ⟨gate, holding⟩ := position one
    obtain ⟨other, held⟩ := position two
    exact sound.turns.exclusive holding held

section Sample

open List

def sampleContent : Content where
  digestOf data := if data = [] then sampleKey.digest else "sha256:" ++ String.ofList (replicate 64 'f')
  parsesTenant _ := true

/-- An upload of the empty content. -/
def sampleUpload (gate : Nat) : Visit where
  task := .upload ⟨some .tenant, "t"⟩ [] 1
  key := sampleKey
  gate := gate

def sampleDeletion : Deletion := ⟨sampleKey, 2, 2⟩

def sampleExecution (gate : Nat) : Visit where
  task := .delete sampleDeletion
  key := sampleKey
  gate := gate

def sampleActions : List Action :=
  replicate 4 .silent ++ .registered sampleKey :: .silent :: .silent ::
    .guard (.sweep 1 true [] 1) (.ok (.deletions [])) :: .guard (.sweep 2 true [] 2) (.ok (.deletions [sampleDeletion])) ::
    replicate 4 .silent ++ .removed sampleDeletion :: replicate 7 .silent

/-- One caller uploads an object. Two sweeps condemn it, and another caller executes the deletion. The first
uploads the object again, and the deletion is executed once more, in vain. -/
theorem sample_run : ∃ world, Run (World.Step sampleContent) (World.initial 0 fun _ => none)
    (sampleActions ++ .registered sampleKey :: replicate 6 .silent) world ∧
    ∃ guard, world.table.guards sampleKey = some guard ∧ guard.state = .live := by
  refine ⟨_, .cons (.join _ 0 (sampleUpload 0).task rfl ⟨rfl, by decide⟩ (by decide +kernel)) <|
    .cons (.take _ 0 (sampleUpload 0) rfl rfl) <| .cons (.start _ 0 (sampleUpload 0) rfl) <|
    .cons (.work _ 0 (sampleUpload 0) .put .register .silent _ _ rfl (.stored _ [] 1 sampleKey.digest rfl)) <|
    .cons (.work _ 0 (sampleUpload 0) .register .done _ _ _ rfl (.registered _ [] 1 (by decide +kernel))) <|
    .cons (.give _ 0 (sampleUpload 0) (.inr rfl)) <| .cons (.leave _ 0 (sampleUpload 0) rfl) <|
    .cons (.guard _ (.sweep 1 true [] 1) rfl) <| .cons (.guard _ (.sweep 2 true [] 2) rfl) <|
    .cons (.join _ 1 (sampleExecution 1).task rfl trivial (by decide +kernel)) <|
    .cons (.take _ 1 (sampleExecution 1) rfl rfl) <| .cons (.start _ 1 (sampleExecution 1) rfl) <|
    .cons (.work _ 1 (sampleExecution 1) .validate .remove .silent _ _ rfl
      (.validated _ (by decide +kernel) rfl (by decide +kernel))) <|
    .cons (.work _ 1 (sampleExecution 1) .remove .complete _ _ _ rfl
      (.removed _ ⟨[], sampleKey.digest⟩ _ (by decide +kernel) rfl (.inl rfl))) <|
    .cons (.work _ 1 (sampleExecution 1) .complete .done _ _ _ rfl (.completed _)) <|
    .cons (.give _ 1 (sampleExecution 1) (.inr rfl)) <| .cons (.leave _ 1 (sampleExecution 1) rfl) <|
    .cons (.join _ 0 (sampleUpload 2).task rfl ⟨rfl, by decide⟩ (by decide +kernel)) <|
    .cons (.take _ 0 (sampleUpload 2) rfl rfl) <| .cons (.start _ 0 (sampleUpload 2) rfl) <|
    .cons (.work _ 0 (sampleUpload 2) .put .register .silent _ _ rfl
      (.stored _ [] 1 sampleKey.digest (by decide +kernel))) <|
    .cons (.work _ 0 (sampleUpload 2) .register .done _ _ _ rfl (.registered _ [] 1 (by decide +kernel))) <|
    .cons (.give _ 0 (sampleUpload 2) (.inr rfl)) <| .cons (.leave _ 0 (sampleUpload 2) rfl) <|
    .cons (.join _ 1 (sampleExecution 3).task rfl trivial (by decide +kernel)) <|
    .cons (.take _ 1 (sampleExecution 3) rfl rfl) <| .cons (.start _ 1 (sampleExecution 3) rfl) <|
    .cons (.work _ 1 (sampleExecution 3) .validate .done .silent _ _ rfl (.invalid _)) <|
    .nil _, ⟨.live, 3, 2, 1, 0, 0, 0, ∅⟩, by decide +kernel, rfl⟩

theorem blobs_present_sample : ∃ world, Run (World.Step sampleContent) (World.initial 0 fun _ => none)
    (sampleActions ++ .registered sampleKey :: replicate 6 .silent) world ∧
    (∃ object, world.objects sampleKey.objectKey = some object ∧
      sampleContent.digestOf object.data = sampleKey.digest) ∧
    .removed sampleDeletion ∈ sampleActions ∧ .removed sampleDeletion ∉ replicate 6 Action.silent := by
  obtain ⟨world, run, guard, found, live⟩ := sample_run
  obtain ⟨present, retired, -⟩ := blobs_present sampleContent 0 _ run
  refine ⟨world, run, present sampleKey guard found (.inl live), by simp [sampleActions], ?_⟩
  exact retired _ _ (.sweep 2 true [] 2) [sampleDeletion] sampleDeletion rfl (by simp [sampleActions]) (by simp)

end Sample

end Runs

end Circulusd.Blob
