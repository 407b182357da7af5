import Circulusd.Blob.Guard
import Circulusd.Library.Checked
import Circulusd.Library.Trace

/-
What the operations of the guard table do to it, and which objects no sweep takes.
-/

namespace Circulusd.Blob

open Function GuardRecord GuardTable KeyValue Trace List Option

variable {table after : GuardTable} {operation : Operation} {answer : Except Refusal Answer}
  {key : Key} {guard : GuardRecord} {event : Event} {trace since : List Event}

/-- Each operation with its answer and the table that it leaves. -/
inductive Changed (table : GuardTable) : Operation → Except Refusal Answer → GuardTable → Prop
  | refused (operation : Operation) (refusal : Refusal) : Changed table operation (.error refusal) table
  | present (key : Key) (createdAt : Time) : Changed table (.register key createdAt) (.ok .done) table
  | registered (key : Key) (createdAt : Time) (absent : table.guards key = none) :
      Changed table (.register key createdAt) (.ok .done)
        { table.setGuard key (.fresh createdAt) with keys := table.keys ++ [key] }
  | revived (key : Key) (createdAt : Time) (guard : GuardRecord) (found : table.guards key = some guard)
      (gone : guard.state = .deleted) :
      Changed table (.register key createdAt) (.ok .done) (table.setGuard key (guard.revived createdAt))
  | reprotected (key : Key) (permitId : String) (record : PermitRecord)
      (found : table.permits permitId = some record) (same : record.permit.key = key)
      (standing : record.state ≠ .abandoned) :
      Changed table (.protect key permitId) (.ok (.permit record.permit)) table
  | granted (key : Key) (permitId : String) (guard : GuardRecord) (unused : table.permits permitId = none)
      (found : table.guards key = some guard) (standing : ¬ guard.Condemned) (permit : Permit)
      (held : permit.key = key) :
      Changed table (.protect key permitId) (.ok (.permit permit))
        ((table.setGuard key (guard.protect permitId)).setPermit permitId ⟨permit, .pending⟩)
  | refinalized (permitId : String) (record : PermitRecord) (found : table.permits permitId = some record)
      (final : record.state = .finalized) : Changed table (.finalize permitId) (.ok .done) table
  | finalized (permitId : String) (record : PermitRecord) (found : table.permits permitId = some record)
      (pending : record.state = .pending) :
      Changed table (.finalize permitId) (.ok .done) (table.settle record permitId .finalized)
  | reabandoned (permitId : String) (record : PermitRecord) (found : table.permits permitId = some record)
      (given : record.state = .abandoned) : Changed table (.abandon permitId) (.ok .done) table
  | abandoned (permitId : String) (record : PermitRecord) (found : table.permits permitId = some record)
      (pending : record.state = .pending) :
      Changed table (.abandon permitId) (.ok .done) (table.settle record permitId .abandoned)
  | swept (epoch : Nat) (marked : List Key) (now : Time) (deletions : List Deletion)
      (later : table.lastEpoch < epoch) (marks : table.checkMarked marked = none)
      (issued : ∀ deletion ∈ deletions, deletion.epoch = epoch) :
      Changed table (.sweep epoch true marked now) (.ok (.deletions deletions)) (table.sweepAll epoch marked now)
  | recompleted (deletion : Deletion) : Changed table (.completeDeletion deletion) (.ok .done) table
  | completed (deletion : Deletion) (guard : GuardRecord) (found : table.guards deletion.key = some guard)
      (deleting : guard.state = .deleting) (same : deletion.matchesGuard guard) :
      Changed table (.completeDeletion deletion) (.ok .done)
        (table.setGuard deletion.key { guard with state := .deleted })

section

variable (table)

theorem GuardTable.register_changed (key : Key) (createdAt : Time) :
    Changed table (.register key createdAt) (answered (fun _ => .done) (table.register key createdAt)).1
      (answered (fun _ => .done) (table.register key createdAt)).2 := by
  unfold register
  repeat' split
  all_goals first
    | exact .refused _ _
    | exact .present key createdAt
    | exact .registered key createdAt (by assumption)
    | exact .revived key createdAt _ (by assumption) (by assumption)

theorem GuardTable.protect_changed (key : Key) (permitId : String) :
    Changed table (.protect key permitId) (answered .permit (table.protect key permitId)).1
      (answered .permit (table.protect key permitId)).2 := by
  unfold protect
  repeat' split
  all_goals first
    | exact .refused _ _
    | exact .granted key permitId _ (by assumption) (by assumption) (by assumption) _ rfl
    | exact .reprotected key permitId _ (by assumption) (not_not.mp (by assumption)) (by assumption)

theorem GuardTable.finalize_changed (permitId : String) : Changed table (.finalize permitId)
      (answered (fun _ => .done) (table.finalize permitId)).1
      (answered (fun _ => .done) (table.finalize permitId)).2 := by
  unfold finalize
  dsimp only
  repeat' split
  all_goals first
    | exact .refused _ _
    | exact .refinalized permitId _ (by assumption) (by assumption)
    | exact .finalized permitId _ (by assumption) (by assumption)

theorem GuardTable.abandon_changed (permitId : String) : Changed table (.abandon permitId)
      (answered (fun _ => .done) (table.abandon permitId)).1
      (answered (fun _ => .done) (table.abandon permitId)).2 := by
  unfold abandon
  dsimp only
  repeat' split
  all_goals first
    | exact .refused _ _
    | exact .reabandoned permitId _ (by assumption) (by assumption)
    | exact .abandoned permitId _ (by assumption) (by assumption)

theorem GuardTable.condemn_epoch {epoch : Nat} {marked : List Key} {now : Time} {key : Key} {deletion : Deletion}
    (condemned : table.condemn epoch marked now key = some deletion) : deletion.epoch = epoch := by
  unfold condemn at condemned
  repeat' split at condemned
  all_goals cases condemned
  rfl

theorem GuardTable.sweep_changed (epoch : Nat) (rootsComplete : Bool) (marked : List Key) (now : Time) :
    Changed table (.sweep epoch rootsComplete marked now)
      (answered .deletions (table.sweep epoch rootsComplete marked now)).1
      (answered .deletions (table.sweep epoch rootsComplete marked now)).2 := by
  unfold sweep
  split
  case isTrue => exact .refused _ _
  case isFalse complete =>
    rw [Bool.not_eq_false] at complete
    subst complete
    split
    case isTrue => exact .refused _ _
    case isFalse =>
      split
      case isTrue => exact .refused _ _
      case isFalse later =>
        split
        case h_1 => exact .refused _ _
        case h_2 marks =>
          refine .swept epoch marked now _ (not_le.mp later) marks fun deletion member => ?_
          rw [(perm_insertionSort _ _).mem_iff, mem_filterMap] at member
          obtain ⟨key, -, condemned⟩ := member
          exact table.condemn_epoch condemned

theorem GuardTable.completeDeletion_changed (deletion : Deletion) :
    Changed table (.completeDeletion deletion) (answered (fun _ => .done) (table.completeDeletion deletion)).1
      (answered (fun _ => .done) (table.completeDeletion deletion)).2 := by
  unfold completeDeletion
  dsimp only
  repeat' split
  all_goals first
    | exact .refused _ _
    | exact .recompleted deletion
    | exact .completed deletion _ (by assumption) (And.left ‹_›) (And.right ‹_›)

theorem GuardTable.execute_changed (operation : Operation) :
    Changed table operation (table.execute operation).1 (table.execute operation).2 := by
  cases operation with
  | register key createdAt => exact table.register_changed key createdAt
  | protect key permitId => exact table.protect_changed key permitId
  | finalize permitId => exact table.finalize_changed permitId
  | abandon permitId => exact table.abandon_changed permitId
  | sweep epoch rootsComplete marked now => exact table.sweep_changed epoch rootsComplete marked now
  | completeDeletion deletion => exact table.completeDeletion_changed deletion

end

/-- A refused operation leaves the table as it was. -/
theorem Changed.refused_eq {refusal : Refusal} (changed : Changed table operation (.error refusal) after) :
    after = table := by
  cases changed with
  | refused => rfl

/-- The table records the permit as pending for the key. -/
def GuardTable.Pending (table : GuardTable) (permitId : String) (key : Key) : Prop :=
  ∃ record, table.permits permitId = some record ∧ record.permit.key = key ∧ record.state = .pending

/-- Pending permits and guards agree, and a protected object is live. -/
structure GuardTable.Sound (table : GuardTable) : Prop where
  pending_iff : ∀ key guard, table.guards key = some guard →
    ∀ permitId, permitId ∈ guard.pending ↔ table.Pending permitId key
  guarded : ∀ permitId key, table.Pending permitId key → table.guards key ≠ none
  held : ∀ key guard, table.guards key = some guard → guard.pending ≠ ∅ → guard.state = .live

theorem GuardTable.Sound.condemned (sound : table.Sound)
    (found : table.guards key = some guard) (condemned : guard.Condemned) : guard.pending = ∅ := by
  by_contra pending
  have live := sound.held key guard found pending
  unfold Condemned at condemned
  simp [live] at condemned

theorem newGuardTable_sound (grace : Int) : (newGuardTable grace).Sound where
  pending_iff _ _ found := by cases found
  guarded _ _ pending := by
    obtain ⟨_, found, -⟩ := pending
    cases found
  held _ _ found := by cases found

theorem GuardTable.pending_setGuard (table : GuardTable) (key other : Key) (guard : GuardRecord)
    (permitId : String) : (table.setGuard key guard).Pending permitId other ↔ table.Pending permitId other :=
  Iff.rfl

theorem GuardTable.pending_setPermit (table : GuardTable) (permitId other : String) (record : PermitRecord)
    (key : Key) : (table.setPermit permitId record).Pending other key ↔
      if other = permitId then record.permit.key = key ∧ record.state = .pending
      else table.Pending other key := by
  unfold Pending setPermit
  by_cases same : other = permitId
  · subst same
    simp
  · simp [same]

section

variable (sound : table.Sound) {key : Key}
include sound

/-- A table stays sound when one guard is replaced and only the permits of its object change. -/
theorem GuardTable.Sound.replaced {next : GuardRecord} (guards : after.guards = update table.guards key (some next))
    (elsewhere : ∀ other ≠ key, ∀ permitId, after.Pending permitId other ↔ table.Pending permitId other)
    (pending : ∀ permitId, permitId ∈ next.pending ↔ after.Pending permitId key)
    (held : next.pending ≠ ∅ → next.state = .live) : after.Sound := by
  obtain ⟨pending_iff, guarded, live⟩ := sound
  constructor <;> simp only [guards, update_apply] <;> grind

/-- A guard that is replaced by one with the same permits leaves the table sound. -/
theorem GuardTable.Sound.setGuard {guard next : GuardRecord} (found : table.guards key = some guard)
    (pending : next.pending = guard.pending) (held : next.pending ≠ ∅ → next.state = .live) :
    (table.setGuard key next).Sound :=
  sound.replaced rfl (fun _ _ _ => Iff.rfl) (fun permitId => pending ▸ sound.pending_iff key guard found permitId) held

theorem GuardTable.Sound.registered (absent : table.guards key = none) (createdAt : Time) (keys : List Key) :
    ({ table.setGuard key (.fresh createdAt) with keys } : GuardTable).Sound := by
  refine sound.replaced rfl (fun _ _ _ => Iff.rfl) (fun permitId => ?_) fun pending => absurd rfl pending
  refine ⟨fun member => by simp [fresh] at member, fun pending => ?_⟩
  exact absurd absent (sound.guarded permitId key pending)

theorem GuardTable.Sound.granted {permitId : String} {guard : GuardRecord} (unused : table.permits permitId = none)
    (found : table.guards key = some guard) {permit : Permit} (held : permit.key = key) :
    ((table.setGuard key (guard.protect permitId)).setPermit permitId ⟨permit, .pending⟩).Sound := by
  have fresh (other : Key) : ¬ table.Pending permitId other := by
    rintro ⟨_, present, -⟩
    simp [unused] at present
  refine sound.replaced rfl (fun other distinct pid => ?_) (fun pid => ?_) fun _ => rfl
  all_goals
    rw [pending_setPermit, pending_setGuard]
    by_cases new : pid = permitId
  · simp [new, fresh, held, Ne.symm distinct]
  · simp [new]
  · simp [GuardRecord.protect, new, held]
  · simp [GuardRecord.protect, new, sound.pending_iff key guard found pid]

end

theorem GuardTable.Sound.settled (sound : table.Sound) {permitId : String} {record : PermitRecord}
    (found : table.permits permitId = some record) (pending : record.state = .pending)
    {state : PermitState} (final : state ≠ .pending) : (table.settle record permitId state).Sound := by
  have held : table.Pending permitId record.permit.key := ⟨record, found, rfl, pending⟩
  obtain ⟨guard, present⟩ := ne_none_iff_exists'.mp (sound.guarded _ _ held)
  have elsewhere (other : Key) (distinct : other ≠ record.permit.key) : ¬ table.Pending permitId other := by
    rintro ⟨again, refound, key, -⟩
    cases found.symm.trans refound
    exact distinct key.symm
  rw [settle, present]
  refine sound.replaced rfl (fun other distinct pid => ?_) (fun pid => ?_) fun nonempty => ?_
  · rw [pending_setPermit, pending_setGuard]
    by_cases settled : pid = permitId
    · simp [settled, elsewhere other distinct, final]
    · simp [settled]
  · rw [pending_setPermit, pending_setGuard]
    by_cases settled : pid = permitId
    · simp [settled, final]
    · simp [settled, sound.pending_iff _ guard present pid]
  · refine sound.held _ guard present fun empty => nonempty ?_
    simp [empty]

theorem GuardRecord.swept_pending (guard : GuardRecord) (grace : Int) (epoch : Nat) (now : Time)
    (used : Prop) [Decidable used] : (guard.swept grace epoch now used).pending = guard.pending := by
  unfold swept
  split_ifs <;> rfl

/-- A sweep leaves a protected or marked object live. -/
theorem GuardRecord.swept_live (standing : ¬ guard.Condemned) (grace : Int)
    (epoch : Nat) (now : Time) {used : Prop} [Decidable used] (kept : used ∨ guard.pending ≠ ∅) :
    (guard.swept grace epoch now used).state = .live := by
  unfold swept
  rw [if_neg standing, if_pos kept]

theorem GuardTable.sweepAll_guards {epoch : Nat} {marked : List Key} {now : Time}
    {next : GuardRecord} (found : (table.sweepAll epoch marked now).guards key = some next) :
    ∃ guard, table.guards key = some guard ∧ guard.swept table.grace epoch now (key ∈ marked) = next := by
  simpa [sweepAll] using found

theorem GuardTable.Sound.swept (sound : table.Sound) (epoch : Nat) (marked : List Key) (now : Time) :
    (table.sweepAll epoch marked now).Sound where
  pending_iff key next found permitId := by
    obtain ⟨guard, present, rfl⟩ := sweepAll_guards found
    rw [swept_pending]
    exact sound.pending_iff key guard present permitId
  guarded permitId key pending := by
    simpa [sweepAll] using sound.guarded permitId key pending
  held key next found nonempty := by
    obtain ⟨guard, present, rfl⟩ := sweepAll_guards found
    rw [swept_pending] at nonempty
    have live := sound.held key guard present nonempty
    exact swept_live (by simp [Condemned, live]) _ _ _ (.inr nonempty)

/-- Every operation keeps the table sound. -/
theorem Changed.sound (changed : Changed table operation answer after) (sound : table.Sound) : after.Sound := by
  cases changed with
  | refused | present | reprotected | refinalized | reabandoned | recompleted => exact sound
  | registered key createdAt absent => exact sound.registered absent createdAt _
  | revived key createdAt guard found gone =>
    have empty := sound.condemned found (.inr gone)
    exact sound.setGuard found empty.symm fun nonempty => absurd rfl nonempty
  | granted key permitId guard unused found _ permit held => exact sound.granted unused found held
  | finalized permitId record found pending => exact sound.settled found pending (by decide)
  | abandoned permitId record found pending => exact sound.settled found pending (by decide)
  | swept epoch marked now => exact sound.swept epoch marked now
  | completed deletion guard found deleting =>
    have empty := sound.condemned found (.inl deleting)
    exact sound.setGuard found rfl fun nonempty => absurd empty nonempty

/-- The calls of the table, and the commits of roots beside it: a reference to an object is committed,
or the last one is dropped. -/
inductive Event where
  | call (operation : Operation) (answer : Except Refusal Answer)
  | commit (key : Key)
  | drop (key : Key)
deriving DecidableEq

inductive Step : GuardTable → Event → GuardTable → Prop
  | call (table : GuardTable) (operation : Operation) :
      Step table (.call operation (table.execute operation).1) (table.execute operation).2
  | commit (table : GuardTable) (key : Key) : Step table (.commit key) table
  | drop (table : GuardTable) (key : Key) : Step table (.drop key) table

/-- A sweep that returned without an error. -/
def Event.Sweeps : Event → Prop
  | .call (.sweep ..) (.ok _) => True
  | _ => False

/-- A reference to the object was committed, is still there, and a sweep has returned since. -/
def Aged (key : Key) (trace : List Event) : Prop :=
  ∃ before after, trace = before ++ .commit key :: after ∧ .drop key ∉ after ∧ ∃ event ∈ after, event.Sweeps

/-- Each sweep marks every object whose reference was committed before the previous sweep returned. -/
def MarksRoots (trace : List Event) : Prop :=
  ∀ past rest epoch marked now answer, trace = past ++ .call (.sweep epoch true marked now) (.ok answer) :: rest →
      ∀ key, Aged key past → key ∈ marked

/-- The permit protects the object and was neither finalized nor abandoned. -/
def Protects (permitId : String) (key : Key) (trace : List Event) : Prop :=
  (∃ permit, .call (.protect key permitId) (.ok (.permit permit)) ∈ trace) ∧
    ∀ answer, .call (.finalize permitId) (.ok answer) ∉ trace ∧ .call (.abandon permitId) (.ok answer) ∉ trace

/-- A reference was committed under a permit that was settled only afterwards, and is still there. -/
def Retained (key : Key) (trace : List Event) : Prop :=
  ∃ before after permitId, trace = before ++ .commit key :: after ∧ .drop key ∉ after ∧ Protects permitId key before

theorem MarksRoots.initial {past rest : List Event} (marks : MarksRoots (past ++ rest)) : MarksRoots past := by
  intro before after epoch marked now answer equal
  exact marks before (after ++ rest) epoch marked now answer (by simp [equal])

/-- What the table knows about the permits of a run. -/
structure Remembers (trace : List Event) (table : GuardTable) : Prop where
  sound : table.Sound
  finalized : ∀ permitId record, table.permits permitId = some record → record.state = .finalized →
    ∃ answer, .call (.finalize permitId) (.ok answer) ∈ trace
  protects : ∀ permitId key, Protects permitId key trace → table.Pending permitId key

theorem Protects.earlier {permitId : String} {past : List Event} (protects : Protects permitId key (past ++ [event]))
    (other : ∀ permit, event ≠ .call (.protect key permitId) (.ok (.permit permit))) :
    Protects permitId key past := by
  obtain ⟨⟨permit, member⟩, unsettled⟩ := protects
  refine ⟨⟨permit, ?_⟩, fun answer => ⟨fun settled => (unsettled answer).1 (by simp [settled]),
    fun settled => (unsettled answer).2 (by simp [settled])⟩⟩
  rcases mem_append.mp member with earlier | last
  · exact earlier
  · exact absurd (mem_singleton.mp last).symm (other permit)

/-- Settling one permit leaves the others pending. -/
theorem GuardTable.pending_settle {permitId other : String} {record : PermitRecord} {state : PermitState}
    (distinct : other ≠ permitId) (pending : table.Pending other key) :
    (table.settle record permitId state).Pending other key := by
  unfold settle
  split
  case h_1 =>
    rw [pending_setPermit, if_neg distinct]
    exact pending
  case h_2 =>
    rw [pending_setPermit, if_neg distinct, pending_setGuard]
    exact pending

theorem GuardTable.settle_permits (table : GuardTable) (record : PermitRecord) (permitId : String)
    (state : PermitState) : (table.settle record permitId state).permits =
      update table.permits permitId (some { record with state }) := by
  unfold settle
  split <;> rfl

theorem Changed.finalized_iff (changed : Changed table operation answer after)
    (remembered : ∀ permitId record, table.permits permitId = some record → record.state = .finalized →
      ∃ answer, .call (.finalize permitId) (.ok answer) ∈ trace)
    (permitId : String) (record : PermitRecord) (found : after.permits permitId = some record)
    (final : record.state = .finalized) :
    ∃ result, Event.call (.finalize permitId) (.ok result) ∈ trace ++ [.call operation answer] := by
  have earlier (found : table.permits permitId = some record) :
      ∃ result, Event.call (.finalize permitId) (.ok result) ∈ trace ++ [.call operation answer] := by
    obtain ⟨result, member⟩ := remembered permitId record found final
    exact ⟨result, mem_append_left _ member⟩
  cases changed with
  | refused | present | registered | revived | reprotected | refinalized | reabandoned | swept
  | recompleted | completed => exact earlier found
  | granted key other =>
    simp only [setPermit, setGuard, update_apply] at found
    grind
  | finalized other | abandoned other =>
    simp only [settle_permits, update_apply] at found
    grind

theorem Changed.protects (changed : Changed table operation answer after)
    (remembered : Remembers trace table) (permitId : String) (key : Key)
    (protects : Protects permitId key (trace ++ [.call operation answer])) :
    after.Pending permitId key := by
  have unsettled := protects.2
  have earlier (other : ∀ permit, Event.call operation answer ≠
      .call (.protect key permitId) (.ok (.permit permit))) : table.Pending permitId key :=
    remembered.protects permitId key (protects.earlier other)
  cases changed with
  | refused | present | registered | revived | refinalized | reabandoned | swept | recompleted | completed =>
    exact earlier (by simp)
  | reprotected place other record found same standing =>
    by_cases this : place = key ∧ other = permitId
    · obtain ⟨rfl, rfl⟩ := this
      refine ⟨record, found, same, ?_⟩
      cases state : record.state with
      | pending => rfl
      | abandoned => exact absurd state standing
      | finalized =>
        obtain ⟨result, member⟩ := remembered.finalized other record found state
        exact absurd (mem_append_left _ member) (unsettled result).1
    · exact earlier fun permit equal => this (by simp at equal; exact equal.1)
  | granted place other guard unused found standing permit held =>
    rw [pending_setPermit, pending_setGuard]
    by_cases this : place = key ∧ other = permitId
    · obtain ⟨rfl, rfl⟩ := this
      simp [held]
    · have before := earlier fun permit equal => this (by simp at equal; exact equal.1)
      have distinct : permitId ≠ other := by
        rintro rfl
        obtain ⟨_, present, -⟩ := before
        simp [unused] at present
      rw [if_neg distinct]
      exact before
  | finalized other =>
    refine pending_settle ?_ (earlier (by simp))
    rintro rfl
    exact absurd (by simp) (unsettled .done).1
  | abandoned other =>
    refine pending_settle ?_ (earlier (by simp))
    rintro rfl
    exact absurd (by simp) (unsettled .done).2

theorem Step.remembers (step : Step table event after)
    (remembered : Remembers trace table) : Remembers (trace ++ [event]) after := by
  cases step with
  | call operation =>
    have changed := table.execute_changed operation
    exact ⟨changed.sound remembered.sound, changed.finalized_iff remembered.finalized, changed.protects remembered⟩
  | commit | drop =>
    refine ⟨remembered.sound, fun permitId record found final => ?_, fun permitId key protects => ?_⟩
    · obtain ⟨answer, member⟩ := remembered.finalized permitId record found final
      exact ⟨answer, mem_append_left _ member⟩
    · exact remembered.protects permitId key (protects.earlier (by simp))

/-- The guard of a retained object, given the events since its reference was committed: it is live until
the first sweep, and later at most a candidate. -/
def GuardTable.Keeps (table : GuardTable) (key : Key) (since : List Event) : Prop :=
  ∃ guard, table.guards key = some guard ∧
    (guard.state = .live ∨ guard.state = .candidate ∧ ∃ event ∈ since, event.Sweeps)

theorem GuardTable.Keeps.later (keeps : table.Keeps key since)
    (event : Event) : table.Keeps key (since ++ [event]) := by
  obtain ⟨guard, found, live | ⟨candidate, sweep, member, swept⟩⟩ := keeps
  · exact ⟨guard, found, .inl live⟩
  · exact ⟨guard, found, .inr ⟨candidate, sweep, mem_append_left _ member, swept⟩⟩

/-- A replaced guard is kept when its state is. -/
theorem GuardTable.Keeps.setGuard {key other : Key} {guard next : GuardRecord}
    (keeps : table.Keeps key since) (found : table.guards other = some guard)
    (state : next.state = guard.state) : (table.setGuard other next).Keeps key since := by
  obtain ⟨held, present, standing⟩ := keeps
  simp only [Keeps, GuardTable.setGuard, update_apply]
  grind

theorem GuardTable.Keeps.other {key other : Key} {next : GuardRecord}
    (keeps : table.Keeps key since) (distinct : key ≠ other) : (table.setGuard other next).Keeps key since := by
  obtain ⟨held, present, standing⟩ := keeps
  exact ⟨held, by simpa [GuardTable.setGuard, distinct] using present, standing⟩

theorem GuardTable.Keeps.standing
    (keeps : table.Keeps key since) (found : table.guards key = some guard) : ¬ guard.Condemned := by
  obtain ⟨held, present, state⟩ := keeps
  obtain rfl : guard = held := by simpa [found] using present
  unfold Condemned
  rcases state with live | ⟨candidate, -⟩ <;> simp [*]

/-- A sweep that marks the object if an earlier one followed its commit keeps it. -/
theorem GuardTable.Keeps.swept (keeps : table.Keeps key since)
    {epoch : Nat} {marked : List Key} {now : Time} (sweeps : event.Sweeps)
    (marks : (∃ event ∈ since, event.Sweeps) → key ∈ marked) :
    (table.sweepAll epoch marked now).Keeps key (since ++ [event]) := by
  have standing (guard : GuardRecord) (found : table.guards key = some guard) : ¬ guard.Condemned :=
    keeps.standing found
  obtain ⟨guard, found, state⟩ := keeps
  have free := standing guard found
  refine ⟨guard.swept table.grace epoch now (key ∈ marked), by simp [sweepAll, found], ?_⟩
  by_cases kept : key ∈ marked ∨ guard.pending ≠ ∅
  · exact .inl (swept_live free _ _ _ kept)
  · rcases state with live | ⟨-, swept⟩
    · refine .inr ⟨?_, event, by simp, sweeps⟩
      unfold GuardRecord.swept
      rw [if_neg free, if_neg kept, if_pos live]
    · exact absurd (.inl (marks swept)) kept

/-- Every operation keeps a retained object; a sweep does so if it marks what was committed before the
previous one. -/
theorem Changed.keeps (changed : Changed table operation answer after) (keeps : table.Keeps key since)
    (marks : ∀ epoch marked now result, operation = .sweep epoch true marked now → answer = .ok result →
      (∃ event ∈ since, event.Sweeps) → key ∈ marked) :
    after.Keeps key (since ++ [.call operation answer]) := by
  cases changed with
  | refused | present | reprotected | refinalized | reabandoned | recompleted => exact keeps.later _
  | registered other createdAt absent =>
    have distinct : key ≠ other := by
      rintro rfl
      obtain ⟨guard, found, -⟩ := keeps
      simp [absent] at found
    exact (keeps.other distinct).later _
  | revived other createdAt guard found gone =>
    have distinct : key ≠ other := by
      rintro rfl
      exact keeps.standing found (.inr gone)
    exact (keeps.other distinct).later _
  | granted other permitId guard unused found standing permit held =>
    by_cases same : key = other
    · subst same
      exact ⟨guard.protect permitId, by simp [setGuard, setPermit], .inl rfl⟩
    · exact (keeps.other same).later _
  | finalized permitId record | abandoned permitId record =>
    unfold settle
    split
    case h_1 => exact keeps.later _
    case h_2 guard found =>
      have kept : (table.setGuard record.permit.key
          { guard with pending := guard.pending.erase permitId }).Keeps key since :=
        keeps.setGuard found rfl
      exact kept.later _
  | swept epoch marked now deletions =>
    exact keeps.swept trivial (marks epoch marked now _ rfl rfl)
  | completed deletion guard found deleting =>
    have distinct : key ≠ deletion.key := by
      rintro rfl
      exact keeps.standing found (.inl deleting)
    exact (keeps.other distinct).later _

/-- The last event of a trace is the commit, or it came later. -/
theorem concat_eq_split {past before later : List Event} {event mark : Event}
    (equal : past ++ [event] = before ++ mark :: later) : (before = past ∧ event = mark ∧ later = []) ∨
      ∃ since, later = since ++ [event] ∧ past = before ++ mark :: since := by
  rcases eq_nil_or_concat later with rfl | ⟨since, last, rfl⟩
  · obtain ⟨rfl, same⟩ := append_inj' equal rfl
    exact .inl ⟨rfl, by simpa using same, rfl⟩
  · rw [concat_eq_append] at equal ⊢
    rw [← cons_append, ← append_assoc] at equal
    obtain ⟨rfl, same⟩ := append_inj' equal rfl
    obtain rfl : event = last := by simpa using same
    exact .inr ⟨since, rfl, rfl⟩

/-- Every retained object is kept. -/
def KeepsRetained (trace : List Event) (table : GuardTable) : Prop :=
  MarksRoots trace → ∀ key before since permitId, trace = before ++ .commit key :: since →
    .drop key ∉ since → Protects permitId key before → table.Keeps key since

theorem Step.keepsRetained (step : Step table event after)
    (remembered : Remembers trace table) (keeps : KeepsRetained trace table) :
    KeepsRetained (trace ++ [event]) after := by
  intro marks key before later permitId equal undropped protects
  rcases concat_eq_split equal with ⟨rfl, rfl, rfl⟩ | ⟨since, rfl, rfl⟩
  · -- The commit itself: its permit is pending, so the object is live.
    cases step with
    | commit =>
      have pending := remembered.protects permitId key protects
      obtain ⟨guard, found⟩ :=
        ne_none_iff_exists'.mp (remembered.sound.guarded permitId key pending)
      have member := (remembered.sound.pending_iff key guard found permitId).mpr pending
      exact ⟨guard, found, .inl (remembered.sound.held key guard found (Finset.ne_empty_of_mem member))⟩
  · have held := keeps marks.initial key before since permitId rfl
      (fun member => undropped (mem_append_left _ member)) protects
    cases step with
    | commit | drop => exact held.later _
    | call operation =>
      refine (table.execute_changed operation).keeps held ?_
      intro epoch marked now result same ok swept
      refine marks (before ++ .commit key :: since) [] epoch marked now result ?_ key
        ⟨before, since, rfl, fun member => undropped (mem_append_left _ member), swept⟩
      rw [← same, ← ok]

/-- What holds of a table after the events of a run. -/
def Tracked (trace : List Event) (table : GuardTable) : Prop :=
  Remembers trace table ∧ KeepsRetained trace table

theorem run_tracked {grace : Int} {table : GuardTable}
    (run : Run Step (newGuardTable grace) trace table) : Tracked trace table := by
  have initial : Tracked [] (newGuardTable grace) := by
    refine ⟨⟨newGuardTable_sound grace, fun _ _ found => (by cases found), ?_⟩, ?_⟩
    · rintro permitId key ⟨⟨permit, member⟩, -⟩
      simp at member
    · intro _ key before since permitId equal
      simp at equal
  refine run.traceInvariant initial ?_
  intro past before event after step held
  exact ⟨step.remembers held.1, step.keepsRetained held.1 held.2⟩

/-- The guards of every run: a condemned object has no pending permit, the pending permits of a guard are
those recorded for its key, a failed sweep changes nothing, and a retained object is never condemned. -/
theorem guard_safety {grace : Int} {trace : List Event} {table : GuardTable}
    (run : Run Step (newGuardTable grace) trace table) :
    (∀ key guard, table.guards key = some guard → guard.Condemned → guard.pending = ∅) ∧
      (∀ key guard, table.guards key = some guard → ∀ permitId, permitId ∈ guard.pending ↔ table.Pending permitId key) ∧
      (∀ epoch rootsComplete marked now refusal, (table.sweep epoch rootsComplete marked now).1 = .error refusal →
          (table.sweep epoch rootsComplete marked now).2 = table) ∧
      (MarksRoots trace → ∀ key, Retained key trace → ∃ guard, table.guards key = some guard ∧ ¬ guard.Condemned) := by
  obtain ⟨remembered, keeps⟩ := run_tracked run
  refine ⟨fun key guard found => remembered.sound.condemned found, remembered.sound.pending_iff, ?_, ?_⟩
  · intro epoch rootsComplete marked now refusal failed
    have changed := table.execute_changed (.sweep epoch rootsComplete marked now)
    have answer : (table.execute (.sweep epoch rootsComplete marked now)).1 = .error refusal := by
      simp [execute, answered, failed, Except.map]
    rw [answer] at changed
    exact changed.refused_eq
  · rintro marks key ⟨before, since, permitId, equal, undropped, protects⟩
    have kept := keeps marks key before since permitId equal undropped protects
    obtain ⟨guard, found, -⟩ := id kept
    exact ⟨guard, found, kept.standing found⟩

/-- What a caller or a committer does next. -/
inductive Input where
  | operation (operation : Operation)
  | commit (key : Key)
  | drop (key : Key)
deriving DecidableEq

def GuardTable.advance (table : GuardTable) : Input → Event × GuardTable
  | .operation operation => (.call operation (table.execute operation).1, (table.execute operation).2)
  | .commit key => (.commit key, table)
  | .drop key => (.drop key, table)

/-- The run of a list of inputs. -/
def GuardTable.history (table : GuardTable) : List Input → List Event × GuardTable
  | [] => ([], table)
  | input :: rest =>
    let step := table.advance input
    let history := GuardTable.history step.2 rest
    (step.1 :: history.1, history.2)

theorem GuardTable.history_run (table : GuardTable) (inputs : List Input) :
    Run Step table (table.history inputs).1 (table.history inputs).2 := by
  induction inputs generalizing table with
  | nil => exact .nil table
  | cons input rest ih =>
    refine .cons ?_ (ih _)
    cases input with
    | operation operation => exact .call table operation
    | commit key => exact .commit table key
    | drop key => exact .drop table key

section Sample

def sampleKey : Key where
  tenantId := "t"
  digest := "sha256:e3b0c44298fc1c149afbf4c8996fb92427ae41e4649b934ca495991b7852b855"

/-- An object is protected, referenced, swept, released and swept again. -/
def sampleInputs : List Input :=
  [.operation (.register sampleKey 1), .operation (.protect sampleKey "p"), .commit sampleKey,
    .operation (.sweep 1 true [] 2), .operation (.finalize "p"),
    .operation (.sweep 2 true [sampleKey] 3)]

def sampleTrace : List Event :=
  [.call (.register sampleKey 1) (.ok .done),
    .call (.protect sampleKey "p") (.ok (.permit ⟨"p", sampleKey, 2, 1⟩)), .commit sampleKey,
    .call (.sweep 1 true [] 2) (.ok (.deletions [])), .call (.finalize "p") (.ok .done),
    .call (.sweep 2 true [sampleKey] 3) (.ok (.deletions []))]

theorem sampleInputs_trace : ((newGuardTable 0).history sampleInputs).1 = sampleTrace := by
  decide +kernel

theorem sampleTrace_marks : MarksRoots sampleTrace := by
  intro past rest epoch marked now answer equal key aged
  obtain ⟨before, after, rfl, -, sweep, member, swept⟩ := aged
  rw [sampleTrace, append_assoc, cons_append] at equal
  -- The only commit is the third event, and only the last sweep follows another one.
  rcases before with _ | ⟨_, _ | ⟨_, _ | ⟨_, more⟩⟩⟩
  · simp at equal
  · simp at equal
  · simp only [cons_append, nil_append, List.cons.injEq, Event.commit.injEq] at equal
    obtain ⟨-, -, rfl, equal⟩ := equal
    rcases after with _ | ⟨_, _ | ⟨_, _ | ⟨_, more⟩⟩⟩
    · simp at member
    · simp at equal
    · simp at equal
      obtain ⟨-, -, ⟨⟨-, rfl, -⟩, -⟩, -⟩ := equal
      simp
    · simp at equal
  · simp only [cons_append, List.cons.injEq] at equal
    obtain ⟨-, -, -, equal⟩ := equal
    have missing : Event.commit key ∉ [Event.call (.sweep 1 true [] 2) (.ok (.deletions [])),
        .call (.finalize "p") (.ok .done), .call (.sweep 2 true [sampleKey] 3) (.ok (.deletions []))] := by
      simp
    rw [equal] at missing
    simp at missing

theorem sampleTrace_retained : Retained sampleKey sampleTrace := by
  refine ⟨[.call (.register sampleKey 1) (.ok .done),
      .call (.protect sampleKey "p") (.ok (.permit ⟨"p", sampleKey, 2, 1⟩))],
    [.call (.sweep 1 true [] 2) (.ok (.deletions [])), .call (.finalize "p") (.ok .done),
      .call (.sweep 2 true [sampleKey] 3) (.ok (.deletions []))], "p", rfl, by simp,
    ⟨⟨"p", sampleKey, 2, 1⟩, by simp⟩, by simp⟩

/-- The sample object is retained through both sweeps. -/
theorem guard_safety_sample : Retained sampleKey sampleTrace ∧
    ∃ guard, ((newGuardTable 0).history sampleInputs).2.guards sampleKey = some guard ∧ ¬ guard.Condemned := by
  have run := (newGuardTable 0).history_run sampleInputs
  have marks := sampleTrace_marks
  have retained := sampleTrace_retained
  rw [← sampleInputs_trace] at marks retained ⊢
  exact ⟨retained, (guard_safety run).2.2.2 marks sampleKey retained⟩

end Sample

end Circulusd.Blob
