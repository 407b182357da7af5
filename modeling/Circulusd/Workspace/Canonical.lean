import Circulusd.Workspace.Manifest

/-
What an accepted manifest consists of.
-/

namespace Circulusd.Workspace

open Checked KeyValue Platform List

section Strip

/-- What is left stands at the end of the text, right after a slash. -/
theorem stripCurrent_spec (stripped : Bool) (characters : List Char) : stripCurrent stripped characters = characters ∨
      ∃ front, characters = front ++ '/' :: stripCurrent stripped characters := by
  fun_induction stripCurrent stripped characters with
  | case1 stripped rest ih =>
    rcases ih with same | ⟨front, split⟩
    · exact .inr ⟨['.'], by rw [same]; rfl⟩
    · exact .inr ⟨'.' :: '/' :: front, by rw [cons_append, cons_append, ← split]⟩
  | case2 rest ih =>
    rcases ih with same | ⟨front, split⟩
    · exact .inr ⟨[], by rw [same]; rfl⟩
    · exact .inr ⟨'/' :: front, by rw [cons_append, ← split]⟩
  | case3 stripped rest => exact .inl rfl
  | case4 => exact .inl rfl

theorem stripCurrent_suffix (stripped : Bool) (characters : List Char) :
    stripCurrent stripped characters <:+ characters := by
  rcases stripCurrent_spec stripped characters with same | ⟨front, split⟩
  · rw [same]
  · exact ⟨front ++ ['/'], by rw [append_assoc]; exact split.symm⟩

/-- Nothing is left to strip, and a relative text stays relative. -/
theorem stripCurrent_again (stripped : Bool) (characters : List Char)
    (relative : stripped = false → characters.head? ≠ some '/') :
    (stripCurrent stripped characters).head? ≠ some '/' ∧
      ∀ again, stripCurrent again (stripCurrent stripped characters) = stripCurrent stripped characters := by
  fun_induction stripCurrent stripped characters with
  | case1 stripped rest ih => exact ih (by simp)
  | case2 rest ih => exact ih (by simp)
  | case3 stripped rest ended => exact absurd rfl (relative (by simpa using ended))
  | case4 stripped rest dots slash =>
    have start : rest.head? ≠ some '/' := by
      cases rest with
      | nil => simp
      | cons first others =>
        rintro ⟨⟩
        exact slash others rfl
    refine ⟨start, fun again => ?_⟩
    unfold stripCurrent
    split
    case h_1 other => exact absurd rfl (dots other)
    case h_2 other => exact absurd rfl (slash other)
    case h_3 => rfl

theorem strippedTarget_cases (target : String) :
    strippedTarget target = "." ∨ (strippedTarget target).toList = stripCurrent false target.toList ∧
      stripCurrent false target.toList ≠ [] := by
  unfold strippedTarget
  split
  case isTrue => exact .inl rfl
  case isFalse present => exact .inr ⟨String.toList_ofList, present⟩

theorem strippedTarget_ne_empty (target : String) : strippedTarget target ≠ "" := by
  rcases strippedTarget_cases target with dot | ⟨spelled, present⟩
  · rw [dot]
    decide
  · intro empty
    rw [empty] at spelled
    exact present spelled.symm

/-- Nothing is left to strip. -/
theorem strippedTarget_again {target : String} (relative : target.toList.head? ≠ some '/') :
    strippedTarget (strippedTarget target) = strippedTarget target := by
  rcases strippedTarget_cases target with dot | ⟨spelled, present⟩
  · rw [dot]
    decide
  · have again := (stripCurrent_again false target.toList fun _ => relative).2 false
    unfold strippedTarget at spelled ⊢
    rw [spelled, again, if_neg present]

/-- The text that is left is the target, its last components, or a dot. -/
theorem split_strippedTarget (target : String) {component : String}
    (member : component ∈ Paths.split (strippedTarget target)) :
    component = "." ∨ component ∈ Paths.split target := by
  rcases strippedTarget_cases target with dot | ⟨spelled, -⟩
  · rw [dot] at member
    exact .inl (by simpa [show Paths.split "." = ["."] by decide] using member)
  · right
    rcases stripCurrent_spec false target.toList with same | ⟨front, split⟩
    · rw [same] at spelled
      rwa [String.toList_inj.mp spelled] at member
    · rw [← spelled] at split
      have text : target = String.ofList front ++ "/" ++ strippedTarget target := by
        refine String.toList_inj.mp ?_
        rw [split]
        simp
      rw [text, Paths.split_append]
      exact mem_append_right _ member

/-- What is left has no character that the target does not have, save a dot. -/
theorem mem_strippedTarget (target : String) {character : Char}
    (member : character ∈ (strippedTarget target).toList) : character = '.' ∨ character ∈ target.toList := by
  rcases strippedTarget_cases target with dot | ⟨spelled, -⟩
  · rw [dot] at member
    exact .inl (by simpa using member)
  · rw [spelled] at member
    exact .inr ((stripCurrent_suffix false target.toList).mem member)

theorem strippedTarget_relative {target : String} (relative : target.toList.head? ≠ some '/') :
    (strippedTarget target).toList.head? ≠ some '/' := by
  rcases strippedTarget_cases target with dot | ⟨spelled, -⟩
  · rw [dot]
    decide
  · rw [spelled]
    exact (stripCurrent_again false target.toList fun _ => relative).1

theorem strippedTarget_size {target : String} (present : target ≠ "") :
    (strippedTarget target).utf8ByteSize ≤ target.utf8ByteSize := by
  rcases strippedTarget_cases target with dot | ⟨spelled, -⟩
  · rw [dot]
    have positive : target.utf8ByteSize ≠ 0 := fun empty => present (String.utf8ByteSize_eq_zero_iff.mp empty)
    exact Nat.one_le_iff_ne_zero.mpr positive
  · obtain ⟨front, split⟩ := stripCurrent_suffix false target.toList
    rw [← spelled] at split
    have text : target = String.ofList front ++ strippedTarget target := by
      refine String.toList_inj.mp ?_
      rw [← split]
      simp
    rw [text, String.utf8ByteSize_append, ← text]
    exact Nat.le_add_left _ _

theorem Unicode.nfc_strippedTarget (unicode : Unicode) (text : String) :
    unicode.nfc (strippedTarget (unicode.nfc text)) = strippedTarget (unicode.nfc text) := by
  rcases strippedTarget_cases (unicode.nfc text) with dot | ⟨spelled, -⟩
  · rw [dot]
    exact unicode.ascii "." (by simp)
  · refine unicode.suffix text _ ?_
    rw [spelled]
    exact stripCurrent_suffix false _

end Strip

section Entries

variable {unicode : Unicode} {entry result : Entry} {entries results : List Entry}

/-- What `Canonicalize` asks of a normalized path. -/
def ValidPath (path : String) : Prop :=
  path ≠ "" ∧ path.toList.head? ≠ some '/' ∧ '\x00' ∉ path.toList ∧ path.utf8ByteSize ≤ maxPathBytes ∧
    ∀ component ∈ Paths.split path, Paths.Name component ∧
      component.utf8ByteSize ≤ maxComponentBytes ∧ component.toList.any isControl = false

theorem checkPath_ok_iff (index : Nat) (path : String) : checkPath index path = .ok () ↔ ValidPath path := by
  simp only [checkPath, checkComponent, ValidPath, Paths.Name, steps_ok, forEach_ok_iff, not_lt, not_or, Bool.not_eq_true]

/-- The entry that stands for another one in the canonical form. -/
def Unicode.Normalizes (unicode : Unicode) (entry result : Entry) : Prop :=
  ValidPath (unicode.nfc entry.path) ∧ unicode.normalize { entry with path := unicode.nfc entry.path } = .ok result

/-- What a file must be, and what it becomes. -/
theorem Unicode.normalizeFile_ok_iff : unicode.normalizeFile entry = .ok result ↔
    (0 ≤ entry.size ∧ entry.size ≤ maxFileSize ∧ entry.symlinkTarget = "" ∧
      entry.contentDigest.utf8ByteSize = 71 ∧ entry.contentDigest.toList.take 7 = "sha256:".toList ∧
      entry.contentDigest = unicode.toLower entry.contentDigest ∧
      (entry.contentDigest.toList.drop 7).all hexDigit = true ∧
      (entry.contentDigest.toList.drop 7).length = 64) ∧
    result = { entry with mode := if entry.mode &&& 0o111 = 0 then 0o644 else 0o755 } := by
  simp only [normalizeFile, steps_ok, not_or, not_lt, Bool.not_eq_false]
  tauto

/-- What a directory must be, and what it becomes. -/
theorem normalizeDirectory_ok_iff : normalizeDirectory entry = .ok result ↔
    (entry.size = 0 ∧ entry.contentDigest = "" ∧ entry.symlinkTarget = "") ∧ result = { entry with mode := 0o755 } := by
  simp only [normalizeDirectory, steps_ok, not_or]
  tauto

/-- What `Canonicalize` asks of a normalized target before it strips it. -/
structure ValidTarget (path target : String) : Prop where
  present : target ≠ ""
  printable : '\x00' ∉ target.toList
  relative : target.toList.head? ≠ some '/'
  size : target.utf8ByteSize ≤ maxPathBytes
  components : ∀ component ∈ Paths.split target, checkTargetComponent path component = .ok ()
  inside : ¬ escapes (Paths.clean (Paths.concat (Paths.directoryOf path) (strippedTarget target)))

/-- What a link must be, and what it becomes. -/
theorem Unicode.normalizeSymlink_ok_iff : unicode.normalizeSymlink entry = .ok result ↔
    (entry.size = 0 ∧ entry.contentDigest = "" ∧ ValidTarget entry.path (unicode.nfc entry.symlinkTarget)) ∧
    result = { entry with symlinkTarget := strippedTarget (unicode.nfc entry.symlinkTarget), mode := 0o777 } := by
  simp only [normalizeSymlink, steps_ok, not_or, not_lt, forEach_ok_iff]
  constructor
  · rintro ⟨⟨size, digest⟩, ⟨present, printable, relative⟩, length, components, inside, rfl⟩
    exact ⟨⟨size, digest, present, printable, relative, length, components, inside⟩, rfl⟩
  · rintro ⟨⟨size, digest, present, printable, relative, length, components, inside⟩, rfl⟩
    exact ⟨⟨size, digest⟩, ⟨present, printable, relative⟩, length, components, inside, rfl⟩

theorem ValidTarget.stripped {path target : String} (valid : ValidTarget path target) :
    ValidTarget path (strippedTarget target) where
  present := strippedTarget_ne_empty target
  printable member := by
    rcases mem_strippedTarget target member with dot | inside
    · cases dot
    · exact valid.printable inside
  relative := strippedTarget_relative valid.relative
  size := (strippedTarget_size valid.present).trans valid.size
  components component member := by
    rcases split_strippedTarget target member with rfl | inside
    · simp only [checkTargetComponent, steps_ok]
      exact ⟨by decide, by decide⟩
    · exact valid.components component inside
  inside := by
    rw [strippedTarget_again valid.relative]
    exact valid.inside

/-- The parts of an entry that its normal form keeps. -/
theorem Unicode.normalize_kept (ok : unicode.normalize entry = .ok result) :
    result.path = entry.path ∧ result.type = entry.type := by
  unfold normalize at ok
  obtain ⟨-, -, ok⟩ := (bind_ok _ _ _).mp ok
  split at ok
  case h_1 type =>
    obtain ⟨-, rfl⟩ := normalizeFile_ok_iff.mp ok
    exact ⟨rfl, rfl⟩
  case h_2 type =>
    obtain ⟨-, rfl⟩ := normalizeDirectory_ok_iff.mp ok
    exact ⟨rfl, rfl⟩
  case h_3 type =>
    obtain ⟨-, rfl⟩ := normalizeSymlink_ok_iff.mp ok
    exact ⟨rfl, rfl⟩
  case h_4 => cases ok

/-- The normal form of an entry is its own normal form. -/
theorem Unicode.normalize_again (ok : unicode.normalize entry = .ok result) :
    unicode.normalize result = .ok result := by
  unfold normalize at ok
  obtain ⟨-, -, ok⟩ := (bind_ok _ _ _).mp ok
  split at ok
  case h_1 type =>
    obtain ⟨valid, rfl⟩ := normalizeFile_ok_iff.mp ok
    simp only [normalize, steps_ok, type]
    refine ⟨?_, normalizeFile_ok_iff.mpr ⟨valid, ?_⟩⟩
    · split <;> decide
    · have same : (if (if entry.mode &&& 0o111 = 0 then 0o644 else 0o755 : UInt32) &&& 0o111 = 0 then 0o644
          else 0o755 : UInt32) = if entry.mode &&& 0o111 = 0 then 0o644 else 0o755 := by
        split <;> decide
      simp only [same]
  case h_2 type =>
    obtain ⟨valid, rfl⟩ := normalizeDirectory_ok_iff.mp ok
    simp only [normalize, steps_ok, type]
    exact ⟨by decide, normalizeDirectory_ok_iff.mpr ⟨valid, rfl⟩⟩
  case h_3 type =>
    obtain ⟨⟨size, digest, valid⟩, rfl⟩ := normalizeSymlink_ok_iff.mp ok
    simp only [normalize, steps_ok, type]
    refine ⟨by decide, normalizeSymlink_ok_iff.mpr ⟨⟨size, digest, ?_⟩, ?_⟩⟩
    · rw [unicode.nfc_strippedTarget]
      exact valid.stripped
    · rw [unicode.nfc_strippedTarget, strippedTarget_again valid.relative]
  case h_4 => cases ok

theorem Unicode.Normalizes.path (normalizes : unicode.Normalizes entry result) : result.path = unicode.nfc entry.path :=
  (Unicode.normalize_kept normalizes.2).1

/-- A normalized entry is normal. -/
theorem Unicode.Normalizes.again (normalizes : unicode.Normalizes entry result) : unicode.Normalizes result result := by
  have path : unicode.nfc result.path = result.path := by
    rw [normalizes.path, unicode.idempotent]
  refine ⟨?_, ?_⟩
  · rw [path, normalizes.path]
    exact normalizes.1
  · rw [path]
    exact normalize_again normalizes.2

theorem Unicode.Normalizes.valid (normalizes : unicode.Normalizes entry result) : ValidPath result.path := by
  rw [normalizes.path]
  exact normalizes.1

end Entries

section Index

variable {unicode : Unicode} {progress final : Progress} {entry result : Entry} {entries results : List Entry}

/-- The paths of the results are new and distinct. -/
def Progress.Fresh (progress : Progress) (results : List Entry) : Prop :=
  (results.map Entry.path).Nodup ∧ ∀ result ∈ results, progress.index.kinds result.path = none

theorem Unicode.admit_ok_iff (index : Nat) : unicode.admitEntry progress (entry, index) = .ok final ↔
    ∃ result, unicode.Normalizes entry result ∧ progress.index.kinds result.path = none ∧
      final = progress.add result := by
  simp only [admitEntry, steps_ok, checkPath_ok_iff]
  constructor
  · rintro ⟨valid, fresh, result, ok, rfl⟩
    refine ⟨result, ⟨valid, ok⟩, ?_, rfl⟩
    rw [(normalize_kept ok).1]
    exact fresh
  · rintro ⟨result, ⟨valid, ok⟩, fresh, rfl⟩
    refine ⟨valid, ?_, result, ok, rfl⟩
    rw [(normalize_kept ok).1] at fresh
    exact fresh

theorem Progress.fresh_cons (progress : Progress) (result : Entry) (results : List Entry) :
    progress.Fresh (result :: results) ↔
      progress.index.kinds result.path = none ∧ (progress.add result).Fresh results := by
  simp only [Progress.Fresh, map_cons, nodup_cons, forall_mem_cons, Progress.add]
  constructor
  · rintro ⟨⟨distinct, nodup⟩, fresh, others⟩
    refine ⟨fresh, nodup, fun other member => ?_⟩
    rw [Function.update_of_ne, others other member]
    intro same
    exact distinct (same ▸ mem_map_of_mem member)
  · rintro ⟨fresh, nodup, others⟩
    have apart (other : Entry) (member : other ∈ results) : other.path ≠ result.path := by
      intro same
      have taken := others other member
      rw [same, Function.update_self] at taken
      cases taken
    refine ⟨⟨fun member => ?_, nodup⟩, fresh, fun other member => ?_⟩
    · obtain ⟨other, inside, same⟩ := mem_map.mp member
      exact apart other inside same
    · rw [← others other member, Function.update_of_ne (apart other member)]

/-- The first loop normalizes the entries one by one and finds their paths distinct. -/
theorem Unicode.admitAll_ok_iff (first : Nat) : (entries.zipIdx first).foldlM unicode.admitEntry progress = .ok final ↔
    ∃ results, List.Forall₂ unicode.Normalizes entries results ∧ progress.Fresh results ∧
      final = results.foldl Progress.add progress := by
  induction entries generalizing first progress with
  | nil =>
    simp only [zipIdx_nil, foldlM_nil, pure_ok, forall₂_nil_left_iff, exists_eq_left, foldl_nil]
    constructor
    · rintro rfl
      exact ⟨⟨nodup_nil, by simp⟩, rfl⟩
    · exact fun same => same.2.symm
  | cons entry rest ih =>
    simp only [zipIdx_cons, foldlM_cons, bind_ok, admit_ok_iff, ih, forall₂_cons_left_iff]
    constructor
    · rintro ⟨_, ⟨result, normalizes, fresh, rfl⟩, results, others, distinct, rfl⟩
      exact ⟨result :: results, ⟨result, results, normalizes, others, rfl⟩,
        (progress.fresh_cons result results).mpr ⟨fresh, distinct⟩, rfl⟩
    · rintro ⟨_, ⟨result, results, normalizes, others, rfl⟩, fresh, rfl⟩
      obtain ⟨unused, distinct⟩ := (progress.fresh_cons result results).mp fresh
      exact ⟨_, ⟨result, normalizes, unused, rfl⟩, results, others, distinct, rfl⟩

theorem canonical_foldl_add (results : List Entry) (progress : Progress) :
    (results.foldl Progress.add progress).canonical = progress.canonical ++ results := by
  induction results generalizing progress with
  | nil => simp
  | cons result rest ih => rw [foldl_cons, ih]; simp [Progress.add]

/-- The maps after all entries. -/
def indexOf (results : List Entry) : Index :=
  (results.foldl Progress.add .start).index

theorem kinds_foldl_add (fresh : progress.Fresh results) (path : String) (kind : EntryType) :
    (results.foldl Progress.add progress).index.kinds path = some kind ↔
      progress.index.kinds path = some kind ∨ ∃ result ∈ results, result.path = path ∧ result.type = kind := by
  induction results generalizing progress with
  | nil => simp
  | cons result rest ih =>
    obtain ⟨unused, distinct⟩ := (progress.fresh_cons result rest).mp fresh
    rw [foldl_cons, ih distinct]
    by_cases same : path = result.path
    · subst same
      simp [Progress.add, unused]
    · have other : result.path ≠ path := fun equal => same equal.symm
      simp [Progress.add, same, other]

theorem symlinks_foldl_add (fresh : progress.Fresh results)
    (known : ∀ path, progress.index.kinds path = none → progress.index.symlinks path = none) (path target : String) :
    (results.foldl Progress.add progress).index.symlinks path = some target ↔
      progress.index.symlinks path = some target ∨
        ∃ result ∈ results, result.path = path ∧ result.type = .symlink ∧ result.symlinkTarget = target := by
  induction results generalizing progress with
  | nil => simp
  | cons result rest ih =>
    obtain ⟨unused, distinct⟩ := (progress.fresh_cons result rest).mp fresh
    have still : ∀ path, (progress.add result).index.kinds path = none →
        (progress.add result).index.symlinks path = none := by
      intro place none
      by_cases same : place = result.path
      · subst same
        simp [Progress.add] at none
      · have before : progress.index.kinds place = .none := by simpa [Progress.add, same] using none
        simp [Progress.add, same, known place before, apply_ite (fun links : Store String String => links place)]
    rw [foldl_cons, ih distinct still]
    by_cases same : path = result.path
    · subst same
      by_cases link : result.type = .symlink
      · simp [Progress.add, link, known _ unused]
      · simp [Progress.add, link, known _ unused]
    · have other : result.path ≠ path := fun equal => same equal.symm
      by_cases link : result.type = .symlink
      · simp [Progress.add, same, other, link]
      · simp [Progress.add, other, link]

theorem start_fresh (distinct : (results.map Entry.path).Nodup) : Progress.start.Fresh results :=
  ⟨distinct, fun _ _ => rfl⟩

theorem indexOf_kinds (distinct : (results.map Entry.path).Nodup) (path : String) (kind : EntryType) :
    (indexOf results).kinds path = some kind ↔ ∃ result ∈ results, result.path = path ∧ result.type = kind := by
  unfold indexOf
  rw [kinds_foldl_add (start_fresh distinct)]
  simp [Progress.start]

theorem indexOf_symlinks (distinct : (results.map Entry.path).Nodup) (path target : String) :
    (indexOf results).symlinks path = some target ↔
      ∃ result ∈ results, result.path = path ∧ result.type = .symlink ∧ result.symlinkTarget = target := by
  unfold indexOf
  rw [symlinks_foldl_add (start_fresh distinct) fun _ _ => rfl]
  simp [Progress.start]

/-- The maps do not depend on the order of the entries. -/
theorem indexOf_perm {others : List Entry} (distinct : (results.map Entry.path).Nodup)
    (perm : results.Perm others) : indexOf others = indexOf results := by
  have distinct' := (perm.map Entry.path).nodup_iff.mp distinct
  have kinds : (indexOf others).kinds = (indexOf results).kinds := by
    funext path
    refine Option.ext fun kind => ?_
    rw [indexOf_kinds distinct', indexOf_kinds distinct]
    simp only [perm.mem_iff]
  have symlinks : (indexOf others).symlinks = (indexOf results).symlinks := by
    funext path
    refine Option.ext fun target => ?_
    rw [indexOf_symlinks distinct', indexOf_symlinks distinct]
    simp only [perm.mem_iff]
  calc indexOf others = ⟨(indexOf others).kinds, (indexOf others).symlinks⟩ := rfl
    _ = indexOf results := by rw [kinds, symlinks]

end Index

section Accepted

variable {unicode : Unicode} {entries results canonical : List Entry}

instance : Std.Total Entry.Before := ⟨fun left right => le_total left.path right.path⟩

instance : IsTrans Entry Entry.Before := ⟨fun _ _ _ first second => le_trans first second⟩

/-- What an accepted manifest consists of: the normalized entries, sorted, in a tree with safe links. -/
theorem Unicode.canonicalize_ok_iff : unicode.canonicalize entries = .ok canonical ↔
    ∃ results, List.Forall₂ unicode.Normalizes entries results ∧ (results.map Entry.path).Nodup ∧
      canonical = results.insertionSort Entry.Before ∧
      ∀ entry ∈ canonical, checkParent (indexOf results) entry = .ok () ∧
        checkLink (indexOf results) entry = .ok () := by
  simp only [canonicalize, steps_ok, forEach_ok_iff, admitAll_ok_iff]
  constructor
  · rintro ⟨_, ⟨results, normalizes, fresh, rfl⟩, parents, links, rfl⟩
    rw [canonical_foldl_add] at parents links ⊢
    exact ⟨results, normalizes, fresh.1, rfl, fun entry member => ⟨parents entry member, links entry member⟩⟩
  · rintro ⟨results, normalizes, distinct, rfl, checked⟩
    refine ⟨_, ⟨results, normalizes, start_fresh distinct, rfl⟩, ?_⟩
    rw [canonical_foldl_add]
    exact ⟨fun entry member => (checked entry member).1, fun entry member => (checked entry member).2, rfl⟩

/-- The maps have what the entries say. -/
structure Index.Describes (index : Index) (entries : List Entry) : Prop where
  distinct : (entries.map Entry.path).Nodup
  kinds : ∀ path kind, index.kinds path = some kind ↔ ∃ entry ∈ entries, entry.path = path ∧ entry.type = kind
  symlinks : ∀ path target, index.symlinks path = some target ↔
    ∃ entry ∈ entries, entry.path = path ∧ entry.type = .symlink ∧ entry.symlinkTarget = target

/-- The index describes the canonical entries. -/
theorem Unicode.canonicalize_describes (ok : unicode.canonicalize entries = .ok canonical) :
    ∃ index : Index, index.Describes canonical ∧
      ∀ entry ∈ canonical, ValidPath entry.path ∧ checkParent index entry = .ok () ∧
        checkLink index entry = .ok () := by
  obtain ⟨results, normalizes, distinct, rfl, checked⟩ := canonicalize_ok_iff.mp ok
  have perm := perm_insertionSort Entry.Before results
  refine ⟨indexOf results, ⟨(perm.map Entry.path).nodup_iff.mpr distinct, ?_, ?_⟩, ?_⟩
  · intro path kind
    simp only [indexOf_kinds distinct, perm.mem_iff]
  · intro path target
    simp only [indexOf_symlinks distinct, perm.mem_iff]
  · intro entry member
    refine ⟨?_, checked entry member⟩
    obtain ⟨origin, -, normal⟩ := exists_of_forall₂_mem normalizes (perm.mem_iff.mp member)
    exact normal.valid

end Accepted

end Circulusd.Workspace
