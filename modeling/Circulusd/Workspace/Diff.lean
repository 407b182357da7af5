import Circulusd.Workspace.Digest

/-
The manifests that `BuildManifest` makes and the changes between two of them.
-/

namespace Circulusd.Workspace

open Checked Protocol List Option

def defaultMaximumEntries : Int := 50000

def defaultMaximumMetadataBytes : Int := 8388608

/-- A zero stands for the default. -/
structure Limits where
  maxEntries : Int
  maxMetadataBytes : Int

/-- A snapshot of a workspace. -/
structure Manifest where
  entries : List Entry
  rootDigest : String
  metadataBytes : Nat
deriving DecidableEq

/-- Which step of `BuildManifest` has refused. -/
inductive BuildRefusal where
  | tooLarge (detail : String)
  | canonicalize (refusal : Refusal)
  | encode (refusal : MarshalRefusal)
  | digest (refusal : MarshalRefusal)
deriving DecidableEq

def MarshalRefusal.message : MarshalRefusal → Formatted
  | .inl refusal => refusal.message
  | .inr refusal => refusal.message

def BuildRefusal.message : BuildRefusal → Formatted
  | .tooLarge detail => "workspace: manifest exceeds configured quota: " ++ detail
  | .canonicalize refusal => refusal.message
  | .encode refusal => "encode workspace manifest: " ++ refusal.message
  | .digest refusal => "digest workspace manifest: " ++ refusal.message

/-- The encoder's own limit counts as the quota. -/
def encodeRefusal (maxMetadataBytes : Int) : MarshalRefusal → BuildRefusal
  | .inr ⟨.limitExceeded, _⟩ => .tooLarge ("metadata limit " ++ toString maxMetadataBytes ++ " bytes")
  | refusal => .encode refusal

/-- Limits, canonical form, encoding and root digest, in this order. -/
def Unicode.buildManifest (unicode : Unicode) (sha256 : Bytes → Bytes) (input : List Entry) (limits : Limits) :
    Except BuildRefusal Manifest := do
  refuseIf (limits.maxEntries < 0 ∨ limits.maxMetadataBytes < 0) (.tooLarge "limits cannot be negative")
  let maxEntries := if limits.maxEntries = 0 then defaultMaximumEntries else limits.maxEntries
  let maxMetadataBytes :=
    if limits.maxMetadataBytes = 0 then defaultMaximumMetadataBytes else limits.maxMetadataBytes
  refuseIf (maxEntries < input.length)
    (.tooLarge ("got " ++ toString input.length ++ " entries, limit " ++ toString maxEntries))
  let entries ← (unicode.canonicalize input).mapError .canonicalize
  let encoded ← (unicode.marshalCanonical entries).mapError (encodeRefusal maxMetadataBytes)
  refuseIf (maxMetadataBytes < encoded.length)
    (.tooLarge ("metadata is " ++ toString encoded.length ++ " bytes; limit " ++ toString maxMetadataBytes))
  let rootDigest ← (unicode.rootDigest sha256 entries).mapError .digest
  pure ⟨entries, rootDigest, encoded.length⟩

inductive MutationKind where
  | create
  | update
  | delete
deriving DecidableEq

structure Mutation where
  kind : MutationKind
  path : String
  before : Option Entry
  after : Option Entry
deriving DecidableEq

/-- The loop of `Diff` over what is left of both manifests. -/
def diffEntries : List Entry → List Entry → List Mutation
  | [], [] => []
  | [], after :: next => ⟨.create, after.path, none, some after⟩ :: diffEntries [] next
  | before :: base, [] => ⟨.delete, before.path, some before, none⟩ :: diffEntries base []
  | before :: base, after :: next =>
    if before.path < after.path then
      ⟨.delete, before.path, some before, none⟩ :: diffEntries base (after :: next)
    else if after.path < before.path then
      ⟨.create, after.path, none, some after⟩ :: diffEntries (before :: base) next
    else if before ≠ after then
      ⟨.update, before.path, some before, some after⟩ :: diffEntries base next
    else diffEntries base next
termination_by base next => base.length + next.length

def diff (base next : Manifest) : List Mutation :=
  diffEntries base.entries next.entries

section Changes

/-- The entries stand in the order of their paths, one for each. -/
def Ordered (entries : List Entry) : Prop :=
  (entries.map Entry.path).Pairwise (· < ·)

/-- The entry that stands at a path. -/
def entryAt (entries : List Entry) (path : String) : Option Entry :=
  entries.find? (·.path = path)

/-- A manifest as a map from paths. -/
def Manifest.entry (manifest : Manifest) : String → Option Entry :=
  entryAt manifest.entries

/-- Removed and replaced paths go, added and replacing entries come, in order again. -/
def applyChanges (mutations : List Mutation) (entries : List Entry) : List Entry :=
  (entries.filter (·.path ∉ mutations.map Mutation.path) ++ mutations.filterMap Mutation.after).insertionSort
    Entry.Before

def MutationKind.reverse : MutationKind → MutationKind
  | .create => .delete
  | .update => .update
  | .delete => .create

/-- The change the other way. -/
def Mutation.reverse (mutation : Mutation) : Mutation :=
  ⟨mutation.kind.reverse, mutation.path, mutation.after, mutation.before⟩

/-- What happens at a path between two states of it. -/
def Mutation.between (path : String) : Option Entry → Option Entry → Mutation
  | none, after => ⟨.create, path, none, after⟩
  | some before, none => ⟨.delete, path, some before, none⟩
  | some before, some after => ⟨.update, path, some before, some after⟩

/-- The mutation is the change at a path where the lists differ. -/
def Changes (base next : List Entry) (mutation : Mutation) : Prop :=
  entryAt base mutation.path ≠ entryAt next mutation.path ∧
    mutation = .between mutation.path (entryAt base mutation.path) (entryAt next mutation.path)

variable {base next base' next' entries : List Entry} {entry : Entry} {path : String} {mutation : Mutation}

@[simp]
theorem Mutation.between_path (path : String) (before after : Option Entry) :
    (Mutation.between path before after).path = path := by
  cases before <;> cases after <;> rfl

@[simp]
theorem Mutation.between_after (path : String) (before after : Option Entry) :
    (Mutation.between path before after).after = after := by
  cases before <;> cases after <;> rfl

theorem entryAt_cons : entryAt (entry :: entries) path =
    if entry.path = path then some entry else entryAt entries path := by
  unfold entryAt
  rw [find?_cons]
  by_cases here : entry.path = path <;> simp [here]

theorem entryAt_below (below : ∀ entry ∈ entries, path < entry.path) : entryAt entries path = none := by
  refine find?_eq_none.mpr fun entry member => ?_
  simpa using (below entry member).ne'

theorem Ordered.of_cons (ordered : Ordered (entry :: entries)) : Ordered entries :=
  List.Pairwise.of_cons ordered

theorem below_rest (ordered : Ordered (entry :: entries)) : ∀ other ∈ entries, entry.path < other.path :=
  fun _ member => (pairwise_cons.mp ordered).1 _ (mem_map_of_mem member)

theorem below_cons (ordered : Ordered (entry :: entries)) (low : path < entry.path) :
    ∀ other ∈ entry :: entries, path < other.path :=
  forall_mem_cons.mpr ⟨low, fun other member => low.trans (below_rest ordered other member)⟩

/-- In an ordered list a path finds its one entry. -/
theorem entryAt_eq_some_iff (ordered : Ordered entries) :
    entryAt entries path = some entry ↔ entry ∈ entries ∧ entry.path = path := by
  unfold entryAt
  constructor
  · intro found
    exact ⟨mem_of_find?_eq_some found, by simpa using find?_some found⟩
  · rintro ⟨member, rfl⟩
    have present : (entries.find? (·.path = entry.path)).isSome := find?_isSome.mpr ⟨entry, member, by simp⟩
    obtain ⟨other, found⟩ := isSome_iff_exists.mp present
    have same : other.path = entry.path := by simpa using find?_some found
    have distinct : (entries.map Entry.path).Nodup := ordered.imp ne_of_lt
    rw [found, inj_on_of_nodup_map distinct (mem_of_find?_eq_some found) member same]

/-- Once a path is dealt with, the changes of the rest are left. -/
theorem changes_iff (gone : entryAt base' path = none ∧ entryAt next' path = none)
    (others : ∀ other, other ≠ path → entryAt base other = entryAt base' other ∧ entryAt next other = entryAt next' other) :
    Changes base next mutation ↔
      entryAt base path ≠ entryAt next path ∧ mutation = .between path (entryAt base path) (entryAt next path) ∨
        Changes base' next' mutation := by
  unfold Changes
  by_cases here : mutation.path = path
  · rw [here, gone.1, gone.2]
    simp
  · have away : mutation ≠ .between path (entryAt base path) (entryAt next path) := by
      rintro same
      exact here (by rw [same, Mutation.between_path])
    rw [(others _ here).1, (others _ here).2]
    simp [away]

/-- The loop finds the changes, all of them and nothing else. -/
theorem mem_diffEntries_iff (baseOrdered : Ordered base) (nextOrdered : Ordered next) :
    mutation ∈ diffEntries base next ↔ Changes base next mutation := by
  have other {entry : Entry} {entries : List Entry} (path : String) (different : path ≠ entry.path) :
      entryAt (entry :: entries) path = entryAt entries path := by
    rw [entryAt_cons, if_neg different.symm]
  fun_induction diffEntries base next with
  | case1 => simp [Changes]
  | case2 after next ih =>
    have gone := entryAt_below (below_rest nextOrdered)
    rw [changes_iff ⟨rfl, gone⟩ fun path different => ⟨rfl, other path different⟩, mem_cons,
      propext (ih baseOrdered nextOrdered.of_cons)]
    simp [entryAt, Mutation.between]
  | case3 before base ih =>
    have gone := entryAt_below (below_rest baseOrdered)
    rw [changes_iff ⟨gone, rfl⟩ fun path different => ⟨other path different, rfl⟩, mem_cons,
      propext (ih baseOrdered.of_cons nextOrdered)]
    simp [entryAt, Mutation.between]
  | case4 before base after next less ih =>
    have gone := entryAt_below (below_rest baseOrdered)
    have absent := entryAt_below (below_cons nextOrdered less)
    rw [changes_iff ⟨gone, absent⟩ fun path different => ⟨other path different, rfl⟩, mem_cons,
      propext (ih baseOrdered.of_cons nextOrdered), absent, entryAt_cons, if_pos rfl]
    simp [Mutation.between]
  | case5 before base after next _ more ih =>
    have gone := entryAt_below (below_rest nextOrdered)
    have absent := entryAt_below (below_cons baseOrdered more)
    rw [changes_iff ⟨absent, gone⟩ fun path different => ⟨rfl, other path different⟩, mem_cons,
      propext (ih baseOrdered nextOrdered.of_cons), absent, entryAt_cons, if_pos rfl]
    simp [Mutation.between]
  | case6 before base after next notLess notMore different ih =>
    have same : after.path = before.path := le_antisymm (not_lt.mp notLess) (not_lt.mp notMore)
    have gone := entryAt_below (below_rest nextOrdered)
    rw [changes_iff ⟨entryAt_below (below_rest baseOrdered), same ▸ gone⟩
      fun path apart => ⟨other path apart, other path (same.symm ▸ apart)⟩, mem_cons,
      propext (ih baseOrdered.of_cons nextOrdered.of_cons), entryAt_cons, if_pos rfl, entryAt_cons, if_pos same]
    simp [Mutation.between, different]
  | case7 before base after next notLess notMore equal ih =>
    obtain rfl := not_not.mp equal
    rw [changes_iff ⟨entryAt_below (below_rest baseOrdered), entryAt_below (below_rest nextOrdered)⟩
      fun path apart => ⟨other path apart, other path apart⟩,
      propext (ih baseOrdered.of_cons nextOrdered.of_cons), entryAt_cons, if_pos rfl, entryAt_cons, if_pos rfl]
    simp

/-- Where all entries are above a path, so are all changes. -/
theorem diffEntries_below (baseOrdered : Ordered base) (nextOrdered : Ordered next)
    (below : ∀ entry ∈ base, path < entry.path) (below' : ∀ entry ∈ next, path < entry.path) :
    ∀ mutation ∈ diffEntries base next, path < mutation.path := by
  intro mutation member
  obtain ⟨different, -⟩ := (mem_diffEntries_iff baseOrdered nextOrdered).mp member
  by_contra reached
  have low := not_lt.mp reached
  refine different ?_
  rw [entryAt_below fun entry inside => low.trans_lt (below entry inside),
    entryAt_below fun entry inside => low.trans_lt (below' entry inside)]

theorem diffEntries_ordered (baseOrdered : Ordered base) (nextOrdered : Ordered next) :
    (diffEntries base next).Pairwise (·.path < ·.path) := by
  fun_induction diffEntries base next with
  | case1 => exact .nil
  | case2 after next ih =>
    have rest := nextOrdered.of_cons
    exact .cons (diffEntries_below baseOrdered rest nofun (below_rest nextOrdered)) (ih baseOrdered rest)
  | case3 before base ih =>
    have rest := baseOrdered.of_cons
    exact .cons (diffEntries_below rest nextOrdered (below_rest baseOrdered) nofun) (ih rest nextOrdered)
  | case4 before base after next less ih =>
    have rest := baseOrdered.of_cons
    exact .cons (diffEntries_below rest nextOrdered (below_rest baseOrdered) (below_cons nextOrdered less))
      (ih rest nextOrdered)
  | case5 before base after next _ more ih =>
    have rest := nextOrdered.of_cons
    exact .cons (diffEntries_below baseOrdered rest (below_cons baseOrdered more) (below_rest nextOrdered))
      (ih baseOrdered rest)
  | case6 before base after next notLess notMore _ ih =>
    have same : after.path = before.path := le_antisymm (not_lt.mp notLess) (not_lt.mp notMore)
    exact .cons (diffEntries_below baseOrdered.of_cons nextOrdered.of_cons (below_rest baseOrdered)
      (same ▸ below_rest nextOrdered)) (ih baseOrdered.of_cons nextOrdered.of_cons)
  | case7 before base after next _ _ _ ih => exact ih baseOrdered.of_cons nextOrdered.of_cons

/-- The changes back are the reversed changes. -/
theorem diffEntries_reverse : diffEntries next base = (diffEntries base next).map Mutation.reverse := by
  fun_induction diffEntries base next with
  | case1 => simp [diffEntries]
  | case2 after next ih => simp [diffEntries, ih, Mutation.reverse, MutationKind.reverse]
  | case3 before base ih => simp [diffEntries, ih, Mutation.reverse, MutationKind.reverse]
  | case4 before base after next less ih =>
    simp [diffEntries, ih, Mutation.reverse, MutationKind.reverse, less, less.not_gt]
  | case5 before base after next notLess more ih =>
    simp [diffEntries, ih, Mutation.reverse, MutationKind.reverse, more]
  | case6 before base after next notLess notMore different ih =>
    have same : after.path = before.path := le_antisymm (not_lt.mp notLess) (not_lt.mp notMore)
    simp [diffEntries, ih, Mutation.reverse, MutationKind.reverse, same, Ne.symm different]
  | case7 before base after next notLess notMore equal ih =>
    obtain rfl := not_not.mp equal
    simp [diffEntries, ih]

section Applied

variable (baseOrdered : Ordered base) (nextOrdered : Ordered next)
include baseOrdered nextOrdered

/-- The changed paths are those where the lists differ. -/
theorem mem_paths_iff : path ∈ (diffEntries base next).map Mutation.path ↔ entryAt base path ≠ entryAt next path := by
  simp only [List.mem_map, mem_diffEntries_iff baseOrdered nextOrdered]
  constructor
  · rintro ⟨mutation, changes, rfl⟩
    exact changes.1
  · intro different
    exact ⟨.between path (entryAt base path) (entryAt next path), by simpa [Changes] using different, by simp⟩

theorem diffEntries_after (member : mutation ∈ diffEntries base next) (here : mutation.after = some entry) :
    entry ∈ next ∧ mutation.path = entry.path := by
  obtain ⟨-, same⟩ := (mem_diffEntries_iff baseOrdered nextOrdered).mp member
  rw [same, Mutation.between_after, entryAt_eq_some_iff nextOrdered] at here
  exact ⟨here.1, here.2.symm⟩

/-- An entry of the result was there without a change, or a change put it there. -/
theorem mem_applied_iff : entry ∈ base.filter (·.path ∉ (diffEntries base next).map Mutation.path) ++
    (diffEntries base next).filterMap Mutation.after ↔ entry ∈ next := by
  have stands : entryAt next entry.path = some entry ↔ entry ∈ next ∧ entry.path = entry.path :=
    entryAt_eq_some_iff nextOrdered
  rw [mem_append, mem_filter, mem_filterMap, decide_eq_true_iff,
    mem_paths_iff baseOrdered nextOrdered, not_not]
  constructor
  · rintro (⟨old, same⟩ | ⟨mutation, member, here⟩)
    · exact (stands.mp (same ▸ (entryAt_eq_some_iff baseOrdered).mpr ⟨old, rfl⟩)).1
    · exact (diffEntries_after baseOrdered nextOrdered member here).1
  · intro new
    have found := stands.mpr ⟨new, rfl⟩
    by_cases same : entryAt base entry.path = entryAt next entry.path
    · exact .inl ⟨((entryAt_eq_some_iff baseOrdered).mp (same.trans found)).1, same⟩
    · obtain ⟨mutation, member, here⟩ := mem_map.mp ((mem_paths_iff baseOrdered nextOrdered).mpr same)
      obtain ⟨-, form⟩ := (mem_diffEntries_iff baseOrdered nextOrdered).mp member
      exact .inr ⟨mutation, member, by rw [form, Mutation.between_after, here, found]⟩

/-- The changes lead from one list to the other. -/
theorem applyChanges_diffEntries : applyChanges (diffEntries base next) base = next := by
  have distinct : next.Nodup := List.Nodup.of_map Entry.path (nextOrdered.imp ne_of_lt)
  have once : (base.filter (·.path ∉ (diffEntries base next).map Mutation.path) ++
      (diffEntries base next).filterMap Mutation.after).Nodup := by
    refine nodup_append'.mpr ⟨(List.Nodup.of_map Entry.path (baseOrdered.imp ne_of_lt)).filter _, ?_, ?_⟩
    · refine pairwise_filterMap.mpr ((diffEntries_ordered baseOrdered nextOrdered).imp_of_mem ?_)
      rintro first second inside later less entry here other there rfl
      obtain ⟨-, one⟩ := diffEntries_after baseOrdered nextOrdered inside here
      obtain ⟨-, two⟩ := diffEntries_after baseOrdered nextOrdered later there
      exact less.ne (one.trans two.symm)
    · intro entry kept put
      obtain ⟨mutation, member, here⟩ := mem_filterMap.mp put
      obtain ⟨-, same⟩ := diffEntries_after baseOrdered nextOrdered member here
      have away := (mem_filter.mp kept).2
      rw [decide_eq_true_iff] at away
      exact away (mem_map.mpr ⟨mutation, member, same⟩)
  have perm := (perm_ext_iff_of_nodup distinct once).mpr
    fun entry => (mem_applied_iff baseOrdered nextOrdered).symm
  unfold applyChanges
  rw [← insertionSort_perm (nextOrdered.imp ne_of_lt) perm]
  exact ((pairwise_map.mp nextOrdered).imp le_of_lt).insertionSort_eq

end Applied

end Changes

theorem Unicode.buildManifest_ordered {unicode : Unicode} {sha256 : Bytes → Bytes} {input : List Entry} {limits : Limits}
    {manifest : Manifest} (built : unicode.buildManifest sha256 input limits = .ok manifest) :
    Ordered manifest.entries := by
  simp only [Unicode.buildManifest, steps_ok, mapError_ok] at built
  obtain ⟨-, -, entries, ok, -, -, -, -, -, rfl⟩ := built
  exact Unicode.canonicalize_sorted ok

/-- The changes lead from one manifest to the other, stand in the order of their paths, are there for
exactly the paths that differ, and read backwards lead back. -/
theorem diff_exact {unicode : Unicode} {sha256 : Bytes → Bytes} {input input' : List Entry} {limits limits' : Limits}
    {base next : Manifest} (built : unicode.buildManifest sha256 input limits = .ok base)
    (built' : unicode.buildManifest sha256 input' limits' = .ok next) :
    applyChanges (diff base next) base.entries = next.entries ∧
    ((diff base next).map Mutation.path).Pairwise (· < ·) ∧
    (∀ path, path ∈ (diff base next).map Mutation.path ↔ base.entry path ≠ next.entry path) ∧
    (∀ mutation ∈ diff base next,
      mutation = .between mutation.path (base.entry mutation.path) (next.entry mutation.path)) ∧
    diff next base = (diff base next).map Mutation.reverse := by
  have baseOrdered := Unicode.buildManifest_ordered built
  have nextOrdered := Unicode.buildManifest_ordered built'
  refine ⟨applyChanges_diffEntries baseOrdered nextOrdered, ?_, fun path => mem_paths_iff baseOrdered nextOrdered,
    fun mutation member => ?_, diffEntries_reverse⟩
  · exact pairwise_map.mpr (diffEntries_ordered baseOrdered nextOrdered)
  · exact ((mem_diffEntries_iff baseOrdered nextOrdered).mp member).2

section Sample

def pairManifest : Manifest := ⟨pairCanonical, "sha256:", 26⟩

def linkManifest : Manifest :=
  ⟨[⟨"a", .symlink, 0o777, 0, "", "b"⟩, ⟨"c", .directory, 0o755, 0, "", ""⟩], "sha256:", 24⟩

/-- A directory becomes a link, the entry below it goes and another one comes. -/
theorem diff_exact_sample : applyChanges (diff pairManifest linkManifest) pairCanonical = linkManifest.entries ∧
    "a/b" ∈ (diff pairManifest linkManifest).map Mutation.path := by
  have built : plainUnicode.buildManifest (fun _ => []) pair ⟨0, 0⟩ = .ok pairManifest := by decide +kernel
  have built' : plainUnicode.buildManifest (fun _ => []) linkManifest.entries ⟨2, 24⟩ = .ok linkManifest := by
    decide +kernel
  obtain ⟨applied, -, paths, -⟩ := diff_exact built built'
  exact ⟨applied, (paths "a/b").mpr (by decide)⟩

end Sample

end Circulusd.Workspace
