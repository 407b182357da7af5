import Circulusd.Library.Resolution
import Circulusd.Workspace.Canonical

/-
No path of an accepted manifest leads out of the workspace.
-/

namespace Circulusd.Workspace

open Paths Resolution Trace List Option

/-- How a file system reads one component of a target. -/
def moveOf (component : String) : Move String :=
  if component = "" ∨ component = "." then .stay else if component = ".." then .up else .down component

/-- The entry as a node of the tree. -/
def Entry.node (entry : Entry) : Node String :=
  match entry.type with
  | .symlink => .symlink ((Paths.split entry.symlinkTarget).map moveOf)
  | .directory => .directory
  | _ => .file

/-- The tree that a manifest describes. -/
def treeOf (entries : List Entry) : FileTree String := fun place =>
  (entries.find? fun entry => Paths.split entry.path = place).map Entry.node

section Places

variable {directory : List String} {component : String}

/-- The names of a directory on the way from the root. -/
def Placed (names : List String) : Prop :=
  ∀ name ∈ names, Paths.Name name ∧ Paths.Plain name

theorem Placed.plain (place : Placed directory) : ∀ name ∈ directory, Paths.Plain name :=
  fun name member => (place name member).2

theorem Placed.concat (place : Placed directory) (name : Paths.Name component) (plain : Paths.Plain component) :
    Placed (directory ++ [component]) := by
  intro other member
  rcases mem_append.mp member with before | last
  · exact place other before
  · rw [mem_singleton.mp last]
    exact ⟨name, plain⟩

theorem Placed.init (place : Placed (directory ++ [component])) : Placed directory :=
  fun name member => place name (mem_append_left _ member)

theorem Placed.split (place : Placed directory) (present : directory ≠ []) :
    Paths.split (Paths.join directory) = directory :=
  Paths.split_join place.plain present

theorem Placed.join_eq_empty (place : Placed directory) : Paths.join directory = "" ↔ directory = [] := by
  constructor
  · intro empty
    by_contra present
    have pieces := place.split present
    rw [empty] at pieces
    have blank : "" ∈ directory := by
      rw [← pieces]
      decide
    exact (place "" blank).1.1 rfl
  · rintro rfl
    rfl

/-- A component below a place, as the walk writes it. -/
theorem Placed.candidate (place : Placed directory) :
    candidate (Paths.join directory) component = Paths.join (directory ++ [component]) := by
  unfold Workspace.candidate
  by_cases root : directory = []
  · subst root
    simp
  · rw [if_neg (mt place.join_eq_empty.mp root), join_concat root]

theorem Placed.parent (place : Placed (directory ++ [component])) :
    (Paths.parent (Paths.join (directory ++ [component]))).getD "" = Paths.join directory := by
  unfold Paths.parent
  rw [place.split (by simp), dropLast_concat]
  cases directory with
  | nil => rfl
  | cons first rest => rfl

end Places

section Walks

variable {entries : List Entry} {place : List String}

variable {index : Index}

/-- A node of the tree is that of an entry. -/
theorem treeOf_eq_some {node : Node String} (found : treeOf entries place = some node) :
    ∃ entry ∈ entries, Paths.split entry.path = place ∧ entry.node = node := by
  unfold treeOf at found
  obtain ⟨entry, present, rfl⟩ := map_eq_some_iff.mp found
  exact ⟨entry, mem_of_find?_eq_some present, by simpa using find?_some present, rfl⟩

theorem Entry.node_eq_directory {entry : Entry} (node : entry.node = .directory) : entry.type = .directory := by
  unfold Entry.node at node
  split at node
  case h_1 => cases node
  case h_2 directory => exact directory
  case h_3 => cases node

theorem Entry.node_eq_symlink {entry : Entry} {target : List (Move String)} (node : entry.node = .symlink target) :
    entry.type = .symlink ∧ target = (Paths.split entry.symlinkTarget).map moveOf := by
  unfold Entry.node at node
  split at node
  case h_1 link =>
    obtain rfl := Node.symlink.inj node
    exact ⟨link, rfl⟩
  case h_2 => cases node
  case h_3 => cases node

/-- The index finds the directories of the tree. -/
theorem Index.Describes.directory (describes : index.Describes entries)
    (found : treeOf entries place = some .directory) : index.kinds (Paths.join place) = some .directory := by
  obtain ⟨entry, member, rfl, node⟩ := treeOf_eq_some found
  rw [join_split]
  exact (describes.kinds _ _).mpr ⟨entry, member, rfl, Entry.node_eq_directory node⟩

/-- The index finds the links of the tree. -/
theorem Index.Describes.symlink (describes : index.Describes entries) {target : List (Move String)}
    (found : treeOf entries place = some (.symlink target)) :
    index.kinds (Paths.join place) = some .symlink ∧
      ∃ text, index.symlinks (Paths.join place) = some text ∧ target = (Paths.split text).map moveOf := by
  obtain ⟨entry, member, rfl, node⟩ := treeOf_eq_some found
  obtain ⟨link, spelled⟩ := Entry.node_eq_symlink node
  rw [join_split]
  exact ⟨(describes.kinds _ _).mpr ⟨entry, member, rfl, link⟩, entry.symlinkTarget,
    (describes.symlinks _ _).mpr ⟨entry, member, rfl, link, rfl⟩, spelled⟩

/-- The check has accepted the rest of the walk from here. -/
def Passes (index : Index) (path : String) (walker : Walker String) : Prop :=
  ∃ directory pending remaining, walker = ⟨.inside directory, pending.map moveOf⟩ ∧ Placed directory ∧
    (∀ component ∈ pending, Paths.Plain component) ∧
      traverse index path remaining (Paths.join directory) pending = .ok ()

/-- What an accepted walk does with its next component. -/
theorem traverse_cons {path directory component : String} {pending : List String} {remaining : Nat}
    (ok : traverse index path remaining directory (component :: pending) = .ok ()) :
    (component = "" ∨ component = "." → traverse index path remaining directory pending = .ok ()) ∧
    (component = ".." → directory ≠ "" ∧
      traverse index path remaining ((Paths.parent directory).getD "") pending = .ok ()) ∧
    (Paths.Name component → (index.kinds (candidate directory component) = some .directory →
        traverse index path remaining (candidate directory component) pending = .ok ()) ∧
      (index.kinds (candidate directory component) = some .symlink → ∃ fewer, traverse index path fewer directory
          (Paths.split ((index.symlinks (candidate directory component)).getD "") ++ pending) = .ok ())) := by
  have general {expand : String → List String → Except Refusal Unit}
      (walked : through index path expand directory (component :: pending) = .ok ()) :
      (component = "" ∨ component = "." → through index path expand directory pending = .ok ()) ∧
      (component = ".." → directory ≠ "" ∧ through index path expand ((parent directory).getD "") pending = .ok ()) ∧
      (Name component → (index.kinds (candidate directory component) = some .directory →
          through index path expand (candidate directory component) pending = .ok ()) ∧
        (index.kinds (candidate directory component) = some .symlink → expand directory
            (Paths.split ((index.symlinks (candidate directory component)).getD "") ++ pending) = .ok ())) := by
    unfold through at walked
    refine ⟨fun here => by rwa [if_pos here] at walked, ?_, ?_⟩
    · rintro rfl
      rw [if_neg (by decide), if_pos rfl] at walked
      split at walked
      case isTrue => cases walked
      case isFalse below => exact ⟨below, walked⟩
    · rintro ⟨nonempty, dot, dots⟩
      rw [if_neg (by simp [nonempty, dot]), if_neg dots] at walked
      refine ⟨fun kind => ?_, fun kind => ?_⟩
      · simpa only [kind] using walked
      · simpa only [kind] using walked
  cases remaining with
  | zero =>
    obtain ⟨here, up, down⟩ := general ok
    exact ⟨here, up, fun name => ⟨(down name).1, fun kind => by cases (down name).2 kind⟩⟩
  | succ fewer =>
    obtain ⟨here, up, down⟩ := general ok
    exact ⟨here, up, fun name => ⟨(down name).1, fun kind => ⟨fewer, (down name).2 kind⟩⟩⟩

/-- A step keeps to what the check has accepted. -/
theorem Passes.step (describes : index.Describes entries) {path : String} {walker next : Walker String}
    (passes : Passes index path walker) (step : Step (treeOf entries) walker next) :
    Passes index path next := by
  obtain ⟨directory, pending, remaining, rfl, place, plain, ok⟩ := passes
  cases pending with
  | nil => cases step
  | cons component pending =>
    obtain ⟨here, up, down⟩ := traverse_cons ok
    obtain ⟨plainHere, plainRest⟩ := forall_mem_cons.mp plain
    -- The move tells which kind of component the check has read.
    generalize move : moveOf component = first at step
    rw [map_cons, move] at step
    unfold moveOf at move
    split at move
    case isTrue current =>
      subst move
      cases step with
      | stay => exact ⟨directory, pending, remaining, rfl, place, plainRest, here current⟩
    case isFalse elsewhere =>
      split at move
      case isTrue dots =>
        subst move
        obtain ⟨below, climbed⟩ := up dots
        cases step with
        | climb above name =>
          rw [place.parent] at climbed
          exact ⟨above, pending, remaining, rfl, place.init, plainRest, climbed⟩
        | leave => exact absurd rfl below
      case isFalse named =>
        subst move
        have name : Name component :=
          ⟨fun empty => elsewhere (.inl empty), fun dot => elsewhere (.inr dot), named⟩
        obtain ⟨entered, followed⟩ := down name
        rw [place.candidate] at entered followed
        cases step with
        | enter _ _ _ found =>
          exact ⟨directory ++ [component], pending, remaining, rfl, place.concat name plainHere, plainRest,
            entered (describes.directory found)⟩
        | follow _ _ _ target found =>
          obtain ⟨kind, text, spelled, rfl⟩ := describes.symlink found
          obtain ⟨fewer, walked⟩ := followed kind
          rw [spelled, getD_some] at walked
          refine ⟨directory, Paths.split text ++ pending, fewer, ?_, place, ?_, walked⟩
          · rw [map_append]
          · intro other member
            rcases mem_append.mp member with inside | later
            · exact plain_of_mem_split inside
            · exact plainRest other later

/-- An accepted walk stays inside. -/
theorem Passes.contained (describes : index.Describes entries) {path : String} {directory : List String}
    {pending : List String} (passes : Passes index path ⟨.inside directory, pending.map moveOf⟩) :
    Contained (treeOf entries) directory (pending.map moveOf) := by
  intro walker reached
  have always : Passes index path walker := by
    induction reached with
    | refl => exact passes
    | tail _ step ih => exact ih.step describes step
  obtain ⟨_, _, _, rfl, -⟩ := always
  simp

end Walks

section Accepted

variable {unicode : Unicode} {entries canonical : List Entry}

theorem ValidPath.placed {path : String} (valid : ValidPath path) : Placed (Paths.split path) :=
  fun name member => ⟨(valid.2.2.2.2 name member).1, Paths.plain_of_mem_split member⟩

/-- The check of a link starts in its directory. -/
theorem Walk.start_directory {entry : Entry} {directory : List String} {name : String}
    (spelled : Paths.split entry.path = directory ++ [name]) (place : Placed (directory ++ [name])) :
    (Walk.start entry).directory = Paths.join directory := by
  have parent := directoryOf_names (fun other member => (place.init other member).1) place.init.plain
    name (place.plain name (by simp))
  rw [← spelled, join_split] at parent
  unfold Walk.start
  rw [parent]
  by_cases root : directory = []
  · simp [root]
  · rw [if_neg root, if_neg]
    intro dot
    have pieces := place.init.split root
    rw [dot] at pieces
    have member : "." ∈ directory := by
      rw [← pieces]
      decide
    exact (place.init "." member).1.2.1 rfl

theorem Unicode.canonicalize_links (ok : unicode.canonicalize entries = .ok canonical) :
    LinksContained (treeOf canonical) := by
  obtain ⟨index, describes, checked⟩ := Unicode.canonicalize_describes ok
  intro directory name target found
  obtain ⟨entry, member, spelled, node⟩ := treeOf_eq_some found
  obtain ⟨link, rfl⟩ := Entry.node_eq_symlink node
  obtain ⟨valid, -, walked⟩ := checked entry member
  have place : Placed (directory ++ [name]) := spelled ▸ valid.placed
  unfold checkLink at walked
  rw [if_pos link] at walked
  unfold validateSymlinkTraversal at walked
  rw [Walk.start_directory spelled place] at walked
  refine Passes.contained describes ⟨directory, _, _, rfl, place.init, ?_, walked⟩
  exact fun component inside => plain_of_mem_split inside

/-- Resolution of a path of names in an accepted manifest never leaves the workspace, and the check of
the links ends for every link and in every index. -/
theorem links_cannot_escape (unicode : Unicode) :
    (∀ entries canonical path walker, unicode.canonicalize entries = .ok canonical →
      (∀ component ∈ Paths.split path, Paths.Name component) →
      Relation.ReflTransGen (Step (treeOf canonical)) ⟨.inside [], (Paths.split path).map moveOf⟩ walker →
        walker.place ≠ .outside) ∧
    (∀ index entry, Returns (Walk.advance index entry.path) (Walk.start entry)
      (validateSymlinkTraversal index entry)) := by
  refine ⟨fun entries canonical path walker accepted names reached => ?_, validateSymlinkTraversal_returns⟩
  have downward : (split path).map moveOf = (split path).map .down := by
    refine map_congr_left fun component member => ?_
    obtain ⟨nonempty, dot, dots⟩ := names component member
    simp [moveOf, nonempty, dot, dots]
  rw [downward] at reached
  exact names_contained (Unicode.canonicalize_links accepted) _ walker reached

section Sample

/-- A directory with a link that leads up and into it again. -/
def sampleEntries : List Entry :=
  [⟨"a/up", .symlink, 0o777, 0, "", "../a/."⟩, ⟨"a", .directory, 0o700, 0, "", ""⟩]

def sampleCanonical : List Entry :=
  [⟨"a", .directory, 0o755, 0, "", ""⟩, ⟨"a/up", .symlink, 0o777, 0, "", "../a/."⟩]

theorem sampleEntries_accepted : plainUnicode.canonicalize sampleEntries = .ok sampleCanonical := by
  decide +kernel

/-- The path through the link reaches the directory again, by way of the root. -/
theorem links_cannot_escape_sample : plainUnicode.canonicalize sampleEntries = .ok sampleCanonical ∧
    ∀ walker, Relation.ReflTransGen (Step (treeOf sampleCanonical))
      ⟨.inside [], (Paths.split "a/up/up").map moveOf⟩ walker → walker.place ≠ .outside :=
  ⟨sampleEntries_accepted, fun walker reached =>
    (links_cannot_escape plainUnicode).1 sampleEntries sampleCanonical "a/up/up" walker
      sampleEntries_accepted (by decide +kernel) reached⟩

end Sample

end Accepted

end Circulusd.Workspace
