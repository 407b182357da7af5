import Mathlib.Tactic

/-
Slash-separated paths as texts and as lists of components.
-/

namespace Circulusd.Paths

open List Option

def split (text : String) : List String :=
  (text.toList.splitOn '/').map String.ofList

def join (components : List String) : String :=
  String.ofList (['/'].intercalate (components.map String.toList))

/-- A component has no slash. -/
def Plain (component : String) : Prop :=
  '/' ∉ component.toList

/-- The text before the last slash. -/
def parent (text : String) : Option String :=
  match (split text).dropLast with
  | [] => none
  | front => some (join front)

/-- One component of a lexical normalization; the stack starts with the component read last. -/
def cleanStep (rooted : Bool) (stack : List String) (component : String) : List String :=
  if component = "" ∨ component = "." then stack
  else if component = ".." then
    match stack with
    | [] => if rooted then [] else [".."]
    | top :: rest => if top = ".." then ".." :: stack else rest
  else component :: stack

/-- The shortest text for the same path, by lexical processing alone. -/
def clean (text : String) : String :=
  if text = "" then "."
  else
    let rooted := decide (text.toList.head? = some '/')
    let components := ((split text).foldl (cleanStep rooted) []).reverse
    if rooted then "/" ++ join components
    else if components = [] then "." else join components

/-- The directory part of a path. -/
def directoryOf (text : String) : String :=
  clean (join ((split text).dropLast ++ [""]))

/-- Two parts of a path; an empty part is ignored. -/
def concat (front back : String) : String :=
  if front = "" ∧ back = "" then ""
  else if front = "" then clean back
  else if back = "" then clean front
  else clean (front ++ "/" ++ back)

section Split

theorem join_split (text : String) : join (split text) = text := by
  unfold join split
  rw [List.map_map]
  have identity : String.toList ∘ String.ofList = id := by
    funext characters
    exact String.toList_ofList
  rw [identity, List.map_id, List.intercalate_splitOn, String.ofList_toList]

theorem split_join {components : List String} (plain : ∀ component ∈ components, Plain component)
    (present : components ≠ []) : split (join components) = components := by
  unfold join split
  rw [String.toList_ofList, List.splitOn_intercalate]
  · rw [List.map_map]
    have identity : String.ofList ∘ String.toList = id := by
      funext text
      exact String.ofList_toList
    rw [identity, List.map_id]
  · intro characters member
    obtain ⟨component, inside, rfl⟩ := List.mem_map.mp member
    exact plain component inside
  · simpa using present

theorem split_ne_nil (text : String) : split text ≠ [] := by
  intro empty
  have spelled := join_split text
  unfold split at empty
  have parts : text.toList.splitOn '/' = [] := map_eq_nil_iff.mp empty
  exact splitOnP_ne_nil _ _ parts

@[simp]
theorem join_nil : join [] = "" := rfl

@[simp]
theorem join_singleton (component : String) : join [component] = component := by
  simp [join]

/-- A path grows by one component. -/
theorem join_concat {components : List String} (present : components ≠ []) (component : String) :
    join (components ++ [component]) = join components ++ "/" ++ component := by
  have characters : ∀ parts : List (List Char), parts ≠ [] → ∀ part : List Char,
      ['/'].intercalate (parts ++ [part]) = ['/'].intercalate parts ++ '/' :: part := by
    intro parts nonempty part
    induction parts with
    | nil => exact absurd rfl nonempty
    | cons first rest ih =>
      cases rest with
      | nil => simp
      | cons second rest =>
        rw [cons_append, cons_append, intercalate_cons_cons, ← cons_append,
          ih (by simp), intercalate_cons_cons]
        simp
  unfold join
  rw [map_append, map_singleton, characters _ (by simpa using present)]
  refine String.toList_inj.mp ?_
  simp

theorem not_mem_of_mem_splitOn {characters part : List Char} (inside : part ∈ characters.splitOn '/') : '/' ∉ part := by
  rw [splitOn_eq_splitOnP] at inside
  induction characters generalizing part with
  | nil =>
    obtain rfl : part = [] := by simpa using inside
    simp
  | cons character rest ih =>
    rw [splitOnP_cons_eq_if_modifyHead] at inside
    split at inside
    case isTrue =>
      rcases mem_cons.mp inside with rfl | later
      · simp
      · exact ih later
    case isFalse other =>
      -- The first piece grows by a character that is no slash; the others are pieces of the rest.
      cases pieces : List.splitOnP (· == '/') rest with
      | nil => exact absurd pieces (splitOnP_ne_nil _ _)
      | cons head tail =>
        rw [pieces] at inside ih
        rcases mem_cons.mp inside with rfl | later
        · have slash : character ≠ '/' := by simpa using other
          simpa [slash.symm] using ih (mem_cons_self ..)
        · exact ih (mem_cons_of_mem _ later)

theorem plain_of_mem_split {text component : String} (member : component ∈ split text) : Plain component := by
  obtain ⟨part, inside, rfl⟩ := mem_map.mp member
  unfold Plain
  rw [String.toList_ofList]
  exact not_mem_of_mem_splitOn inside

theorem split_append (front back : String) : split (front ++ "/" ++ back) = split front ++ split back := by
  unfold split
  rw [String.toList_append, String.toList_append, append_assoc]
  change List.map String.ofList (List.splitOn '/' (front.toList ++ '/' :: back.toList)) = _
  rw [splitOn_eq_splitOnP, splitOnP_append_cons _ _ (by simp), map_append]
  rfl

/-- A path without its last component. -/
theorem parent_append (front : String) {last : String} (plain : Plain last) :
    parent (front ++ "/" ++ last) = some front := by
  have single : split last = [last] := by
    have pieces := split_join (by simpa using plain : ∀ component ∈ [last], Plain component) (by simp)
    rwa [join_singleton] at pieces
  have pieces : (split (front ++ "/" ++ last)).dropLast = split front := by
    rw [split_append, single, dropLast_concat]
  unfold parent
  split
  case h_1 empty =>
    rw [pieces] at empty
    exact absurd empty (split_ne_nil front)
  case h_2 => rw [pieces, join_split]

end Split

section Clean

/-- A component that is neither empty nor one of the two dots. -/
def Name (component : String) : Prop :=
  component ≠ "" ∧ component ≠ "." ∧ component ≠ ".."
deriving Decidable

theorem cleanStep_names (rooted : Bool) {names : List String} (each : ∀ name ∈ names, Name name)
    (stack : List String) : names.foldl (cleanStep rooted) stack = names.reverse ++ stack := by
  induction names generalizing stack with
  | nil => rfl
  | cons name rest ih =>
    obtain ⟨first, others⟩ := forall_mem_cons.mp each
    obtain ⟨nonempty, dot, dots⟩ := first
    rw [foldl_cons, ih others]
    simp [cleanStep, nonempty, dot, dots]

/-- A path starts with its first component. -/
theorem join_cons_toList (first : String) (rest : List String) :
    ∃ others, (join (first :: rest)).toList = first.toList ++ others := by
  unfold join
  cases rest with
  | nil => exact ⟨[], by simp⟩
  | cons second rest =>
    rw [String.toList_ofList, map_cons, map_cons, intercalate_cons_cons, append_assoc]
    exact ⟨_, rfl⟩

/-- The directory part of a path of names. -/
theorem directoryOf_names {names : List String} (each : ∀ name ∈ names, Name name)
    (plain : ∀ name ∈ names, Plain name) (name : String) (last : Plain name) :
    directoryOf (join (names ++ [name])) = if names = [] then "." else join names := by
  have pieces : split (join (names ++ [name])) = names ++ [name] := by
    refine split_join ?_ (by simp)
    simpa [or_imp, forall_and] using And.intro plain last
  unfold directoryOf
  rw [pieces, dropLast_concat]
  cases names with
  | nil => rfl
  | cons first rest =>
    obtain ⟨start, -⟩ := forall_mem_cons.mp each
    obtain ⟨plainStart, -⟩ := forall_mem_cons.mp plain
    have nonempty : first.toList ≠ [] := fun empty => start.1 (String.toList_inj.mp empty)
    obtain ⟨character, characters, spelled⟩ := exists_cons_of_ne_nil nonempty
    obtain ⟨others, text⟩ := join_cons_toList first (rest ++ [""])
    rw [← cons_append] at text
    have relative : (join ((first :: rest) ++ [""])).toList.head? ≠ some '/' := by
      rw [text, spelled]
      simp only [cons_append, head?_cons, ne_eq, some.injEq]
      rintro rfl
      exact plainStart (by rw [spelled]; exact mem_cons_self ..)
    have written : join ((first :: rest) ++ [""]) ≠ "" := by
      intro empty
      rw [empty, spelled] at text
      cases text
    have again : split (join ((first :: rest) ++ [""])) = (first :: rest) ++ [""] := by
      refine split_join ?_ (by simp)
      simpa [or_imp, forall_and, Plain] using plain
    unfold clean
    rw [if_neg written, again]
    simp only [relative, decide_false, Bool.false_eq_true, if_false]
    rw [foldl_append, cleanStep_names false each]
    simp [cleanStep]

end Clean

end Circulusd.Paths
