import Mathlib.Logic.Relation
import Mathlib.Tactic

/-
The resolution of paths in a tree with symbolic links.
-/

namespace Circulusd.Resolution

variable {Name : Type}

inductive Move (Name : Type) where
  | stay
  | up
  | down (name : Name)

inductive Node (Name : Type) where
  | file
  | directory
  | symlink (target : List (Move Name))

/-- What stands at each place; a place is the list of names from the root. -/
abbrev FileTree (Name : Type) := List Name → Option (Node Name)

inductive Place (Name : Type) where
  | inside (directory : List Name)
  | outside

structure Walker (Name : Type) where
  place : Place Name
  pending : List (Move Name)

/-- One step of a resolution. It ends at a file or a missing name. The number of links is not bounded
here: a resolution that gives up after some of them is the beginning of one that does not. -/
inductive Step (tree : FileTree Name) : Walker Name → Walker Name → Prop
  | stay (directory : List Name) (rest : List (Move Name)) :
      Step tree ⟨.inside directory, .stay :: rest⟩ ⟨.inside directory, rest⟩
  | climb (directory : List Name) (name : Name) (rest : List (Move Name)) :
      Step tree ⟨.inside (directory ++ [name]), .up :: rest⟩ ⟨.inside directory, rest⟩
  | leave (rest : List (Move Name)) : Step tree ⟨.inside [], .up :: rest⟩ ⟨.outside, rest⟩
  | enter (directory : List Name) (name : Name) (rest : List (Move Name))
      (found : tree (directory ++ [name]) = some .directory) :
      Step tree ⟨.inside directory, .down name :: rest⟩ ⟨.inside (directory ++ [name]), rest⟩
  | follow (directory : List Name) (name : Name) (rest target : List (Move Name))
      (found : tree (directory ++ [name]) = some (.symlink target)) :
      Step tree ⟨.inside directory, .down name :: rest⟩ ⟨.inside directory, target ++ rest⟩

/-- No resolution of these moves from this directory gets outside. -/
def Contained (tree : FileTree Name) (directory : List Name) (moves : List (Move Name)) : Prop :=
  ∀ walker, Relation.ReflTransGen (Step tree) ⟨.inside directory, moves⟩ walker → walker.place ≠ .outside

/-- Every link is contained where it stands. -/
def LinksContained (tree : FileTree Name) : Prop :=
  ∀ directory name target, tree (directory ++ [name]) = some (.symlink target) → Contained tree directory target

variable {tree : FileTree Name} {directory : List Name} {moves rest : List (Move Name)}

theorem Contained.nil (tree : FileTree Name) (directory : List Name) : Contained tree directory [] := by
  intro walker reached
  rcases reached.cases_head with rfl | ⟨next, step, -⟩
  · simp
  · cases step

/-- What is contained stays so after each of its steps. -/
theorem Contained.step (contained : Contained tree directory moves) {next : List Name}
    (step : Step tree ⟨.inside directory, moves⟩ ⟨.inside next, rest⟩) : Contained tree next rest :=
  fun walker reached => contained walker (.head step reached)

/-- Contained moves before moves that only go down, which is all a walk has to do. -/
def Walker.Safe (tree : FileTree Name) (walker : Walker Name) : Prop :=
  ∃ directory moves, ∃ names : List Name, walker = ⟨.inside directory, moves ++ names.map .down⟩ ∧
    Contained tree directory moves

theorem Walker.Safe.step (links : LinksContained tree) {walker next : Walker Name}
    (safe : walker.Safe tree) (step : Step tree walker next) : next.Safe tree := by
  obtain ⟨directory, moves, names, rfl, contained⟩ := safe
  cases moves with
  | nil =>
    -- The contained moves are used up: the walk goes down by a name of the path.
    cases names with
    | nil => cases step
    | cons name names =>
      cases step with
      | enter _ _ _ found => exact ⟨_, [], names, rfl, Contained.nil tree _⟩
      | follow _ _ _ target found => exact ⟨directory, target, names, rfl, links directory name target found⟩
  | cons move moves =>
    cases step with
    | stay => exact ⟨directory, moves, names, rfl, contained.step (.stay directory moves)⟩
    | climb next name => exact ⟨next, moves, names, rfl, contained.step (.climb next name moves)⟩
    | leave => exact absurd rfl (contained _ (.single (.leave moves)))
    | enter _ name _ found =>
      exact ⟨_, moves, names, rfl, contained.step (.enter directory name moves found)⟩
    | follow _ name _ target found =>
      refine ⟨directory, target ++ moves, names, ?_, contained.step (.follow directory name moves target found)⟩
      rw [List.append_assoc]
      rfl

/-- In a tree whose links are contained, no path of names leads outside. -/
theorem names_contained (links : LinksContained tree) (names : List Name) : Contained tree [] (names.map .down) := by
  intro walker reached
  have safe : walker.Safe tree := by
    induction reached with
    | refl => exact ⟨[], [], names, rfl, Contained.nil tree []⟩
    | tail _ step ih => exact ih.step links step
  obtain ⟨directory, moves, names, rfl, -⟩ := safe
  simp

end Circulusd.Resolution
