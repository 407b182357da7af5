import Mathlib.Logic.Function.Basic

/-
Key-value stores, the writes of a transaction and their frame rules.
-/

namespace Circulusd.KeyValue

open List

/-- A store gives the value of each key that is present. -/
abbrev Store (Key Value : Type) := Key → Option Value

inductive Mutation (Key Value : Type) where
  | put (key : Key) (value : Value)
  | delete (key : Key)

variable {Key Value : Type}

def Mutation.key : Mutation Key Value → Key
  | .put key _ => key
  | .delete key => key

/-- A deletion leaves no value. -/
def Mutation.value : Mutation Key Value → Option Value
  | .put _ value => some value
  | .delete _ => none

variable [DecidableEq Key]

def write (store : Store Key Value) (mutation : Mutation Key Value) : Store Key Value :=
  Function.update store mutation.key mutation.value

/-- A value of an updated store is the new one at its key, or stood there before. -/
theorem update_eq_some {store : Store Key Value} {key other : Key} {value found : Value}
    (present : Function.update store key (some value) other = some found) :
    other = key ∧ value = found ∨ other ≠ key ∧ store other = some found := by
  by_cases same : other = key
  · subst same
    exact .inl ⟨rfl, by simpa using present⟩
  · exact .inr ⟨same, by rwa [Function.update_of_ne same] at present⟩

/-- The writes of a transaction take effect in order. -/
def writeAll (store : Store Key Value) (mutations : List (Mutation Key Value)) : Store Key Value :=
  mutations.foldl write store

theorem writeAll_append (store : Store Key Value) (first second : List (Mutation Key Value)) :
    writeAll store (first ++ second) = writeAll (writeAll store first) second :=
  foldl_append

/-- A transaction keeps every key that it does not name. -/
theorem writeAll_untouched (store : Store Key Value) (mutations : List (Mutation Key Value)) (key : Key)
    (untouched : ∀ mutation ∈ mutations, mutation.key ≠ key) :
    writeAll store mutations key = store key := by
  induction mutations generalizing store with
  | nil => rfl
  | cons mutation rest ih =>
    have tail := ih (write store mutation) fun other member =>
      untouched other (mem_cons_of_mem mutation member)
    have distinct := untouched mutation mem_cons_self
    calc writeAll store (mutation :: rest) key = writeAll (write store mutation) rest key := rfl
      _ = write store mutation key := tail
      _ = store key := Function.update_of_ne distinct.symm _ _

/-- A key has the value of its last write. -/
theorem writeAll_put (store : Store Key Value) (before after : List (Mutation Key Value)) (key : Key)
    (value : Value) (untouched : ∀ mutation ∈ after, mutation.key ≠ key) :
    writeAll store (before ++ .put key value :: after) key = some value := by
  rw [writeAll_append, ← singleton_append, writeAll_append, writeAll_untouched _ after key untouched]
  exact Function.update_self _ _ _

/-- Of several values under different keys each is there afterwards. -/
theorem writeAll_puts {Index : Type} (store : Store Key Value) (key : Index → Key) (value : Index → Value)
    (injective : Function.Injective key) {indices : List Index} (distinct : indices.Nodup) {index : Index}
    (member : index ∈ indices) :
    writeAll store (indices.map fun index => .put (key index) (value index)) (key index) = some (value index) := by
  obtain ⟨before, after, rfl⟩ := append_of_mem member
  have absent : index ∉ after := (nodup_cons.mp (nodup_append.mp distinct).2.1).1
  rw [map_append, map_cons]
  refine writeAll_put _ _ _ _ _ fun mutation later => ?_
  obtain ⟨other, there, rfl⟩ := mem_map.mp later
  intro same
  exact absent (injective same ▸ there)

end Circulusd.KeyValue
