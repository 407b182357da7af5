import Circulusd.Library.Checked

namespace Circulusd.Journal

open Checked List

variable {ε α β : Type}

/-- Each entry of the journal stands in the relation to the entries before it. -/
def EachPrior (holds : List α → α → Prop) (entries : List α) : Prop :=
  ∀ before entry after, entries = before ++ entry :: after → holds before entry

section

variable (holds : List α → α → Prop)
include holds

@[simp]
theorem eachPrior_nil : EachPrior holds [] := by
  intro before entry after equal
  simp at equal

theorem eachPrior_append (first second : List α) : EachPrior holds (first ++ second) ↔
      EachPrior holds first ∧ EachPrior (fun before entry => holds (first ++ before) entry) second := by
  constructor
  · intro each
    refine ⟨fun before entry after equal => ?_, fun before entry after equal => ?_⟩
    · exact each before entry (after ++ second) (by simp [equal])
    · exact each (first ++ before) entry after (by simp [equal])
  · rintro ⟨left, right⟩ before entry after equal
    rcases append_eq_append_iff.1 equal with ⟨middle, equalBefore, equalSecond⟩ | ⟨middle, equalFirst, equalAfter⟩
    · rw [equalBefore]
      exact right middle entry after equalSecond
    · cases middle with
      | nil =>
        simp only [nil_append] at equalAfter
        have holdsHere := right [] entry after (by simp [equalAfter])
        simpa [equalFirst] using holdsHere
      | cons head tail =>
        obtain ⟨rfl, rfl⟩ := List.cons.inj equalAfter
        exact left before entry tail equalFirst

@[simp]
theorem eachPrior_singleton (entry : α) : EachPrior holds [entry] ↔ holds [] entry := by
  constructor
  · intro each
    exact each [] entry [] rfl
  · intro first before other after equal
    cases before with
    | nil =>
      obtain ⟨rfl, -⟩ := List.cons.inj equal
      exact first
    | cons head tail => simp at equal

/-- Appending one entry leaves the earlier entries alone. -/
theorem eachPrior_concat (entries : List α) (entry : α) :
    EachPrior holds (entries ++ [entry]) ↔ EachPrior holds entries ∧ holds entries entry := by
  rw [eachPrior_append]
  simp

end

theorem EachPrior.imp {holds weaker : List α → α → Prop} {entries : List α} (each : EachPrior holds entries)
    (implies : ∀ before entry after, entries = before ++ entry :: after → holds before entry → weaker before entry) :
    EachPrior weaker entries := by
  intro before entry after equal
  exact implies before entry after equal (each before entry after equal)

/-- A relation that does not read the earlier entries is a property of every member. -/
theorem eachPrior_forall_mem (holds : α → Prop) (entries : List α) :
    EachPrior (fun _ entry => holds entry) entries ↔ ∀ entry ∈ entries, holds entry := by
  constructor
  · intro each entry member
    obtain ⟨before, after, equal⟩ := append_of_mem member
    exact each before entry after equal
  · intro each before entry after equal
    exact each entry (by simp [equal])

theorem eachPrior_and (first second : List α → α → Prop) (entries : List α) :
    EachPrior (fun before entry => first before entry ∧ second before entry) entries ↔
      EachPrior first entries ∧ EachPrior second entries := by
  constructor
  · intro each
    exact ⟨fun before entry after equal => (each before entry after equal).1,
      fun before entry after equal => (each before entry after equal).2⟩
  · rintro ⟨left, right⟩ before entry after equal
    exact ⟨left before entry after equal, right before entry after equal⟩

/-- Distinct keys mean that no entry repeats the key of an earlier one. -/
theorem eachPrior_fresh_iff_nodup (key : α → β) (entries : List α) :
    EachPrior (fun before entry => ∀ earlier ∈ before, key earlier ≠ key entry) entries ↔ (entries.map key).Nodup := by
  induction entries using List.reverseRecOn with
  | nil => simp
  | append_singleton entries entry ih =>
    rw [eachPrior_concat, ih, map_append, nodup_append]
    simp

theorem forEachPrior_ok_iff_eachPrior (check : List α → α → Except ε Unit) (entries : List α) (result : Unit) :
    forEachPrior check entries = .ok result ↔ EachPrior (fun before entry => check before entry = .ok ()) entries :=
  forEachPrior_ok_iff ..

/-- A set built in insertion order has no duplicates. -/
theorem nodup_eraseDups [DecidableEq α] (entries : List α) : entries.eraseDups.Nodup := by
  -- The rest is filtered before the recursion, so the induction is on the length.
  induction size : entries.length using Nat.strong_induction_on generalizing entries with
  | _ size ih =>
    cases entries with
    | nil => simp
    | cons first rest =>
      rw [eraseDups_cons, nodup_cons]
      constructor
      · simp
      · have shorter := length_filter_le (fun other => !other == first) rest
        exact ih _ (by rw [← size, length_cons]; omega) _ rfl

end Circulusd.Journal
