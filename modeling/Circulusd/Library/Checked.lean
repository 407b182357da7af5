import Mathlib.Tactic

namespace Circulusd.Checked

open List

variable {ε α β : Type}

instance decidableEqExcept [DecidableEq ε] [DecidableEq α] : DecidableEq (Except ε α)
  | .ok first, .ok second =>
    if equal : first = second then .isTrue (by rw [equal])
    else .isFalse (fun same => equal (Except.ok.inj same))
  | .error first, .error second =>
    if equal : first = second then .isTrue (by rw [equal])
    else .isFalse (fun same => equal (Except.error.inj same))
  | .ok _, .error _ => .isFalse (by simp)
  | .error _, .ok _ => .isFalse (by simp)

/-- A refusal stops with its failure when the condition holds. -/
def refuseIf (condition : Prop) [Decidable condition] (failure : ε) : Except ε Unit :=
  if condition then .error failure else .ok ()

/-- A lookup that must succeed stops with its failure otherwise. -/
def require (value : Option α) (failure : ε) : Except ε α :=
  match value with
  | some found => .ok found
  | none => .error failure

/-- A part of a formatted text. The argument of a quoting verb stays apart, since its escapes are a
matter of the tables of the formatting library. -/
inductive Fragment where
  | text (text : String)
  | quoted (argument : String)
deriving DecidableEq

/-- The text of a refusal, as the format gives it. -/
abbrev Formatted := List Fragment

instance : Coe String Formatted where
  coe text := [.text text]

def quoted (argument : String) : Formatted :=
  [.quoted argument]

/-- This loop gives each entry together with the entries before it. -/
def forEachPriorFrom (check : List α → α → Except ε Unit) : List α → List α → Except ε Unit
  | _, [] => .ok ()
  | prior, entry :: rest => do
    check prior entry
    forEachPriorFrom check (prior ++ [entry]) rest

/-- The accumulators of a checking loop are functions of the prior entries. -/
def forEachPrior (check : List α → α → Except ε Unit) (entries : List α) : Except ε Unit :=
  forEachPriorFrom check [] entries

/-- This loop checks each entry on its own. -/
def forEach (check : α → Except ε Unit) : List α → Except ε Unit
  | [] => .ok ()
  | entry :: rest => do
    check entry
    forEach check rest

/-- A check without a value is a conjunct of the whole. -/
@[simp]
theorem exists_unit (property : Unit → Prop) : (∃ result, property result) ↔ property () :=
  ⟨fun ⟨(), holds⟩ => holds, fun holds => ⟨(), holds⟩⟩

@[simp]
theorem bind_ok (first : Except ε α) (next : α → Except ε β) (result : β) :
    (first >>= next) = .ok result ↔ ∃ value, first = .ok value ∧ next value = .ok result := by
  cases first with
  | error failure => simp [bind, Except.bind]
  | ok value => simp [bind, Except.bind]

@[simp]
theorem ok_bind (value : α) (next : α → Except ε β) : (Except.ok value >>= next) = next value := by
  -- As a rewrite step and not a definitional one, it never makes the kernel run the computation.
  simp only [bind, Except.bind]

@[simp]
theorem map_ok_iff (first : Except ε α) (next : α → β) (result : β) :
    (next <$> first) = .ok result ↔ ∃ value, first = .ok value ∧ next value = result := by
  cases first <;> simp [Functor.map, Except.map]

@[simp]
theorem pure_ok (value result : α) : (pure value : Except ε α) = .ok result ↔ value = result := by
  simp [pure, Except.pure]

theorem pair_ok {first first' : α} {second second' : β}
    (same : (pure (first, second) : Except ε (α × β)) = .ok (first', second')) : first = first' ∧ second = second' :=
  Prod.mk.inj (Except.ok.inj same)

@[simp]
theorem refuseIf_ok (condition : Prop) [Decidable condition] (failure : ε) (result : Unit) :
    refuseIf condition failure = .ok result ↔ ¬ condition := by
  unfold refuseIf
  split <;> simp [*]

@[simp]
theorem require_ok (value : Option α) (failure : ε) (result : α) :
    require value failure = .ok result ↔ value = some result := by
  cases value <;> simp [require]

@[simp]
theorem mapError_ok {ε φ α : Type} (change : ε → φ) (first : Except ε α) (result : α) :
    first.mapError change = .ok result ↔ first = .ok result := by
  cases first <;> simp [Except.mapError]

/-- What it means that a sequence of checks returned, as one set of rules for `simp only`. -/
theorem steps_ok :
    (∀ {ε α β : Type} (first : Except ε α) (next : α → Except ε β) (result : β),
      (first >>= next) = .ok result ↔ ∃ value, first = .ok value ∧ next value = .ok result) ∧
    (∀ property : Unit → Prop, (∃ result, property result) ↔ property ()) ∧
    (∀ {ε α : Type} (value result : α), (pure value : Except ε α) = .ok result ↔ value = result) ∧
    (∀ {ε : Type} (condition : Prop) [Decidable condition] (failure : ε) (result : Unit),
      refuseIf condition failure = .ok result ↔ ¬ condition) ∧
    (∀ {ε α : Type} (value : Option α) (failure : ε) (result : α),
      require value failure = .ok result ↔ value = some result) ∧
    (∀ {ε φ α : Type} (change : ε → φ) (first : Except ε α) (result : α),
      first.mapError change = .ok result ↔ first = .ok result) ∧
    (∀ {α : Type} (left right : α), left ≠ right ↔ ¬ left = right) ∧
    (∀ {α β : Type} (left left' : α) (right right' : β), (left, right) = (left', right') ↔ left = left' ∧ right = right') ∧
    ∀ condition : Prop, ¬ ¬ condition ↔ condition :=
  ⟨bind_ok, exists_unit, pure_ok, refuseIf_ok, require_ok, mapError_ok, fun _ _ => .rfl, fun _ _ _ _ => Prod.mk_inj, fun _ => not_not⟩

@[simp]
theorem forEach_ok_iff (check : α → Except ε Unit) (entries : List α) (result : Unit) :
    forEach check entries = .ok result ↔ ∀ entry ∈ entries, check entry = .ok () := by
  cases result
  induction entries with
  | nil => simp [forEach]
  | cons entry rest ih => simp [forEach, ih]

theorem forEachPriorFrom_ok_iff (check : List α → α → Except ε Unit) (prior entries : List α) :
    forEachPriorFrom check prior entries = .ok () ↔ ∀ before entry after, entries = before ++ entry :: after →
        check (prior ++ before) entry = .ok () := by
  induction entries generalizing prior with
  | nil =>
    simp only [forEachPriorFrom, true_iff]
    intro before entry after equal
    simp at equal
  | cons first rest ih =>
    simp only [forEachPriorFrom, bind_ok, ih]
    constructor
    · rintro ⟨⟨⟩, head, tail⟩ before entry after equal
      cases before with
      | nil =>
        obtain ⟨rfl, rfl⟩ := List.cons.inj equal
        simpa using head
      | cons second before =>
        obtain ⟨rfl, rfl⟩ := List.cons.inj equal
        simpa using tail before entry after rfl
    · intro each
      refine ⟨(), by simpa using each [] first rest rfl, ?_⟩
      intro before entry after equal
      simpa using each (first :: before) entry after (by simp [equal])

/-- The loop accepts when each entry passes against the entries before it. -/
theorem forEachPrior_ok_iff (check : List α → α → Except ε Unit) (entries : List α) (result : Unit) :
    forEachPrior check entries = .ok result ↔
      ∀ before entry after, entries = before ++ entry :: after → check before entry = .ok () := by
  cases result
  rw [forEachPrior, forEachPriorFrom_ok_iff]
  simp

/-- A mapping loop succeeds when each entry does, and keeps the order. -/
theorem mapM_ok_iff (next : α → Except ε β) (entries : List α) (results : List β) :
    entries.mapM next = .ok results ↔ List.Forall₂ (fun entry result => next entry = .ok result) entries results := by
  induction entries generalizing results with
  | nil =>
    rw [mapM_nil, pure_ok, forall₂_nil_left_iff]
    exact eq_comm
  | cons entry rest ih =>
    simp only [mapM_cons, bind_ok, pure_ok, ih, forall₂_cons_left_iff]
    constructor
    · rintro ⟨result, first, tail, others, rfl⟩
      exact ⟨result, tail, first, others, rfl⟩
    · rintro ⟨result, tail, first, others, rfl⟩
      exact ⟨result, first, tail, others, rfl⟩

/-- Each result of a pointwise relation has its source. -/
theorem exists_of_forall₂_mem {related : α → β → Prop} {sources : List α} {results : List β}
    (each : List.Forall₂ related sources results) {result : β} (member : result ∈ results) :
    ∃ source ∈ sources, related source result := by
  induction each with
  | nil => simp at member
  | cons first _ ih =>
    rcases mem_cons.mp member with rfl | later
    · exact ⟨_, mem_cons_self, first⟩
    · obtain ⟨source, present, holds⟩ := ih later
      exact ⟨source, mem_cons_of_mem _ present, holds⟩

/-- What every step of an accumulating loop keeps, the whole loop keeps. -/
theorem foldlM_ok_relation (relation : β → β → Prop) (next : β → α → Except ε β) (refl : ∀ value, relation value value)
    (trans : ∀ first second third, relation first second → relation second third → relation first third)
    (step : ∀ before entry after, next before entry = .ok after → relation after before)
    (entries : List α) (initial final : β) (ok : entries.foldlM next initial = .ok final) :
    relation final initial := by
  induction entries generalizing initial with
  | nil =>
    rw [foldlM_nil, pure_ok] at ok
    exact ok ▸ refl initial
  | cons entry rest ih =>
    rw [foldlM_cons, bind_ok] at ok
    obtain ⟨middle, first, others⟩ := ok
    exact trans final middle initial (ih middle others) (step initial entry middle first)

end Circulusd.Checked
