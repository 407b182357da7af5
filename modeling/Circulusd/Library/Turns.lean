import Mathlib.Data.Finset.Card
import Mathlib.Data.Finset.Insert

/-
Turns at named gates. A gate is made when its first user joins and forgotten when its last user leaves,
so one key may have several gates over time.
-/

namespace Circulusd.Turns

open Function

structure Gate where
  taken : Bool
  users : Nat
deriving DecidableEq

/-- The gates made so far are those below the next number; the entry of a key is its current gate. -/
structure Gates (Key : Type) where
  next : Nat
  gate : Nat → Gate
  entry : Key → Option Nat

/-- Where a caller stands: it waits for its turn, holds it, or gave it back and is still counted. -/
inductive Position (Key : Type) where
  | outside
  | waiting (key : Key) (gate : Nat)
  | holding (key : Key) (gate : Nat)
  | leaving (key : Key) (gate : Nat)

variable {Key Caller : Type}

/-- The gate that counts a caller, with its key. -/
def Position.reference : Position Key → Option (Key × Nat)
  | .outside => none
  | .waiting key gate | .holding key gate | .leaving key gate => some (key, gate)

def initial : Gates Key where
  next := 0
  gate _ := ⟨false, 0⟩
  entry _ := none

/-- The gate that a caller joins. -/
def Gates.target (gates : Gates Key) (key : Key) : Nat :=
  (gates.entry key).getD gates.next

/-- A caller is counted before it has its turn. -/
def Gates.join [DecidableEq Key] (gates : Gates Key) (key : Key) : Gates Key where
  next := if (gates.entry key).isSome then gates.next else gates.next + 1
  gate := update gates.gate (gates.target key)
    { gates.gate (gates.target key) with users := (gates.gate (gates.target key)).users + 1 }
  entry := update gates.entry key (some (gates.target key))

def Gates.take (gates : Gates Key) (gate : Nat) : Gates Key :=
  { gates with gate := update gates.gate gate { gates.gate gate with taken := true } }

def Gates.give (gates : Gates Key) (gate : Nat) : Gates Key :=
  { gates with gate := update gates.gate gate { gates.gate gate with taken := false } }

/-- The last user takes the entry away. -/
def Gates.leave [DecidableEq Key] (gates : Gates Key) (key : Key) (gate : Nat) : Gates Key where
  next := gates.next
  gate := update gates.gate gate { gates.gate gate with users := (gates.gate gate).users - 1 }
  entry := if (gates.gate gate).users - 1 = 0 then update gates.entry key none else gates.entry

/-- The gates agree with where the callers stand. -/
structure Sound (gates : Gates Key) (position : Caller → Position Key) : Prop where
  entered : ∀ caller key gate, (position caller).reference = some (key, gate) → gates.entry key = some gate
  counted : ∀ gate, ∃ members : Finset Caller, (gates.gate gate).users = members.card ∧
    ∀ caller, caller ∈ members ↔ ∃ key, (position caller).reference = some (key, gate)
  taken : ∀ gate, (gates.gate gate).taken = true ↔ ∃ caller key, position caller = .holding key gate
  single : ∀ first second key other gate, position first = .holding key gate →
    position second = .holding other gate → first = second
  known : ∀ key gate, gates.entry key = some gate → gate < gates.next
  fresh : ∀ gate, gates.next ≤ gate → gates.gate gate = ⟨false, 0⟩

theorem initial_sound : Sound (initial : Gates Key) (fun _ : Caller => .outside) where
  entered _ _ _ reference := by cases reference
  counted _ := ⟨∅, rfl, by simp [Position.reference]⟩
  taken _ := by simp [initial]
  single _ _ _ _ _ first := by cases first
  known _ _ entry := by cases entry
  fresh _ _ := rfl

/-- At most one caller holds the turn of a key. -/
theorem Sound.exclusive {gates : Gates Key} {position : Caller → Position Key} (sound : Sound gates position)
    {first second : Caller} {key : Key} {gate other : Nat} (one : position first = .holding key gate)
    (two : position second = .holding key other) : first = second := by
  have here := sound.entered first key gate (by rw [one]; rfl)
  have there := sound.entered second key other (by rw [two]; rfl)
  cases here.symm.trans there
  exact sound.single first second key key gate one two

section Moves

variable [DecidableEq Caller] {gates : Gates Key} {position : Caller → Position Key} {caller : Caller}
  {key : Key} {gate : Nat}

/-- A caller that is counted by the same gate as before leaves the counts. -/
theorem counted_of_reference (counted : ∃ members : Finset Caller, (gates.gate gate).users = members.card ∧
      ∀ caller, caller ∈ members ↔ ∃ key, (position caller).reference = some (key, gate))
    {users : Nat} (same : users = (gates.gate gate).users) {next : Position Key}
    (reference : next.reference = (position caller).reference) :
    ∃ members : Finset Caller, users = members.card ∧ ∀ other, other ∈ members ↔
      ∃ key, (update position caller next other).reference = some (key, gate) := by
  obtain ⟨members, card, mem⟩ := counted
  refine ⟨members, same.trans card, fun other => ?_⟩
  rw [mem other]
  by_cases equal : other = caller
  · subst equal
    rw [update_self, reference]
  · rw [update_of_ne equal]

theorem entered_of_reference (sound : Sound gates position) {next : Position Key}
    (reference : next.reference = (position caller).reference) (other : Caller) (key : Key) (gate : Nat)
    (counted : (update position caller next other).reference = some (key, gate)) :
    gates.entry key = some gate := by
  by_cases equal : other = caller
  · subst equal
    rw [update_self, reference] at counted
    exact sound.entered other key gate counted
  · rw [update_of_ne equal] at counted
    exact sound.entered other key gate counted

theorem Sound.take (sound : Sound gates position) (waiting : position caller = .waiting key gate)
    (free : (gates.gate gate).taken = false) :
    Sound (gates.take gate) (update position caller (.holding key gate)) := by
  have reference : (Position.holding key gate).reference = (position caller).reference := by
    rw [waiting]
    rfl
  have below := sound.known key gate (sound.entered caller key gate (by rw [waiting]; rfl))
  have users (other : Nat) : ((gates.take gate).gate other).users = (gates.gate other).users := by
    simp only [Gates.take, update_apply]
    split <;> simp [*]
  have turns := sound.taken
  have single := sound.single
  have fresh := sound.fresh
  refine ⟨entered_of_reference sound reference, fun other => counted_of_reference (sound.counted other) (users other)
    reference, ?_, ?_, sound.known, ?_⟩
  -- Nobody held the turn of this gate, so its holder is the caller alone.
  · simp only [Gates.take, update_apply]
    grind
  · simp only [update_apply]
    grind
  · simp only [Gates.take, update_apply]
    grind

theorem Sound.give (sound : Sound gates position) (holding : position caller = .holding key gate) :
    Sound (gates.give gate) (update position caller (.leaving key gate)) := by
  have reference : (Position.leaving key gate).reference = (position caller).reference := by
    rw [holding]
    rfl
  have below := sound.known key gate (sound.entered caller key gate (by rw [holding]; rfl))
  have users (other : Nat) : ((gates.give gate).gate other).users = (gates.gate other).users := by
    simp only [Gates.give, update_apply]
    split <;> simp [*]
  have turns := sound.taken
  have single := sound.single
  have fresh := sound.fresh
  refine ⟨entered_of_reference sound reference, fun other => counted_of_reference (sound.counted other) (users other)
    reference, ?_, ?_, sound.known, ?_⟩
  -- Whoever still holds a turn held it before and is another caller.
  · simp only [Gates.give, update_apply]
    grind
  · simp only [update_apply]
    grind
  · simp only [Gates.give, update_apply]
    grind

section Entries

variable [DecidableEq Key]

/-- A caller that does not hold a turn may go; its gate forgets the key with the last user. -/
theorem Sound.leave (sound : Sound gates position) (reference : (position caller).reference = some (key, gate))
    (idle : ∀ place other, position caller ≠ .holding place other) :
    Sound (gates.leave key gate) (update position caller .outside) := by
  have entered := sound.entered
  have below := sound.known key gate (entered caller key gate reference)
  have counted (other : Caller) : (update position caller .outside other).reference =
      if other = caller then none else (position other).reference := by
    by_cases same : other = caller <;> simp [same, Position.reference]
  obtain ⟨members, card, mem⟩ := sound.counted gate
  have less : (gates.gate gate).users - 1 = (members.erase caller).card := by
    rw [card, Finset.card_erase_of_mem ((mem caller).mpr ⟨key, reference⟩)]
  refine ⟨?_, fun other => ?_, ?_, ?_, ?_, ?_⟩
  · intro other place number remains
    rw [counted] at remains
    -- Once nobody else is counted here, a caller that remains is at another key.
    have alone (last : (gates.gate gate).users - 1 = 0) (distinct : other ≠ caller) :
        (position other).reference ≠ some (key, gate) := by
      rw [less, Finset.card_eq_zero] at last
      intro here
      have member : other ∈ members.erase caller := Finset.mem_erase.mpr ⟨distinct, (mem other).mpr ⟨key, here⟩⟩
      simp [last] at member
    simp only [Gates.leave]
    grind [update_apply]
  · simp only [counted]
    by_cases equal : other = gate
    · refine ⟨members.erase caller, by simpa [Gates.leave, equal] using less, fun who => ?_⟩
      grind
    · obtain ⟨others, otherCard, otherMem⟩ := sound.counted other
      refine ⟨others, by simpa [Gates.leave, equal] using otherCard, fun who => ?_⟩
      grind
  · have turns := sound.taken
    simp only [Gates.leave, update_apply]
    grind
  · have single := sound.single
    simp only [update_apply]
    grind
  · have known := sound.known
    simp only [Gates.leave]
    grind [update_apply]
  · have fresh := sound.fresh
    simp only [Gates.leave, update_apply]
    grind

/-- A caller from outside joins the gate of a key. -/
theorem Sound.join (sound : Sound gates position) (outside : position caller = .outside) (key : Key) :
    Sound (gates.join key) (update position caller (.waiting key (gates.target key))) := by
  have reached : gates.target key < (gates.join key).next := by
    unfold Gates.target Gates.join
    cases entry : gates.entry key with
    | none => simp
    | some gate => simpa using sound.known key gate entry
  have grows : gates.next ≤ (gates.join key).next := by
    unfold Gates.join
    dsimp only
    split <;> omega
  have counted (other : Caller) : (update position caller (.waiting key (gates.target key)) other).reference =
      if other = caller then some (key, gates.target key) else (position other).reference := by
    by_cases same : other = caller <;> simp [same, Position.reference]
  have uncounted : (position caller).reference = none := by rw [outside]; rfl
  refine ⟨?_, fun other => ?_, ?_, ?_, ?_, ?_⟩
  · intro other place number joined
    have entered := sound.entered
    rw [counted] at joined
    simp only [Gates.join, update_apply]
    grind [Gates.target]
  · simp only [counted]
    obtain ⟨members, card, mem⟩ := sound.counted other
    have absent : caller ∉ members := by simp [mem caller, uncounted]
    by_cases equal : other = gates.target key
    · refine ⟨insert caller members, ?_, fun who => ?_⟩
      · simp [Gates.join, Finset.card_insert_of_notMem absent, ← card, equal]
      · grind
    · refine ⟨members, by simpa [Gates.join, equal] using card, fun who => ?_⟩
      grind
  · have turns := sound.taken
    simp only [Gates.join, update_apply]
    grind
  · have single := sound.single
    simp only [update_apply]
    grind
  · have known := sound.known
    intro place number entry
    simp only [Gates.join, update_apply] at entry
    grind
  · have fresh := sound.fresh
    intro other above
    simp only [Gates.join, update_apply]
    grind

end Entries

end Moves

end Circulusd.Turns
