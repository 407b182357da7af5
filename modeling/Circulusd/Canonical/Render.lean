import Circulusd.Canonical.Cbor
import Mathlib.Data.UInt

/-
What the encoder writes for a value, apart from its limits, and that no two values are written alike.
-/

namespace Circulusd.Canonical

open Platform Protocol List

section Heads

theorem bigEndian_length (width value : Nat) : (bigEndian width value).length = width := by
  induction width with
  | zero => rfl
  | succ width ih => simp [bigEndian, ih]

theorem ofNat_inj_mod {left right : Nat} (same : UInt8.ofNat left = UInt8.ofNat right) : left % 256 = right % 256 := by
  have values := congrArg UInt8.toNat same
  simpa using values

/-- The low bits of the first byte, and the number of bytes after it. -/
theorem headBytes_eq (major value : Nat) :
    ∃ code width, headBytes major value = UInt8.ofNat (major * 32 + code) :: bigEndian width value ∧
      code < 28 ∧ width = if code < 24 then 0 else 2 ^ (code - 24) := by
  unfold headBytes
  split_ifs with tiny
  · exact ⟨value, 0, rfl, by omega, by simp [tiny]⟩
  · exact ⟨24, 1, rfl, by omega, by simp⟩
  · exact ⟨25, 2, rfl, by omega, by simp⟩
  · exact ⟨26, 4, rfl, by omega, by simp⟩
  · exact ⟨27, 8, rfl, by omega, by simp⟩

theorem headBytes_length_le (major value : Nat) : (headBytes major value).length ≤ 9 := by
  unfold headBytes
  split_ifs <;> simp [bigEndian_length]

theorem headBytes_append_injective {major left right : Nat} {front back : Bytes}
    (same : headBytes major left ++ front = headBytes major right ++ back) : front = back := by
  obtain ⟨code, width, spelled, bound, wide⟩ := headBytes_eq major left
  obtain ⟨code', width', spelled', bound', wide'⟩ := headBytes_eq major right
  rw [spelled, spelled', cons_append, cons_append] at same
  obtain ⟨first, rest⟩ := List.cons.inj same
  have bytes := ofNat_inj_mod first
  obtain rfl : code = code' := by omega
  obtain rfl : width = width' := wide.trans wide'.symm
  exact (append_inj rest (by rw [bigEndian_length, bigEndian_length])).2

end Heads

theorem utf8_injective {left right : String} (same : utf8 left = utf8 right) : left = right := by
  unfold utf8 at same
  have arrays := Array.toList_inj.mp same
  exact String.toByteArray_inj.mp (ByteArray.ext arrays)

theorem utf8_length (text : String) : (utf8 text).length = text.utf8ByteSize := by
  unfold utf8
  rfl

mutual

/-- The bytes of a value whose texts are normalized and whose maps are sorted. -/
def Value.render : Value → Bytes
  | .null => [0xf6]
  | .bool value => [if value then 0xf5 else 0xf4]
  | .text value => headBytes 3 (utf8 value).length ++ utf8 value
  | .bytes value => headBytes 2 value.length ++ value
  | .integer value => if 0 ≤ value then headBytes 0 value.toNat else headBytes 1 (-1 - value).toNat
  | .array items => headBytes 4 items.length ++ Value.renderItems items
  | .map entries => headBytes 5 entries.length ++ Value.renderEntries entries

def Value.renderItems : List Value → Bytes
  | [] => []
  | item :: rest => item.render ++ Value.renderItems rest

def Value.renderEntries : List (String × Value) → Bytes
  | [] => []
  | (key, value) :: rest => (Value.text key).render ++ value.render ++ Value.renderEntries rest

end

/-- Arrays and maps may assume the statement for every value inside. -/
@[elab_as_elim, induction_eliminator]
theorem Value.nestedInduction {motive : Value → Prop} (null : motive .null) (bool : ∀ value, motive (.bool value))
    (text : ∀ value, motive (.text value)) (bytes : ∀ value, motive (.bytes value))
    (integer : ∀ value, motive (.integer value))
    (array : ∀ items, (∀ item ∈ items, motive item) → motive (.array items))
    (map : ∀ entries, (∀ entry ∈ entries, motive entry.2) → motive (.map entries)) (value : Value) : motive value := by
  refine @Value.rec motive (fun items => ∀ item ∈ items, motive item)
    (fun entries => ∀ entry ∈ entries, motive entry.2) (fun entry => motive entry.2) null bool text bytes integer
    array map ?_ ?_ ?_ ?_ ?_ value
  · exact nofun
  · exact fun item rest first others => forall_mem_cons.mpr ⟨first, others⟩
  · exact nofun
  · exact fun entry rest first others => forall_mem_cons.mpr ⟨first, others⟩
  · exact fun key value holds => holds

/-- The entries of a map stand in the order of their encoded keys. -/
def EntryBefore (left right : String × Value) : Prop :=
  KeyBefore (Value.text left.1).render (Value.text right.1).render
deriving Decidable

mutual

/-- The value with its texts normalized and its maps sorted. -/
def Value.normalize (normalizer : Normalizer) : Value → Value
  | .text value => .text (normalizer.nfc value)
  | .array items => .array (Value.normalizeItems normalizer items)
  | .map entries => .map ((Value.normalizeEntries normalizer entries).insertionSort EntryBefore)
  | .null => .null
  | .bool value => .bool value
  | .bytes value => .bytes value
  | .integer value => .integer value

def Value.normalizeItems (normalizer : Normalizer) : List Value → List Value
  | [] => []
  | item :: rest => item.normalize normalizer :: Value.normalizeItems normalizer rest

def Value.normalizeEntries (normalizer : Normalizer) : List (String × Value) → List (String × Value)
  | [] => []
  | (key, value) :: rest =>
    (normalizer.nfc key, value.normalize normalizer) :: Value.normalizeEntries normalizer rest

end

section Lists

variable {normalizer : Normalizer}

theorem renderItems_eq (values : List Value) : Value.renderItems values = values.flatMap Value.render := by
  induction values with
  | nil => rw [Value.renderItems]; rfl
  | cons value rest ih => rw [Value.renderItems, ih, flatMap_cons]

theorem renderEntries_eq (entries : List (String × Value)) :
    Value.renderEntries entries = entries.flatMap fun entry => (Value.text entry.1).render ++ entry.2.render := by
  induction entries with
  | nil => rw [Value.renderEntries]; rfl
  | cons entry rest ih =>
    obtain ⟨key, value⟩ := entry
    rw [Value.renderEntries, ih, flatMap_cons]

theorem normalizeItems_eq (values : List Value) :
    Value.normalizeItems normalizer values = values.map (Value.normalize normalizer) := by
  induction values with
  | nil => rw [Value.normalizeItems]; rfl
  | cons value rest ih => rw [Value.normalizeItems, ih, map_cons]

theorem normalizeEntries_eq (entries : List (String × Value)) : Value.normalizeEntries normalizer entries =
    entries.map fun entry => (normalizer.nfc entry.1, entry.2.normalize normalizer) := by
  induction entries with
  | nil => rw [Value.normalizeEntries]; rfl
  | cons entry rest ih =>
    obtain ⟨key, value⟩ := entry
    rw [Value.normalizeEntries, ih, map_cons]

end Lists

section Digests

theorem hexCharacter_injective {left right : Nat} (leftSmall : left < 16) (rightSmall : right < 16)
    (same : hexCharacter left = hexCharacter right) : left = right := by
  interval_cases left <;> interval_cases right <;> first | rfl | cases same

theorem hexText_injective {left right : Bytes} (same : hexText left = hexText right) : left = right := by
  have digits := String.ofList_injective same
  clear same
  induction left generalizing right with
  | nil =>
    cases right with
    | nil => rfl
    | cons => cases digits
  | cons first rest ih =>
    cases right with
    | nil => cases digits
    | cons other others =>
      simp only [flatMap_cons, cons_append, nil_append, List.cons.injEq] at digits
      obtain ⟨high, low, tails⟩ := digits
      have bound := first.toNat_lt
      have bound' := other.toNat_lt
      have upper := hexCharacter_injective (by omega) (by omega) high
      have lower := hexCharacter_injective (by omega) (by omega) low
      rw [ih tails, UInt8.toNat_inj.mp (show first.toNat = other.toNat by omega)]

end Digests

end Circulusd.Canonical
