import Circulusd.Canonical.Wire

/-
What is written of a regular value, the TypeScript decoder reads back, and it reads nothing else.
-/

namespace Circulusd.Canonical

open Platform Protocol Value List Option Prod

section Order

instance : Std.Total KeyBefore where
  total left right := by
    unfold KeyBefore
    rcases Nat.lt_trichotomy left.length right.length with less | equal | more
    · exact .inl (.inl less)
    · rcases List.le_total left right with before | after
      · exact .inl (.inr ⟨equal, before⟩)
      · exact .inr (.inr ⟨equal.symm, after⟩)
    · exact .inr (.inl more)

instance : IsTrans Bytes KeyBefore where
  trans first second third one two := by
    unfold KeyBefore at *
    rcases one with less | ⟨equal, before⟩
    · rcases two with less' | ⟨equal', -⟩
      · exact .inl (less.trans less')
      · exact .inl (equal' ▸ less)
    · rcases two with less' | ⟨equal', before'⟩
      · exact .inl (equal ▸ less')
      · exact .inr ⟨equal.trans equal', List.le_trans before before'⟩

theorem KeyBefore.antisymm {left right : Bytes} (one : KeyBefore left right) (two : KeyBefore right left) :
    left = right := by
  unfold KeyBefore at one two
  rcases one with less | ⟨equal, before⟩
  · rcases two with less' | ⟨equal, -⟩ <;> omega
  · rcases two with less' | ⟨-, after⟩
    · omega
    · exact List.le_antisymm before after

instance : Std.Total EntryBefore := ⟨fun _ _ => Std.Total.total (r := KeyBefore) _ _⟩

instance : IsTrans (String × Value) EntryBefore := ⟨fun _ _ _ one two => IsTrans.trans (r := KeyBefore) _ _ _ one two⟩

end Order

mutual

/-- A value as the decoder gives it: composed texts, safe integers, maps in strict order. -/
def Value.Regular (normalizer : Normalizer) : Value → Prop
  | .null | .bool _ | .bytes _ => True
  | .text value => normalizer.nfc value = value
  | .integer value => value.natAbs ≤ maxSafeInteger
  | .array values => Value.RegularItems normalizer values
  | .map entries =>
    entries.Pairwise (fun left right => ¬ EntryBefore right left) ∧ Value.RegularEntries normalizer entries

def Value.RegularItems (normalizer : Normalizer) : List Value → Prop
  | [] => True
  | value :: rest => value.Regular normalizer ∧ Value.RegularItems normalizer rest

def Value.RegularEntries (normalizer : Normalizer) : List (String × Value) → Prop
  | [] => True
  | (key, value) :: rest =>
    (normalizer.nfc key = key ∧ value.Regular normalizer) ∧ Value.RegularEntries normalizer rest

/-- The value fits in so many levels. -/
def Value.Within : Value → Nat → Prop
  | .null, levels | .bool _, levels | .bytes _, levels | .text _, levels | .integer _, levels => 0 < levels
  | .array values, levels => 0 < levels ∧ Value.WithinItems values (levels - 1)
  | .map entries, levels => 0 < levels ∧ Value.WithinEntries entries (levels - 1)

def Value.WithinItems : List Value → Nat → Prop
  | [], _ => True
  | value :: rest, levels => value.Within levels ∧ Value.WithinItems rest levels

def Value.WithinEntries : List (String × Value) → Nat → Prop
  | [], _ => True
  | (_, value) :: rest, levels => value.Within levels ∧ Value.WithinEntries rest levels

/-- The items of a value; the keys of a map count. -/
def Value.count : Value → Nat
  | .null | .bool _ | .bytes _ | .text _ | .integer _ => 1
  | .array values => 1 + Value.countItems values
  | .map entries => 1 + Value.countEntries entries

def Value.countItems : List Value → Nat
  | [] => 0
  | value :: rest => value.count + Value.countItems rest

def Value.countEntries : List (String × Value) → Nat
  | [] => 0
  | (_, value) :: rest => 1 + value.count + Value.countEntries rest

end

section Lists

variable {normalizer : Normalizer} {values : List Value} {entries : List (String × Value)} {levels : Nat}

theorem regularItems_iff : RegularItems normalizer values ↔ ∀ value ∈ values, value.Regular normalizer := by
  induction values with
  | nil => simp [RegularItems]
  | cons value rest ih => rw [RegularItems, ih, forall_mem_cons]

theorem regularEntries_iff : RegularEntries normalizer entries ↔
    ∀ entry ∈ entries, normalizer.nfc entry.1 = entry.1 ∧ entry.2.Regular normalizer := by
  induction entries with
  | nil => simp [RegularEntries]
  | cons entry rest ih =>
    obtain ⟨key, value⟩ := entry
    rw [RegularEntries, ih, forall_mem_cons]

theorem withinItems_iff : WithinItems values levels ↔ ∀ value ∈ values, value.Within levels := by
  induction values with
  | nil => simp [WithinItems]
  | cons value rest ih => rw [WithinItems, ih, forall_mem_cons]

theorem withinEntries_iff : WithinEntries entries levels ↔ ∀ entry ∈ entries, entry.2.Within levels := by
  induction entries with
  | nil => simp [WithinEntries]
  | cons entry rest ih =>
    obtain ⟨key, value⟩ := entry
    rw [WithinEntries, ih, forall_mem_cons]

theorem Value.Within.pos {value : Value} (within : value.Within levels) : 0 < levels := by
  cases value <;> rw [Value.Within] at within <;> omega

theorem countItems_eq (values : List Value) : countItems values = (values.map Value.count).sum := by
  induction values with
  | nil => rw [countItems]; rfl
  | cons value rest ih => rw [countItems, ih, map_cons, sum_cons]

theorem countEntries_eq (entries : List (String × Value)) :
    countEntries entries = (entries.map fun entry => 1 + entry.2.count).sum := by
  induction entries with
  | nil => rw [countEntries]; rfl
  | cons entry rest ih =>
    obtain ⟨key, value⟩ := entry
    rw [countEntries, ih, map_cons, sum_cons]

theorem length_le_of_mem {value : Value} (member : value ∈ values) :
    value.render.length ≤ (renderItems values).length := by
  rw [renderItems_eq]
  exact (sublist_flatten_of_mem (mem_map_of_mem member)).length_le

theorem length_le_of_mem_entries {entry : String × Value} (member : entry ∈ entries) :
    (Value.text entry.1).render.length + entry.2.render.length ≤ (renderEntries entries).length := by
  rw [renderEntries_eq, ← length_append]
  have inside := mem_map_of_mem (f := fun entry : String × Value => (Value.text entry.1).render ++ entry.2.render)
    member
  exact (sublist_flatten_of_mem inside).length_le

theorem render_pos (value : Value) : 0 < value.render.length := by
  have positive (major number : Nat) : 0 < (headBytes major number).length := by
    unfold headBytes
    split_ifs <;> simp
  cases value with
  | null | bool => rw [render]; simp
  | integer =>
    rw [render]
    split
    case isTrue | isFalse => exact positive _ _
  | text | bytes | array | map =>
    rw [render, length_append]
    exact Nat.add_pos_left (positive _ _) _

theorem count_pos (value : Value) : 0 < value.count := by
  cases value <;> rw [Value.count] <;> omega

theorem length_le_renderItems (values : List Value) : values.length ≤ (renderItems values).length := by
  induction values with
  | nil => simp
  | cons value rest ih =>
    have first := render_pos value
    rw [renderItems, length_append, length_cons]
    omega

theorem length_le_renderEntries (entries : List (String × Value)) :
    entries.length * 2 ≤ (renderEntries entries).length := by
  induction entries with
  | nil => simp
  | cons entry rest ih =>
    obtain ⟨key, value⟩ := entry
    have first := render_pos (.text key)
    have second := render_pos value
    rw [renderEntries, length_append, length_append, length_cons]
    omega

theorem length_le_countItems (values : List Value) : values.length ≤ countItems values := by
  induction values with
  | nil => simp
  | cons value rest ih =>
    have first := count_pos value
    rw [countItems, length_cons]
    omega

theorem length_le_countEntries (entries : List (String × Value)) : entries.length * 2 ≤ countEntries entries := by
  induction entries with
  | nil => simp
  | cons entry rest ih =>
    obtain ⟨key, value⟩ := entry
    have first := count_pos value
    rw [countEntries, length_cons]
    omega

end Lists

section Heads

theorem unsigned_cons (byte : UInt8) (rest : Bytes) :
    unsigned (byte :: rest) = byte.toNat * 256 ^ rest.length + unsigned rest := by
  have general (bytes : Bytes) (start : Nat) : bytes.foldl (fun value byte => value * 256 + byte.toNat) start =
      start * 256 ^ bytes.length + unsigned bytes := by
    induction bytes generalizing start with
    | nil => simp [unsigned]
    | cons byte bytes ih =>
      rw [unsigned, foldl_cons, foldl_cons, ih, ih, length_cons, pow_succ]
      ring
  rw [unsigned, foldl_cons, general]
  simp

/-- The digits of a number give it back. -/
theorem unsigned_bigEndian (width value : Nat) : unsigned (bigEndian width value) = value % 256 ^ width := by
  induction width with
  | zero => simp [bigEndian, unsigned, Nat.mod_one]
  | succ width ih =>
    rw [bigEndian, unsigned_cons, ih, bigEndian_length, UInt8.toNat_ofNat', pow_succ 256 width, Nat.mod_mul]
    ring

theorem unsigned_lt (bytes : Bytes) : unsigned bytes < 256 ^ bytes.length := by
  induction bytes with
  | nil => simp [unsigned]
  | cons byte rest ih =>
    have bound := byte.toNat_lt
    rw [unsigned_cons, length_cons, pow_succ]
    nlinarith

theorem bigEndian_mul_add (width high low : Nat) :
    bigEndian width (high * 256 ^ width + low) = bigEndian width low := by
  induction width generalizing high with
  | zero => rfl
  | succ width ih =>
    have shifted : high * 256 ^ (width + 1) + low = high * 256 * 256 ^ width + low := by ring
    rw [bigEndian, bigEndian, shifted, ih, Nat.mul_comm _ (256 ^ width), Nat.mul_add_div (by positivity)]
    congr 1
    refine UInt8.toNat_inj.mp ?_
    rw [UInt8.toNat_ofNat', UInt8.toNat_ofNat']
    omega

/-- A number gives its digits back. -/
theorem bigEndian_unsigned (bytes : Bytes) : bigEndian bytes.length (unsigned bytes) = bytes := by
  induction bytes with
  | nil => rfl
  | cons byte rest ih =>
    have low := unsigned_lt rest
    rw [length_cons, bigEndian, unsigned_cons, bigEndian_mul_add, ih, Nat.mul_comm,
      Nat.mul_add_div (by positivity), Nat.div_eq_of_lt low, Nat.add_zero, UInt8.ofNat_toNat]

/-- A head is read back, and what follows is left. -/
theorem readArgument_head {major value : Nat} (known : major < 8) (small : value < 2 ^ 64) (rest : Bytes) :
    ∃ initial bytes, headBytes major value ++ rest = initial :: bytes ∧ initial.toNat / 32 = major ∧
      readArgument (initial.toNat % 32) bytes = some (value, rest) := by
  have framed (code : Nat) (digits : Bytes) (short : code < 32)
      (read : readArgument code (digits ++ rest) = some (value, rest)) :
      ∃ initial bytes, UInt8.ofNat (major * 32 + code) :: digits ++ rest = initial :: bytes ∧
        initial.toNat / 32 = major ∧ readArgument (initial.toNat % 32) bytes = some (value, rest) := by
    have initial : (UInt8.ofNat (major * 32 + code)).toNat = major * 32 + code := by
      rw [UInt8.toNat_ofNat']
      omega
    refine ⟨_, _, rfl, ?_, ?_⟩ <;> rw [initial]
    · omega
    · rwa [show (major * 32 + code) % 32 = code by omega]
  have wide (code width : Nat) (bounds : 24 ≤ code ∧ code ≤ 27) (size : 2 ^ (code - 24) = width)
      (fits : value < 256 ^ width) (long : minimumArgument width ≤ value) :
      readArgument code (bigEndian width value ++ rest) = some (value, rest) := by
    have length := bigEndian_length width value
    have number : unsigned (bigEndian width value) = value := by
      rw [unsigned_bigEndian, Nat.mod_eq_of_lt fits]
    unfold readArgument
    rw [if_neg (by omega), if_neg (by omega)]
    simp only [size]
    rw [take_left' length, drop_left' length, number, if_neg]
    rw [length_append, length]
    omega
  unfold headBytes
  split_ifs with tiny one two four
  · exact framed value [] (by omega) (by simp [readArgument, tiny])
  · exact framed 24 _ (by omega) (wide 24 1 (by omega) rfl (by omega) (by simp only [minimumArgument]; omega))
  · exact framed 25 _ (by omega) (wide 25 2 (by omega) rfl (by omega) (by simp only [minimumArgument]; omega))
  · exact framed 26 _ (by omega) (wide 26 4 (by omega) rfl (by omega) (by simp only [minimumArgument]; omega))
  · exact framed 27 _ (by omega) (wide 27 8 (by omega) rfl (by omega) (by simp only [minimumArgument]; omega))

/-- An argument that is read stands in its shortest form. -/
theorem readArgument_sound {initial : UInt8} {value : Nat} {bytes rest : Bytes}
    (read : readArgument (initial.toNat % 32) bytes = some (value, rest)) :
    initial :: bytes = headBytes (initial.toNat / 32) value ++ rest := by
  have framed (code : Nat) (same : initial.toNat % 32 = code) :
      UInt8.ofNat (initial.toNat / 32 * 32 + code) = initial := by
    rw [← same, Nat.div_add_mod', UInt8.ofNat_toNat]
  unfold readArgument at read
  split_ifs at read with tiny wide
  · obtain ⟨rfl, rfl⟩ := Prod.mk.inj (some.inj read)
    rw [headBytes, if_pos tiny, framed _ rfl]
    rfl
  · simp only [ite_none_left_eq_some, not_or, not_lt, some.injEq, mk.injEq] at read
    obtain ⟨⟨long, minimal⟩, rfl, rfl⟩ := read
    have length := length_take_of_le long
    have small := unsigned_lt (bytes.take (2 ^ (initial.toNat % 32 - 24)))
    have digits := bigEndian_unsigned (bytes.take (2 ^ (initial.toNat % 32 - 24)))
    rw [length] at small digits
    have spelled : headBytes (initial.toNat / 32) (unsigned (bytes.take (2 ^ (initial.toNat % 32 - 24)))) =
        initial :: bytes.take (2 ^ (initial.toNat % 32 - 24)) := by
      generalize unsigned (bytes.take (2 ^ (initial.toNat % 32 - 24))) = number at *
      obtain code | code | code | code : initial.toNat % 32 = 24 ∨ initial.toNat % 32 = 25 ∨
          initial.toNat % 32 = 26 ∨ initial.toNat % 32 = 27 := by omega
      all_goals
        rw [code] at minimal small digits ⊢
        simp only [Nat.reduceSub, Nat.reducePow, minimumArgument] at minimal small
        rw [← digits, headBytes, if_neg (by omega)]
      · rw [if_pos (by omega), framed 24 code]
        rfl
      · rw [if_neg (by omega), if_pos (by omega), framed 25 code]
        rfl
      · rw [if_neg (by omega), if_neg (by omega), if_pos (by omega), framed 26 code]
        rfl
      · rw [if_neg (by omega), if_neg (by omega), if_neg (by omega), framed 27 code]
        rfl
    rw [spelled, cons_append, take_append_drop]

theorem fromUTF8_sound {bytes : Bytes} {text : String} (read : String.fromUTF8? ⟨bytes.toArray⟩ = some text) :
    utf8 text = bytes := by
  unfold String.fromUTF8? at read
  split at read
  case isTrue =>
    cases read
    rfl
  case isFalse => cases read

theorem fromUTF8_utf8 (text : String) : String.fromUTF8? ⟨(utf8 text).toArray⟩ = some text := by
  have bytes : (⟨(utf8 text).toArray⟩ : ByteArray) = text.toByteArray := by
    unfold utf8
    rfl
  rw [bytes]
  unfold String.fromUTF8?
  rw [dif_pos text.isValidUTF8]
  rfl

end Heads

section Reading

variable {normalizer : Normalizer} {maxItems levels : Nat}

/-- The value is read back wherever it is written, with its items counted. -/
def Value.ReadBack (normalizer : Normalizer) (maxItems levels : Nat) (value : Value) : Prop :=
  ∀ items rest, items + value.count ≤ maxItems →
    readValue normalizer maxItems levels items (value.render ++ rest) = some (value, items + value.count, rest)

theorem readBack_text {text : String} (composed : normalizer.nfc text = text)
    (short : (Value.text text).render.length < 2 ^ 64) (deep : 0 < levels) :
    (Value.text text).ReadBack normalizer maxItems levels := by
  intro items rest few
  rw [Value.count] at few ⊢
  rw [render, length_append] at short
  obtain ⟨initial, bytes, spelled, major, argument⟩ :=
    readArgument_head (show 3 < 8 by decide) (show (utf8 text).length < 2 ^ 64 by omega) (utf8 text ++ rest)
  rw [render, append_assoc, spelled]
  obtain ⟨levels, rfl⟩ := Nat.exists_eq_succ_of_ne_zero deep.ne'
  simp only [readValue, major, argument, bind_eq_bind, bind_some]
  rw [if_neg (by omega), if_neg (by decide), if_neg (by decide), if_neg (by simp),
    take_left' rfl, drop_left' rfl, fromUTF8_utf8]
  simp [composed]

theorem readBack_integer {value : Int} (safe : value.natAbs ≤ maxSafeInteger) (deep : 0 < levels) :
    (Value.integer value).ReadBack normalizer maxItems levels := by
  intro items rest few
  have wide : maxSafeInteger < 2 ^ 64 := by decide
  obtain ⟨levels, rfl⟩ := Nat.exists_eq_succ_of_ne_zero deep.ne'
  rw [Value.count] at few ⊢
  rw [render]
  split
  case isTrue sign =>
    obtain ⟨initial, bytes, spelled, major, argument⟩ :=
      readArgument_head (show 0 < 8 by decide) (show value.toNat < 2 ^ 64 by omega) rest
    rw [spelled]
    simp only [readValue, major, argument, bind_eq_bind, bind_some]
    rw [if_neg (by omega), if_neg (by decide), if_neg (by decide), if_neg (by omega), Int.toNat_of_nonneg sign]
  case isFalse sign =>
    obtain ⟨initial, bytes, spelled, major, argument⟩ :=
      readArgument_head (show 1 < 8 by decide) (show (-1 - value).toNat < 2 ^ 64 by omega) rest
    rw [spelled]
    simp only [readValue, major, argument, bind_eq_bind, bind_some]
    rw [if_neg (by omega), if_neg (by decide), if_neg (by decide), if_neg (by omega),
      show (-1 - ((-1 - value).toNat : Int)) = value by omega]

theorem readItems_render {values : List Value} (each : ∀ value ∈ values, value.ReadBack normalizer maxItems levels)
    (items : Nat) (rest : Bytes) (few : items + countItems values ≤ maxItems) :
    readItems (readValue normalizer maxItems levels) values.length items (renderItems values ++ rest) =
      some (values, items + countItems values, rest) := by
  induction values generalizing items with
  | nil =>
    rw [renderItems, countItems]
    rfl
  | cons value values ih =>
    obtain ⟨first, others⟩ := forall_mem_cons.mp each
    rw [countItems] at few ⊢
    rw [renderItems, append_assoc, length_cons, readItems, first _ _ (by omega),
      bind_eq_bind, bind_some]
    dsimp only
    rw [ih others _ (by omega), bind_eq_bind, bind_some, Nat.add_assoc]

theorem readEntries_render {entries : List (String × Value)}
    (each : ∀ entry ∈ entries, (Value.text entry.1).ReadBack normalizer maxItems levels ∧
      entry.2.ReadBack normalizer maxItems levels)
    (ordered : entries.Pairwise fun left right => ¬ EntryBefore right left) (items : Nat) (previous : Option Bytes)
    (above : ∀ before ∈ previous, ∀ entry ∈ entries, ¬ KeyBefore (Value.text entry.1).render before)
    (seen : List String) (unseen : ∀ entry ∈ entries, entry.1 ∉ seen) (rest : Bytes)
    (few : items + countEntries entries ≤ maxItems) :
    readEntries (readValue normalizer maxItems levels) entries.length previous seen items
      (renderEntries entries ++ rest) = some (entries, items + countEntries entries, rest) := by
  induction entries generalizing items previous seen with
  | nil =>
    rw [renderEntries, countEntries]
    rfl
  | cons entry entries ih =>
    obtain ⟨key, value⟩ := entry
    obtain ⟨⟨readKey, readItem⟩, others⟩ := forall_mem_cons.mp each
    obtain ⟨first, ordered⟩ := pairwise_cons.mp ordered
    rw [countEntries] at few ⊢
    have positive := count_pos value
    have readKey := readKey items (value.render ++ (renderEntries entries ++ rest)) (by rw [Value.count]; omega)
    rw [Value.count] at readKey
    have readItem := readItem (items + 1) (renderEntries entries ++ rest)
      (show items + 1 + value.count ≤ maxItems by omega)
    have readOthers := ih others ordered (items + 1 + value.count) (some (Value.text key).render) (by
        rintro before ⟨⟩ entry member
        exact first entry member)
      (key :: seen)
      (by
        intro entry member inside
        rcases mem_cons.mp inside with same | earlier
        · have reflexive : EntryBefore entry (key, value) := by
            unfold EntryBefore
            rw [same]
            exact .inr ⟨rfl, List.le_refl _⟩
          exact first entry member reflexive
        · exact unseen entry (mem_cons_of_mem _ member) earlier)
      (by omega)
    have fresh : ¬ (key ∈ seen ∨
        previous.any (fun before => decide (KeyBefore (Value.text key).render before)) = true) := by
      rintro (old | late)
      · exact unseen (key, value) (mem_cons_self ..) old
      · cases previous with
        | none => cases late
        | some before => exact above before rfl (key, value) (mem_cons_self ..) (of_decide_eq_true late)
    rw [renderEntries, append_assoc, append_assoc, length_cons, readEntries, readKey,
      bind_eq_bind, bind_some]
    dsimp only
    rw [length_append, Nat.add_sub_cancel, List.take_left' rfl, if_neg fresh, readItem,
      bind_eq_bind, bind_some]
    dsimp only
    rw [readOthers, bind_some]
    dsimp only
    rw [show items + 1 + value.count + countEntries entries = items + (1 + value.count + countEntries entries) by omega]

/-- The decoder reads back what was written of a regular value. -/
theorem readValue_render {value : Value} (regular : value.Regular normalizer) (short : value.render.length < 2 ^ 64)
    (within : value.Within levels) : value.ReadBack normalizer maxItems levels := by
  induction value generalizing levels with
  | null | bool =>
    intro items rest few
    rw [Value.Within] at within
    rw [Value.count] at few ⊢
    obtain ⟨levels, rfl⟩ := Nat.exists_eq_succ_of_ne_zero within.ne'
    rw [render, singleton_append, readValue, if_neg (by omega)]
    first
    | rfl
    | rename_i value
      cases value <;> rfl
  | text value =>
    rw [Regular] at regular
    exact readBack_text regular short within.pos
  | bytes value =>
    intro items rest few
    rw [Value.count] at few ⊢
    rw [render, length_append] at short
    obtain ⟨initial, bytes, spelled, major, argument⟩ :=
      readArgument_head (show 2 < 8 by decide) (show value.length < 2 ^ 64 by omega) (value ++ rest)
    rw [render, append_assoc, spelled]
    obtain ⟨levels, rfl⟩ := Nat.exists_eq_succ_of_ne_zero within.pos.ne'
    simp only [readValue, major, argument, bind_eq_bind, bind_some]
    rw [if_neg (by omega), if_neg (by decide), if_neg (by decide), if_neg (by simp),
      take_left' rfl, drop_left' rfl]
  | integer value =>
    rw [Regular] at regular
    exact readBack_integer regular within.pos
  | array values ih =>
    intro items rest few
    obtain ⟨levels, rfl⟩ := Nat.exists_eq_succ_of_ne_zero within.pos.ne'
    rw [Value.Within, withinItems_iff] at within
    rw [Value.count] at few ⊢
    rw [Regular, regularItems_iff] at regular
    rw [render, length_append] at short
    have lengths := length_le_renderItems values
    have counts := length_le_countItems values
    obtain ⟨initial, bytes, spelled, major, argument⟩ :=
      readArgument_head (show 4 < 8 by decide) (show values.length < 2 ^ 64 by omega) (renderItems values ++ rest)
    have each : ∀ value ∈ values, value.ReadBack normalizer maxItems levels := by
      intro value member
      have size := length_le_of_mem member
      exact ih value member (regular value member) (by omega) (within.2 value member)
    rw [render, append_assoc, spelled]
    simp only [readValue, major, argument, bind_eq_bind, bind_some]
    rw [if_neg (by omega), if_neg (by decide), if_neg (by decide), if_neg (by rw [length_append]; omega),
      readItems_render each (items + 1) rest (by omega), bind_some, Nat.add_assoc]
  | map entries ih =>
    intro items rest few
    obtain ⟨levels, rfl⟩ := Nat.exists_eq_succ_of_ne_zero within.pos.ne'
    rw [Value.Within, withinEntries_iff] at within
    rw [Value.count] at few ⊢
    rw [Regular, regularEntries_iff] at regular
    rw [render, length_append] at short
    have lengths := length_le_renderEntries entries
    have counts := length_le_countEntries entries
    obtain ⟨initial, bytes, spelled, major, argument⟩ :=
      readArgument_head (show 5 < 8 by decide) (show entries.length < 2 ^ 64 by omega) (renderEntries entries ++ rest)
    have each : ∀ entry ∈ entries, (Value.text entry.1).ReadBack normalizer maxItems levels ∧
        entry.2.ReadBack normalizer maxItems levels := by
      intro entry member
      have size := length_le_of_mem_entries member
      obtain ⟨composed, inner⟩ := regular.2 entry member
      have deep := within.2 entry member
      exact ⟨readBack_text composed (by omega) deep.pos, ih entry member inner (by omega) deep⟩
    rw [render, append_assoc, spelled]
    simp only [readValue, major, argument, bind_eq_bind, bind_some]
    rw [if_neg (by omega), if_neg (by decide), if_neg (by decide), if_neg (by rw [length_append]; omega),
      readEntries_render each regular.1 (items + 1) none (by simp) [] (by simp) rest (by omega), bind_some,
      Nat.add_assoc]

end Reading

section Sound

variable {normalizer : Normalizer} {maxItems levels : Nat}

/-- The bytes start with what is written of a regular value, whose items are counted. -/
structure Value.ReadFrom (normalizer : Normalizer) (maxItems levels items : Nat) (bytes : Bytes) (value : Value)
    (next : Nat) (rest : Bytes) : Prop where
  spelled : bytes = value.render ++ rest
  regular : value.Regular normalizer
  within : value.Within levels
  count : next = items + value.count
  few : next ≤ maxItems

/-- The reader finds only what was written. -/
def Reader.Sound (normalizer : Normalizer) (maxItems levels : Nat) (read : Reader) : Prop :=
  ∀ items bytes value next rest, read items bytes = some (value, next, rest) →
    value.ReadFrom normalizer maxItems levels items bytes next rest

theorem readItems_sound {read : Reader} (sound : Reader.Sound normalizer maxItems levels read) {count items next : Nat}
    {bytes rest : Bytes} {values : List Value} (room : items ≤ maxItems)
    (found : readItems read count items bytes = some (values, next, rest)) :
    bytes = renderItems values ++ rest ∧ values.length = count ∧
      (∀ value ∈ values, value.Regular normalizer ∧ value.Within levels) ∧
      next = items + countItems values ∧ next ≤ maxItems := by
  induction count generalizing items bytes values with
  | zero =>
    simp only [readItems, some.injEq, Prod.mk.injEq] at found
    obtain ⟨rfl, rfl, rfl⟩ := found
    rw [renderItems, countItems]
    exact ⟨rfl, rfl, by simp, rfl, room⟩
  | succ count ih =>
    simp only [readItems, bind_eq_bind, bind_eq_some_iff, some.injEq, Prod.mk.injEq,
      Prod.exists] at found
    obtain ⟨value, middle, ahead, first, others, _, _, reads, rfl, rfl, rfl⟩ := found
    obtain ⟨rfl, regular, within, rfl, few⟩ := sound _ _ _ _ _ first
    obtain ⟨rfl, rfl, inner, rfl, fits⟩ := ih few reads
    rw [renderItems, countItems, append_assoc, forall_mem_cons]
    exact ⟨rfl, rfl, ⟨⟨regular, within⟩, inner⟩, by omega, fits⟩

theorem not_keyBefore_trans {first second third : Bytes} (one : ¬ KeyBefore second first)
    (two : ¬ KeyBefore third second) : ¬ KeyBefore third first := by
  intro before
  rcases Std.Total.total (r := KeyBefore) first second with ascending | descending
  · exact two (IsTrans.trans (r := KeyBefore) _ _ _ before ascending)
  · exact one descending

theorem readEntries_sound {read : Reader} (sound : Reader.Sound normalizer maxItems levels read)
    {count items next : Nat} {previous : Option Bytes} {seen : List String} {bytes rest : Bytes}
    {entries : List (String × Value)} (room : items ≤ maxItems)
    (found : readEntries read count previous seen items bytes = some (entries, next, rest)) :
    bytes = renderEntries entries ++ rest ∧ entries.length = count ∧
      (∀ entry ∈ entries, (normalizer.nfc entry.1 = entry.1 ∧ entry.2.Regular normalizer) ∧ entry.2.Within levels) ∧
      entries.Pairwise (fun left right => ¬ EntryBefore right left) ∧
      (∀ before ∈ previous, ∀ entry ∈ entries, ¬ KeyBefore (Value.text entry.1).render before) ∧
      next = items + countEntries entries ∧ next ≤ maxItems := by
  induction count generalizing items previous seen bytes entries with
  | zero =>
    simp only [readEntries, some.injEq, Prod.mk.injEq] at found
    obtain ⟨rfl, rfl, rfl⟩ := found
    rw [renderEntries, countEntries]
    exact ⟨rfl, rfl, by simp, .nil, by simp, rfl, room⟩
  | succ count ih =>
    simp only [readEntries, bind_eq_bind, bind_eq_some_iff, Prod.exists] at found
    obtain ⟨name, middle, ahead, first, found⟩ := found
    cases name with
    | text key =>
      simp only [ite_none_left_eq_some, not_or, bind_eq_some_iff, some.injEq, Prod.mk.injEq,
        Prod.exists] at found
      obtain ⟨⟨fresh, above⟩, value, _, _, second, others, _, _, reads, rfl, rfl, rfl⟩ := found
      obtain ⟨rfl, composed, -, rfl, few⟩ := sound _ _ _ _ _ first
      rw [length_append, Nat.add_sub_cancel, List.take_left' rfl] at above reads
      obtain ⟨rfl, regular, within, rfl, few'⟩ := sound _ _ _ _ _ second
      obtain ⟨rfl, rfl, inner, ordered, below, rfl, fits⟩ := ih few' reads
      rw [Regular] at composed
      rw [renderEntries, countEntries, append_assoc, append_assoc, forall_mem_cons, pairwise_cons]
      refine ⟨rfl, rfl, ⟨⟨⟨composed, regular⟩, within⟩, inner⟩,
        ⟨fun entry member => below _ rfl entry member, ordered⟩, ?_, by rw [Value.count]; omega, fits⟩
      rintro before ⟨⟩
      have start : ¬ KeyBefore (Value.text key).render before := by simpa using above
      rw [forall_mem_cons]
      exact ⟨start, fun entry member => not_keyBefore_trans start (below _ rfl entry member)⟩
    | _ => cases found

/-- The decoder reads only what is written of a regular value. -/
theorem readValue_sound (levels : Nat) :
    Reader.Sound normalizer maxItems levels (readValue normalizer maxItems levels) := by
  induction levels with
  | zero => exact fun _ _ _ _ _ found => nomatch found
  | succ levels ih =>
    intro items bytes value next rest found
    cases bytes with
    | nil => cases found
    | cons initial bytes =>
      rw [readValue] at found
      simp only [ite_none_left_eq_some, not_le] at found
      obtain ⟨room, found⟩ := found
      split_ifs at found with simple no yes null tagged
      · obtain ⟨rfl, rfl, rfl⟩ := by simpa only [some.injEq, Prod.mk.injEq] using found
        exact ⟨by rw [no, render]; rfl, by rw [Regular]; trivial, by rw [Value.Within]; omega,
          by rw [Value.count], room⟩
      · obtain ⟨rfl, rfl, rfl⟩ := by simpa only [some.injEq, Prod.mk.injEq] using found
        exact ⟨by rw [yes, render]; rfl, by rw [Regular]; trivial, by rw [Value.Within]; omega,
          by rw [Value.count], room⟩
      · obtain ⟨rfl, rfl, rfl⟩ := by simpa only [some.injEq, Prod.mk.injEq] using found
        exact ⟨by rw [null, render]; rfl, by rw [Regular]; trivial, by rw [Value.Within]; omega,
          by rw [Value.count], room⟩
      simp only [bind_eq_bind, bind_eq_some_iff, Prod.exists] at found
      obtain ⟨argument, ahead, parsed, found⟩ := found
      rw [readArgument_sound parsed]
      have bound := initial.toNat_lt
      split at found
      case h_1 major =>
        simp only [ite_none_left_eq_some, some.injEq, Prod.mk.injEq, not_lt] at found
        obtain ⟨safe, rfl, rfl, rfl⟩ := found
        refine ⟨?_, by rw [Regular]; omega, by rw [Value.Within]; omega, by rw [Value.count], room⟩
        rw [major, render, if_pos (by omega), Int.toNat_natCast]
      case h_2 major =>
        simp only [ite_none_left_eq_some, some.injEq, Prod.mk.injEq, not_lt] at found
        obtain ⟨safe, rfl, rfl, rfl⟩ := found
        refine ⟨?_, by rw [Regular]; omega, by rw [Value.Within]; omega, by rw [Value.count], room⟩
        rw [major, render, if_neg (by omega), show (-1 - (-1 - (argument : Int))).toNat = argument by omega]
      case h_3 major =>
        simp only [ite_none_left_eq_some, some.injEq, Prod.mk.injEq, not_lt] at found
        obtain ⟨long, rfl, rfl, rfl⟩ := found
        refine ⟨?_, by rw [Regular]; trivial, by rw [Value.Within]; omega, by rw [Value.count], room⟩
        rw [major, render, length_take_of_le long, append_assoc, take_append_drop]
      case h_4 major =>
        simp only [ite_none_left_eq_some, bind_eq_some_iff, ite_none_right_eq_some,
          some.injEq, Prod.mk.injEq, not_lt] at found
        obtain ⟨long, text, decoded, composed, rfl, rfl, rfl⟩ := found
        refine ⟨?_, by rwa [Regular], by rw [Value.Within]; omega, by rw [Value.count], room⟩
        rw [major, render, fromUTF8_sound decoded, length_take_of_le long, append_assoc,
          take_append_drop]
      case h_5 major =>
        simp only [ite_none_left_eq_some, bind_eq_some_iff, some.injEq, Prod.mk.injEq,
          Prod.exists] at found
        obtain ⟨-, values, _, _, reads, rfl, rfl, rfl⟩ := found
        obtain ⟨rfl, rfl, inner, rfl, few⟩ := readItems_sound ih room reads
        refine ⟨?_, ?_, ?_, by rw [Value.count]; omega, few⟩
        · rw [major, render, append_assoc]
        · rw [Regular, regularItems_iff]
          exact fun value member => (inner value member).1
        · rw [Value.Within, withinItems_iff]
          exact ⟨by omega, fun value member => (inner value member).2⟩
      case h_6 =>
        simp only [ite_none_left_eq_some, bind_eq_some_iff, some.injEq, Prod.mk.injEq,
          Prod.exists] at found
        obtain ⟨-, entries, _, _, reads, rfl, rfl, rfl⟩ := found
        obtain ⟨rfl, rfl, inner, ordered, -, rfl, few⟩ := readEntries_sound ih room reads
        have major : initial.toNat / 32 = 5 := by grind
        refine ⟨?_, ?_, ?_, by rw [Value.count]; omega, few⟩
        · rw [major, render, append_assoc]
        · rw [Regular, regularEntries_iff]
          exact ⟨ordered, fun entry member => (inner entry member).1⟩
        · rw [Value.Within, withinEntries_iff]
          exact ⟨by omega, fun entry member => (inner entry member).2⟩

end Sound

end Circulusd.Canonical
