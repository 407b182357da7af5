import Circulusd.Canonical.Roundtrip

/-
Which values the two encoders accept: a condition on the value, and one bound each on its depth, its
items and its bytes.
-/

namespace Circulusd.Canonical

open Checked Platform Protocol Value List Option

mutual

/-- Integers are safe, and no two keys of a map have one normal form. -/
def Value.Admissible (normalizer : Normalizer) : Value → Prop
  | .null | .bool _ | .bytes _ | .text _ => True
  | .integer value => value.natAbs ≤ maxSafeInteger
  | .array values => Value.AdmissibleItems normalizer values
  | .map entries => (entries.map fun entry => normalizer.nfc entry.1).Nodup ∧ Value.AdmissibleEntries normalizer entries

def Value.AdmissibleItems (normalizer : Normalizer) : List Value → Prop
  | [] => True
  | value :: rest => value.Admissible normalizer ∧ Value.AdmissibleItems normalizer rest

def Value.AdmissibleEntries (normalizer : Normalizer) : List (String × Value) → Prop
  | [] => True
  | (_, value) :: rest => value.Admissible normalizer ∧ Value.AdmissibleEntries normalizer rest

end

section Lists

variable {normalizer : Normalizer} {values : List Value} {entries : List (String × Value)}

theorem admissibleItems_iff : AdmissibleItems normalizer values ↔ ∀ value ∈ values, value.Admissible normalizer := by
  induction values with
  | nil => simp [AdmissibleItems]
  | cons value rest ih => rw [AdmissibleItems, ih, forall_mem_cons]

theorem admissibleEntries_iff :
    AdmissibleEntries normalizer entries ↔ ∀ entry ∈ entries, entry.2.Admissible normalizer := by
  induction entries with
  | nil => simp [AdmissibleEntries]
  | cons entry rest ih =>
    obtain ⟨key, value⟩ := entry
    rw [AdmissibleEntries, ih, forall_mem_cons]

theorem encodeItems_eq (maxDepth : Nat) (values : List Value) : Value.encodeItems normalizer maxDepth values =
    values.map (Value.encode normalizer maxDepth) := by
  induction values with
  | nil => rw [Value.encodeItems]; rfl
  | cons value rest ih => rw [Value.encodeItems, ih, map_cons]

end Lists

section NormalForms

variable {normalizer : Normalizer} {value : Value} {levels : Nat}

theorem text_render_injective {left right : String}
    (same : (Value.text left).render = (Value.text right).render) : left = right := by
  rw [render, render] at same
  exact utf8_injective (headBytes_append_injective same)

/-- Sorted entries with distinct keys are in strict order. -/
theorem insertionSort_strict {entries : List (String × Value)} (distinct : (entries.map Prod.fst).Nodup) :
    (entries.insertionSort EntryBefore).Pairwise fun left right => ¬ EntryBefore right left := by
  have sorted := pairwise_insertionSort EntryBefore entries
  have different := ((perm_insertionSort EntryBefore entries).map Prod.fst).nodup_iff.mpr distinct
  rw [nodup_iff_pairwise_ne, pairwise_map] at different
  refine (sorted.and different).imp fun both after => both.2 ?_
  exact text_render_injective (KeyBefore.antisymm both.1 after)

theorem Value.normalize_count (value : Value) : (value.normalize normalizer).count = value.count := by
  induction value with
  | null | bool | text | bytes | integer => simp only [normalize, Value.count]
  | array values ih =>
    rw [normalize, Value.count, Value.count, countItems_eq, countItems_eq, normalizeItems_eq, List.map_map]
    exact congrArg (1 + List.sum ·) (map_congr_left ih)
  | map entries ih =>
    have sorted := perm_insertionSort EntryBefore (normalizeEntries normalizer entries)
    rw [normalize, Value.count, Value.count, countEntries_eq, countEntries_eq, (sorted.map _).sum_eq,
      normalizeEntries_eq, List.map_map]
    exact congrArg (1 + List.sum ·) (map_congr_left fun entry member => congrArg (1 + ·) (ih entry member))

theorem Value.normalize_within : (value.normalize normalizer).Within levels ↔ value.Within levels := by
  induction value generalizing levels with
  | null | bool | text | bytes | integer => simp only [normalize, Value.Within]
  | array values ih =>
    rw [normalize, Value.Within, Value.Within, withinItems_iff, withinItems_iff, normalizeItems_eq, List.forall_mem_map]
    exact and_congr_right fun _ => forall₂_congr fun value member => ih value member
  | map entries ih =>
    rw [normalize, Value.Within, Value.Within, withinEntries_iff, withinEntries_iff]
    simp only [(perm_insertionSort EntryBefore _).mem_iff, normalizeEntries_eq, List.forall_mem_map]
    exact and_congr_right fun _ => forall₂_congr fun entry member => ih entry member

/-- The normal form of an admissible value is one that a decoder gives. -/
theorem Value.Admissible.regular (admissible : value.Admissible normalizer) :
    (value.normalize normalizer).Regular normalizer := by
  induction value with
  | null | bool | bytes => rw [normalize, Regular]; trivial
  | text value =>
    rw [normalize, Regular]
    exact normalizer.idempotent value
  | integer value =>
    rw [Admissible] at admissible
    rw [normalize, Regular]
    exact admissible
  | array values ih =>
    rw [Admissible, admissibleItems_iff] at admissible
    rw [normalize, Regular, regularItems_iff, normalizeItems_eq, List.forall_mem_map]
    exact fun value member => ih value member (admissible value member)
  | map entries ih =>
    rw [Admissible, admissibleEntries_iff] at admissible
    rw [normalize, Regular, regularEntries_iff]
    simp only [(perm_insertionSort EntryBefore _).mem_iff, normalizeEntries_eq, List.forall_mem_map]
    refine ⟨insertionSort_strict ?_, fun entry member => ⟨normalizer.idempotent _, ?_⟩⟩
    · rw [List.map_map]
      exact admissible.1
    · exact ih entry member (admissible.2 entry member)

theorem Value.Regular.normalize_eq (regular : value.Regular normalizer) : value.normalize normalizer = value := by
  induction value with
  | null | bool | bytes | integer => rw [normalize]
  | text value =>
    rw [Regular] at regular
    rw [normalize, regular]
  | array values ih =>
    rw [Regular, regularItems_iff] at regular
    rw [normalize, normalizeItems_eq, map_congr_left fun value member => ih value member (regular value member),
      List.map_id']
  | map entries ih =>
    rw [Regular, regularEntries_iff] at regular
    have same : ∀ entry ∈ entries, (normalizer.nfc entry.1, entry.2.normalize normalizer) = entry := by
      intro entry member
      obtain ⟨composed, inner⟩ := regular.2 entry member
      rw [composed, ih entry member inner]
    have sorted : entries.Pairwise EntryBefore := regular.1.imp fun {left right} after =>
      (Std.Total.total (r := EntryBefore) left right).resolve_right after
    rw [normalize, normalizeEntries_eq, map_congr_left same, List.map_id', sorted.insertionSort_eq]

theorem Value.Regular.admissible (regular : value.Regular normalizer) : value.Admissible normalizer := by
  induction value with
  | null | bool | text | bytes => rw [Admissible]; trivial
  | integer value =>
    rw [Regular] at regular
    rw [Admissible]
    exact regular
  | array values ih =>
    rw [Regular, regularItems_iff] at regular
    rw [Admissible, admissibleItems_iff]
    exact fun value member => ih value member (regular value member)
  | map entries ih =>
    rw [Regular, regularEntries_iff] at regular
    rw [Admissible, admissibleEntries_iff]
    refine ⟨?_, fun entry member => ih entry member (regular.2 entry member).2⟩
    rw [map_congr_left fun entry member => (regular.2 entry member).1, nodup_iff_pairwise_ne,
      pairwise_map]
    refine regular.1.imp fun {left right} after same => after ?_
    unfold EntryBefore
    rw [same]
    exact .inr ⟨rfl, List.le_refl _⟩

end NormalForms

section Actions

abbrev Action := Writer → Except Refusal Writer

/-- A writer is within its limits. -/
structure Writer.Fits (writer : Writer) : Prop where
  items : writer.items ≤ writer.maxItems
  bytes : writer.encoded.length ≤ writer.maxBytes

def Writer.added (writer : Writer) (bytes : Bytes) (count : Nat) : Writer :=
  { writer with encoded := writer.encoded ++ bytes, items := writer.items + count }

/-- Under a condition an action adds these bytes and counts so many items, unless that is too much. -/
def Writes (action : Action) (condition : Prop) (bytes : Bytes) (count : Nat) : Prop :=
  ∀ writer next, writer.Fits → (action writer = .ok next ↔ condition ∧ writer.items + count ≤ writer.maxItems ∧
    writer.encoded.length + bytes.length ≤ writer.maxBytes ∧ next = writer.added bytes count)

variable {action first second : Action} {condition other : Prop} {bytes front back : Bytes} {count more : Nat}

theorem Writes.congr (writes : Writes action condition front count) (same : condition ↔ other) (bytes : front = back)
    (counts : count = more) : Writes action other back more := by
  subst bytes counts
  intro writer next fits
  rw [writes writer next fits, same]

theorem Writer.Fits.added {writer : Writer} (items : writer.items + count ≤ writer.maxItems)
    (size : writer.encoded.length + bytes.length ≤ writer.maxBytes) : (writer.added bytes count).Fits :=
  ⟨items, by rwa [Writer.added, length_append]⟩

theorem Writer.added_added (writer : Writer) :
    (writer.added front count).added back more = writer.added (front ++ back) (count + more) := by
  simp [Writer.added, Nat.add_assoc]

/-- One action after another. -/
theorem Writes.andThen (one : Writes first condition front count) (two : Writes second other back more) :
    Writes (fun writer => first writer >>= second) (condition ∧ other) (front ++ back) (count + more) := by
  intro writer next fits
  rw [bind_ok, length_append]
  constructor
  · rintro ⟨middle, begun, done⟩
    obtain ⟨holds, items, size, rfl⟩ := (one writer middle fits).mp begun
    obtain ⟨also, moreItems, moreSize, rfl⟩ := (two _ next (Writer.Fits.added items size)).mp done
    simp only [Writer.added, length_append] at moreItems moreSize
    exact ⟨⟨holds, also⟩, by omega, by omega, Writer.added_added writer⟩
  · rintro ⟨⟨holds, also⟩, items, size, rfl⟩
    have begun := (one writer _ fits).mpr ⟨holds, by omega, by omega, rfl⟩
    refine ⟨_, begun, (two _ _ (Writer.Fits.added (by omega) (by omega))).mpr ⟨also, ?_, ?_, ?_⟩⟩
    · simp only [Writer.added]
      omega
    · simp only [Writer.added, length_append]
      omega
    · rw [Writer.added_added]

theorem writes_pure : Writes pure True [] 0 := by
  intro writer next fits
  have same : writer.added [] 0 = writer := by simp [Writer.added]
  rw [pure_ok, same]
  exact ⟨fun equal => ⟨trivial, fits.items, fits.bytes, equal.symm⟩, fun ok => ok.2.2.2.symm⟩

theorem writes_appendBytes (bytes : Bytes) : Writes (·.appendBytes bytes) True bytes 0 := by
  intro writer next fits
  have items := fits.items
  simp only [Writer.appendBytes, steps_ok, not_lt, Writer.added]
  simp [items, eq_comm]

theorem writes_countItem : Writes Writer.countItem True [] 1 := by
  intro writer next fits
  have bytes := fits.bytes
  simp only [Writer.countItem, steps_ok, not_le, Writer.added]
  simp [bytes, eq_comm]

/-- A check that does not depend on the writer. -/
theorem Writes.unless {refused : Prop} [Decidable refused] {refusal : Refusal}
    (writes : Writes action condition bytes count) :
    Writes (fun writer => do refuseIf refused refusal; action writer) (¬ refused ∧ condition) bytes count := by
  intro writer next fits
  rw [bind_ok, exists_unit, refuseIf_ok, writes writer next fits, and_assoc]

/-- A check that only refuses what the limit on the items refuses later. -/
theorem Writes.limited {limit : Writer → Prop} [DecidablePred limit] {refusal : Writer → Refusal}
    (writes : Writes action condition bytes count)
    (redundant : ∀ writer, writer.items + count ≤ writer.maxItems → ¬ limit writer) :
    Writes (fun writer => do refuseIf (limit writer) (refusal writer); action writer) condition bytes count := by
  intro writer next fits
  rw [bind_ok, exists_unit, refuseIf_ok, writes writer next fits]
  exact and_iff_right_of_imp fun ok => redundant writer ok.2.1

/-- Work before the writer is used. -/
theorem Writes.after {α : Type} {work : Except Refusal α} {result : α} (next : α → Action)
    (works : ∀ value, work = .ok value ↔ other ∧ value = result) (writes : Writes (next result) condition bytes count) :
    Writes (fun writer => work >>= fun value => next value writer) (other ∧ condition) bytes count := by
  intro writer last fits
  rw [bind_ok, and_assoc, ← writes writer last fits]
  constructor
  · rintro ⟨value, worked, done⟩
    obtain ⟨holds, rfl⟩ := (works value).mp worked
    exact ⟨holds, done⟩
  · rintro ⟨holds, done⟩
    exact ⟨result, (works result).mpr ⟨holds, rfl⟩, done⟩

theorem writes_enter (depth maxDepth : Nat) : Writes (·.enter depth maxDepth) (depth ≤ maxDepth) [] 1 :=
  (writes_countItem.unless).congr (by simp) rfl rfl

/-- A loop of actions. -/
theorem writes_foldlM {α : Type} (actions : α → Action) (conditions : α → Prop) (bytes : α → Bytes) (counts : α → Nat)
    {entries : List α} (each : ∀ entry ∈ entries, Writes (actions entry) (conditions entry) (bytes entry) (counts entry)) :
    Writes (fun writer => entries.foldlM (fun writer entry => actions entry writer) writer)
      (∀ entry ∈ entries, conditions entry) (entries.flatMap bytes) (entries.map counts).sum := by
  induction entries with
  | nil => exact writes_pure.congr (by simp) rfl rfl
  | cons entry rest ih =>
    obtain ⟨first, others⟩ := forall_mem_cons.mp each
    simp only [foldlM_cons, forall_mem_cons, flatMap_cons, map_cons, sum_cons]
    exact first.andThen (ih others)

end Actions

section Encoder

variable (normalizer : Normalizer) (maxDepth : Nat)

theorem writes_encodeText (text : String) (depth : Nat) : Writes (encodeText normalizer maxDepth text depth)
    (depth ≤ maxDepth) (Value.text (normalizer.nfc text)).render 1 := by
  rw [render]
  refine ((writes_enter depth maxDepth).andThen
    ((writes_appendBytes (headBytes 3 (utf8 (normalizer.nfc text)).length)).andThen
      (writes_appendBytes (utf8 (normalizer.nfc text))))).congr ?_ rfl rfl
  simp

/-- An entry of a map as `prepare` leaves it. -/
def preparedEntry (entry : String × Value) : PreparedEntry :=
  ⟨(Value.text (normalizer.nfc entry.1)).render, entry.2.encode normalizer maxDepth⟩

theorem encodeKey_ok_iff (key : String) (depth : Nat) (writer : Writer) :
    encodeText normalizer maxDepth (normalizer.nfc key) depth ⟨[], (utf8 (normalizer.nfc key)).length + 9, 0, 1⟩ =
        .ok writer ↔
      depth ≤ maxDepth ∧
        writer = ⟨(Value.text (normalizer.nfc key)).render, (utf8 (normalizer.nfc key)).length + 9, 1, 1⟩ := by
  have head := headBytes_length_le 3 (utf8 (normalizer.nfc key)).length
  rw [writes_encodeText normalizer maxDepth (normalizer.nfc key) depth _ _ ⟨by simp, by simp⟩, normalizer.idempotent]
  have fits : (Value.text (normalizer.nfc key)).render.length ≤ (utf8 (normalizer.nfc key)).length + 9 := by
    rw [render, length_append]
    omega
  simp [Writer.added, fits]

/-- The keys are accepted when they are distinct and not too deep. -/
theorem prepare_ok_iff (depth : Nat) (seen : List String) (entries : List (String × Value))
    (prepared : List PreparedEntry) :
    prepare normalizer maxDepth depth seen (Value.encodeEntries normalizer maxDepth entries) = .ok prepared ↔
      ((entries ≠ [] → depth + 1 ≤ maxDepth) ∧ (entries.map fun entry => normalizer.nfc entry.1).Nodup ∧
        ∀ entry ∈ entries, normalizer.nfc entry.1 ∉ seen) ∧
      prepared = entries.map (preparedEntry normalizer maxDepth) := by
  induction entries generalizing seen prepared with
  | nil => simp [Value.encodeEntries, prepare, eq_comm]
  | cons entry rest ih =>
    obtain ⟨key, value⟩ := entry
    simp only [Value.encodeEntries, prepare, steps_ok, encodeKey_ok_iff, ih]
    constructor
    · rintro ⟨fresh, writer, ⟨deep, rfl⟩, others, ⟨⟨-, distinct, unseen⟩, rfl⟩, rfl⟩
      refine ⟨⟨fun _ => deep, ?_, ?_⟩, rfl⟩
      · refine nodup_cons.mpr ⟨fun member => ?_, distinct⟩
        obtain ⟨entry, known, same⟩ := mem_map.mp member
        exact unseen entry known (same ▸ mem_cons_self)
      · exact forall_mem_cons.mpr ⟨fresh, fun entry known seen => unseen entry known (mem_cons_of_mem _ seen)⟩
    · rintro ⟨⟨deep, distinct, unseen⟩, rfl⟩
      obtain ⟨fresh, unseen⟩ := forall_mem_cons.mp unseen
      obtain ⟨new, distinct⟩ := nodup_cons.mp distinct
      refine ⟨fresh, _, ⟨deep (cons_ne_nil _ _), rfl⟩, _, ⟨⟨fun _ => deep (cons_ne_nil _ _), distinct, ?_⟩, rfl⟩,
        rfl⟩
      intro entry known seen
      rcases mem_cons.mp seen with same | earlier
      · exact new (mem_map.mpr ⟨entry, known, same⟩)
      · exact unseen entry known earlier

/-- The entries of a map by their encoded keys. -/
def NamedBefore (left right : String × Value) : Prop :=
  KeyBefore (Value.text (normalizer.nfc left.1)).render (Value.text (normalizer.nfc right.1)).render
deriving Decidable

theorem prepared_insertionSort (entries : List (String × Value)) :
    (entries.map (preparedEntry normalizer maxDepth)).insertionSort PreparedEntry.Before =
      (entries.insertionSort (NamedBefore normalizer)).map (preparedEntry normalizer maxDepth) :=
  (map_insertionSort (NamedBefore normalizer) PreparedEntry.Before _ entries fun _ _ _ _ => Iff.rfl).symm

theorem normalizeEntries_insertionSort (entries : List (String × Value)) :
    (normalizeEntries normalizer entries).insertionSort EntryBefore =
      (entries.insertionSort (NamedBefore normalizer)).map
        fun entry => (normalizer.nfc entry.1, entry.2.normalize normalizer) := by
  rw [normalizeEntries_eq]
  exact (map_insertionSort (NamedBefore normalizer) EntryBefore _ entries fun _ _ _ _ => Iff.rfl).symm

/-- The rest of the encoder of a map after its keys. -/
def writePrepared (depth : Nat) (prepared : List PreparedEntry) : Action := fun writer => do
  let writer ← writer.appendHead 5 prepared.length
  (prepared.insertionSort PreparedEntry.Before).foldlM (fun writer entry => do
      let writer ← writer.countItem
      let writer ← writer.appendBytes entry.encoded
      entry.value depth writer)
    writer

/-- An admissible value within the depth is written as the bytes of its normal form. -/
def Value.Writes (depth : Nat) (value : Value) : Prop :=
  Canonical.Writes (value.encode normalizer maxDepth depth)
    (value.Admissible normalizer ∧ value.Within (maxDepth + 1 - depth)) (value.normalize normalizer).render value.count

/-- The entries of a map are written in the order of their keys. -/
theorem writes_prepared (entries : List (String × Value)) (depth : Nat)
    (each : ∀ entry ∈ entries, entry.2.Writes normalizer maxDepth depth) :
    Writes (writePrepared depth (entries.map (preparedEntry normalizer maxDepth)))
      (∀ entry ∈ entries, entry.2.Admissible normalizer ∧ entry.2.Within (maxDepth + 1 - depth))
      (headBytes 5 entries.length ++ renderEntries ((normalizeEntries normalizer entries).insertionSort EntryBefore))
      (countEntries entries) := by
  have sorted := perm_insertionSort (NamedBefore normalizer) entries
  have one : ∀ entry ∈ entries.insertionSort (NamedBefore normalizer), Writes (fun writer => do
        let writer ← writer.countItem
        let writer ← writer.appendBytes (Value.text (normalizer.nfc entry.1)).render
        entry.2.encode normalizer maxDepth depth writer)
      (entry.2.Admissible normalizer ∧ entry.2.Within (maxDepth + 1 - depth))
      ((Value.text (normalizer.nfc entry.1)).render ++ (entry.2.normalize normalizer).render) (1 + entry.2.count) := by
    intro entry member
    exact (writes_countItem.andThen ((writes_appendBytes _).andThen (each entry (sorted.mem_iff.mp member)))).congr
      (by simp) rfl (by omega)
  rw [normalizeEntries_insertionSort, renderEntries_eq, countEntries_eq]
  unfold writePrepared
  simp only [prepared_insertionSort, foldlM_map, flatMap_map, length_map]
  refine ((writes_appendBytes _).andThen (writes_foldlM _ _ _ _ one)).congr ?_ rfl ?_
  · simp only [true_and, sorted.mem_iff]
  · rw [Nat.zero_add]
    exact (sorted.map _).sum_eq

/-- The encoder accepts an admissible value within the limits on its depth, its items and its bytes. -/
theorem Value.writes_encode (value : Value) (depth : Nat) : value.Writes normalizer maxDepth depth := by
  have deeper : maxDepth + 1 - depth - 1 = maxDepth + 1 - (depth + 1) := by omega
  induction value generalizing depth with
  | null | bool =>
    simp only [Value.Writes, Value.encode, Admissible, Value.Within, normalize, render, Value.count]
    exact ((writes_enter depth maxDepth).andThen (writes_appendBytes _)).congr (by simp) rfl rfl
  | text value =>
    rw [Value.Writes, Value.encode, Admissible, Value.Within, normalize, Value.count]
    exact (writes_encodeText normalizer maxDepth value depth).congr (by simp) rfl rfl
  | bytes value =>
    simp only [Value.Writes, Value.encode, Admissible, Value.Within, normalize, render, Value.count]
    exact ((writes_enter depth maxDepth).andThen ((writes_appendBytes _).andThen (writes_appendBytes _))).congr
      (by simp) rfl rfl
  | integer value =>
    simp only [Value.Writes, Value.encode, Admissible, Value.Within, normalize, render, Value.count]
    by_cases positive : 0 ≤ value
    · simp only [if_pos positive]
      exact ((writes_enter depth maxDepth).andThen (writes_appendBytes _).unless).congr (by simp; omega) rfl rfl
    · simp only [if_neg positive]
      exact ((writes_enter depth maxDepth).andThen (writes_appendBytes _).unless).congr (by simp; omega) rfl rfl
  | array values ih =>
    have many := length_le_countItems values
    simp only [Value.Writes, Value.encode, Admissible, Value.Within, normalize, render, Value.count,
      encodeItems_eq, foldlM_map, admissibleItems_iff, withinItems_iff]
    rw [normalizeItems_eq, renderItems_eq, flatMap_map, length_map, deeper]
    have each : ∀ value ∈ values, value.Writes normalizer maxDepth (depth + 1) :=
      fun value member => ih value member (depth + 1) (by omega)
    refine ((writes_enter depth maxDepth).andThen (((writes_appendBytes (headBytes 4 values.length)).andThen
      (writes_foldlM _ _ _ _ each)).limited fun writer few => ?_)).congr ?_ rfl ?_
    · rw [← countItems_eq] at few
      omega
    · simp only [true_and, imp_and, forall_and]
      constructor
      · rintro ⟨shallow, admissible, within⟩
        exact ⟨admissible, by omega, within⟩
      · rintro ⟨admissible, shallow, within⟩
        exact ⟨by omega, admissible, within⟩
    · rw [← countItems_eq, Nat.zero_add]
  | map entries ih =>
    have many := length_le_countEntries entries
    simp only [Value.Writes, Value.encode, Admissible, Value.Within, normalize, render, Value.count,
      admissibleEntries_iff, withinEntries_iff, length_insertionSort]
    rw [deeper, normalizeEntries_eq, length_map, ← normalizeEntries_eq]
    have written := writes_prepared normalizer maxDepth entries (depth + 1)
      fun entry member => ih entry member (depth + 1) (by omega)
    have prepared := Writes.after (writePrepared (depth + 1)) (prepare_ok_iff normalizer maxDepth depth [] entries)
      written
    refine ((writes_enter depth maxDepth).andThen (prepared.limited fun writer few => ?_)).congr ?_ rfl rfl
    · omega
    · simp only [imp_and, forall_and, not_mem_nil, not_false_eq_true, implies_true, and_true]
      constructor
      · rintro ⟨shallow, ⟨-, distinct⟩, admissible, within⟩
        exact ⟨⟨distinct, admissible⟩, by omega, within⟩
      · rintro ⟨⟨distinct, admissible⟩, shallow, within⟩
        refine ⟨by omega, ⟨fun nonempty => ?_, distinct⟩, admissible, within⟩
        obtain ⟨entry, member⟩ := exists_mem_of_ne_nil entries nonempty
        have room := (within entry member).pos
        omega

end Encoder

section Normalizing

variable {normalizer : Normalizer} {limits : WireLimits}

/-- Under a condition a run counts so many items, unless that is too much, and its result has the property. -/
structure Counts {α : Type} (limits : WireLimits) (run : Nat → Option (α × Nat)) (condition : Prop)
    (property : α → Prop) (count : Nat) : Prop where
  sound : ∀ items result next, items ≤ limits.maxItems → run items = some (result, next) →
    condition ∧ property result ∧ next = items + count ∧ next ≤ limits.maxItems
  complete : condition → ∀ items, items + count ≤ limits.maxItems → ∃ found, run items = some found

section Rules

variable {α β : Type} {run : Nat → Option (α × Nat)} {condition other : Prop} {property : α → Prop}
  {wanted : β → Prop} {count more : Nat}

theorem Counts.congr (counts : Counts limits run condition property count) (same : condition ↔ other)
    (equal : count = more) : Counts limits run other property more := by
  obtain rfl := propext same
  exact equal ▸ counts

theorem Counts.bind {k : α → Nat → Option (β × Nat)} (first : Counts limits run condition property count)
    (second : ∀ value, property value → Counts limits (k value) other wanted more) :
    Counts limits (fun items => run items >>= fun found => k found.1 found.2) (condition ∧ other) wanted
      (count + more) where
  sound items result next few found := by
    obtain ⟨⟨value, middle⟩, begun, done⟩ := bind_eq_some_iff.mp found
    obtain ⟨holds, known, rfl, fits⟩ := first.sound items value middle few begun
    obtain ⟨also, reached, rfl, allFit⟩ := (second value known).sound _ _ _ fits done
    exact ⟨⟨holds, also⟩, reached, by omega, allFit⟩
  complete holds items few := by
    obtain ⟨⟨value, middle⟩, begun⟩ := first.complete holds.1 items (by omega)
    obtain ⟨-, known, rfl, fits⟩ := first.sound items value middle (by omega) begun
    obtain ⟨found, done⟩ := (second value known).complete holds.2 (items + count) (by omega)
    exact ⟨found, bind_eq_some_iff.mpr ⟨_, begun, done⟩⟩

theorem counts_pure {value : α} (known : property value) :
    Counts limits (fun items => some (value, items)) True property 0 where
  sound items result next few found := by
    cases found
    exact ⟨trivial, known, rfl, few⟩
  complete _ items _ := ⟨_, rfl⟩

/-- A check before the run, and an item that is counted. -/
theorem Counts.unless {refused : Prop} [Decidable refused] (counts : Counts limits run condition property count) :
    Counts limits (fun items => if refused ∨ limits.maxItems ≤ items then none else run (items + 1))
      (¬ refused ∧ condition) property (1 + count) where
  sound items result next few found := by
    simp only [ite_none_left_eq_some, not_or, not_le] at found
    obtain ⟨⟨allowed, room⟩, found⟩ := found
    obtain ⟨holds, known, rfl, fits⟩ := counts.sound _ _ _ room found
    exact ⟨⟨allowed, holds⟩, known, by omega, fits⟩
  complete holds items few := by
    obtain ⟨found, done⟩ := counts.complete holds.2 (items + 1) (by omega)
    refine ⟨found, ?_⟩
    rw [if_neg (by rintro (refused | full); exacts [holds.1 refused, by omega]), done]

theorem Counts.entered {depth : Nat} (counts : Counts limits run condition property count) :
    Counts limits (fun items => limits.enter depth items >>= run)
      (0 < limits.maxDepth + 1 - depth ∧ condition) property (1 + count) := by
  have same : (fun items => limits.enter depth items >>= run) = fun items =>
      if limits.maxDepth < depth ∨ limits.maxItems ≤ items then none else run (items + 1) := by
    funext items
    rw [WireLimits.enter]
    split <;> rfl
  rw [same]
  exact counts.unless.congr (and_congr_left fun _ => by omega) rfl

end Rules

/-- `normalize` accepts an admissible value within the limits, and what it gives is written as the normal form. -/
def Value.Normalizes (normalizer : Normalizer) (limits : WireLimits) (depth : Nat) (value : Value) : Prop :=
  Counts limits (fun items => value.normalizeWithin normalizer limits depth items)
    (value.Admissible normalizer ∧ value.Within (limits.maxDepth + 1 - depth))
    (fun normalized => normalized.write = (value.normalize normalizer).render) value.count

theorem counts_normalizeItems {values : List Value} {depth : Nat}
    (each : ∀ value ∈ values, value.Normalizes normalizer limits depth) :
    Counts limits (fun items => normalizeItemsWithin normalizer limits values depth items)
      (∀ value ∈ values, value.Admissible normalizer ∧ value.Within (limits.maxDepth + 1 - depth))
      (fun normalized => normalized.length = values.length ∧
        writeItems normalized = renderItems (normalizeItems normalizer values)) (countItems values) := by
  induction values with
  | nil =>
    simp only [normalizeItemsWithin, countItems, normalizeItems, renderItems]
    exact (counts_pure ⟨rfl, by rw [writeItems]⟩).congr (by simp) rfl
  | cons value rest ih =>
    obtain ⟨first, others⟩ := forall_mem_cons.mp each
    simp only [normalizeItemsWithin, countItems, normalizeItems, renderItems, forall_mem_cons]
    refine (first.bind fun head one => (ih others).bind
      (k := fun tail items => some (head :: tail, items)) fun tail more => counts_pure ?_).congr (by simp) rfl
    exact ⟨congrArg (· + 1) more.1, by rw [writeItems, one, more.2]⟩

theorem counts_normalizeEntries {entries : List (String × Value)} {depth : Nat} {seen : List String}
    (each : ∀ entry ∈ entries, entry.2.Normalizes normalizer limits depth) :
    Counts limits (fun items => normalizeEntriesWithin normalizer limits entries depth seen items)
      (((entries.map fun entry => normalizer.nfc entry.1).Nodup ∧ ∀ entry ∈ entries, normalizer.nfc entry.1 ∉ seen) ∧
        ∀ entry ∈ entries, entry.2.Admissible normalizer ∧ entry.2.Within (limits.maxDepth + 1 - depth))
      (fun normalized => normalized.length = entries.length ∧
        writeEntries normalized = (normalizeEntries normalizer entries).map
          fun entry => ((Value.text entry.1).render, entry.2.render)) (countEntries entries) := by
  induction entries generalizing seen with
  | nil =>
    simp only [normalizeEntriesWithin, countEntries, normalizeEntries]
    exact (counts_pure ⟨rfl, by rw [writeEntries]; rfl⟩).congr (by simp) rfl
  | cons entry rest ih =>
    obtain ⟨key, value⟩ := entry
    obtain ⟨first, others⟩ := forall_mem_cons.mp each
    have first : value.Normalizes normalizer limits depth := first
    simp only [normalizeEntriesWithin, countEntries, normalizeEntries, or_comm (a := limits.maxItems ≤ _)]
    refine (first.bind fun head one => (ih others).bind
      (k := fun tail items => some ((normalizer.nfc key, head) :: tail, items)) fun tail more =>
        counts_pure ?_).unless.congr ?_ (by omega)
    · exact ⟨congrArg (· + 1) more.1, by rw [writeEntries, one, more.2, List.map_cons, render]⟩
    · simp only [List.map_cons, nodup_cons, forall_mem_cons, List.mem_map]
      constructor
      · rintro ⟨fresh, here, ⟨⟨distinct, unseen⟩, inner⟩, -⟩
        refine ⟨⟨⟨?_, distinct⟩, fresh, fun entry known old => unseen entry known (mem_cons_of_mem _ old)⟩, here, inner⟩
        rintro ⟨entry, known, same⟩
        exact unseen entry known (same ▸ mem_cons_self)
      · rintro ⟨⟨⟨new, distinct⟩, fresh, unseen⟩, here, inner⟩
        refine ⟨fresh, here, ⟨⟨distinct, fun entry known old => ?_⟩, inner⟩, trivial⟩
        rcases mem_cons.mp old with same | old
        · exact new ⟨entry, known, same⟩
        · exact unseen entry known old

theorem write_map {normalized entries : List (String × Value)} (lengths : normalized.length = entries.length)
    (written : writeEntries normalized = (normalizeEntries normalizer entries).map
      fun entry => ((Value.text entry.1).render, entry.2.render)) :
    (Value.map normalized).write = ((Value.map entries).normalize normalizer).render := by
  have sorted := map_insertionSort (r := EntryBefore) (fun left right : Bytes × Bytes => KeyBefore left.1 right.1)
    (fun entry : String × Value => ((Value.text entry.1).render, entry.2.render))
    (normalizeEntries normalizer entries) fun _ _ _ _ => Iff.rfl
  rw [Value.normalize, write, render, written, ← sorted, flatMap_map, renderEntries_eq,
    length_insertionSort, lengths, normalizeEntries_eq, length_map]

theorem Value.normalizes (value : Value) (depth : Nat) : value.Normalizes normalizer limits depth := by
  have deeper : limits.maxDepth + 1 - depth - 1 = limits.maxDepth + 1 - (depth + 1) := by omega
  induction value generalizing depth with
  | null | bool | text | bytes =>
    simp only [Value.Normalizes, normalizeWithin, Admissible, Value.Within, Value.count, normalize,
      render, map_eq_bind]
    exact (counts_pure (by rw [write])).entered.congr (by simp) rfl
  | integer value =>
    simp only [Value.Normalizes, normalizeWithin, Admissible, Value.Within, Value.count, normalize, render]
    by_cases safe : value.natAbs ≤ maxSafeInteger
    · simp only [if_neg (not_lt.mpr safe)]
      exact (counts_pure (by rw [write])).entered.congr (by simp [safe]) rfl
    · simp only [if_pos (not_le.mp safe)]
      exact ⟨fun items result next few found => by simp at found, fun holds => absurd holds.1 safe⟩
  | array values ih =>
    simp only [Value.Normalizes, normalizeWithin, Admissible, Value.Within, Value.count, normalize,
      render, admissibleItems_iff, withinItems_iff, deeper]
    have inner := counts_normalizeItems fun value member => ih value member (depth + 1) (by omega)
    refine (inner.bind (k := fun values items => some (Value.array values, items)) fun values found =>
      counts_pure ?_).entered.congr ?_ rfl
    · rw [write, found.1, found.2, normalizeItems_eq, length_map]
    · simp only [imp_and, forall_and, and_true]
      exact and_left_comm
  | map entries ih =>
    simp only [Value.Normalizes, normalizeWithin, Admissible, Value.Within, Value.count,
      admissibleEntries_iff, withinEntries_iff, deeper]
    have inner := @counts_normalizeEntries normalizer limits entries (depth + 1) []
      fun entry member => ih entry member (depth + 1) (by omega)
    refine (inner.bind (k := fun entries items => some (Value.map entries, items)) fun entries found =>
      counts_pure (write_map found.1 found.2)).entered.congr ?_ rfl
    simp only [imp_and, forall_and, and_true, not_mem_nil, not_false_eq_true, implies_true]
    tauto

end Normalizing

section Acceptance

variable {normalizer : Normalizer}
variable {value : Value} {bytes : Bytes}

/-- The value is admissible and within the limits. -/
structure Value.Fits (normalizer : Normalizer) (limits : WireLimits) (value : Value) : Prop where
  admissible : value.Admissible normalizer
  within : value.Within (limits.maxDepth + 1)
  count : value.count ≤ limits.maxItems
  size : (value.normalize normalizer).render.length ≤ limits.maxBytes

def Options.limits (options : Options) : WireLimits :=
  ⟨options.maxDepth.toNat, options.maxBytes.toNat, options.maxItems.toNat⟩

def Options.Natural (options : Options) : Prop :=
  0 ≤ options.maxDepth ∧ 0 ≤ options.maxBytes ∧ 0 ≤ options.maxItems

/-- `Encode` accepts exactly the values that fit in its options. -/
theorem encode_ok_iff {options : Options} :
    encode normalizer value options = .ok bytes ↔ options.Natural ∧ value.Fits normalizer options.limits ∧
      bytes = (value.normalize normalizer).render := by
  simp only [encode, steps_ok, not_or, not_lt]
  refine and_congr Iff.rfl ?_
  constructor
  · rintro ⟨writer, written, rfl⟩
    obtain ⟨⟨admissible, within⟩, few, short, rfl⟩ :=
      (value.writes_encode normalizer options.maxDepth.toNat 0 _ writer ⟨by simp, by simp⟩).mp written
    exact ⟨⟨admissible, within, by simpa [Options.limits] using few, by simpa [Options.limits] using short⟩,
      by simp [Writer.added]⟩
  · rintro ⟨fits, rfl⟩
    refine ⟨_, (value.writes_encode normalizer options.maxDepth.toNat 0 _ _ ⟨by simp, by simp⟩).mpr
      ⟨⟨fits.admissible, fits.within⟩, ?_, ?_, rfl⟩, by simp [Writer.added]⟩
    · simpa [Options.limits] using fits.count
    · simpa [Options.limits] using fits.size

/-- `encodeCanonicalCbor` accepts exactly the values that fit in its limits. -/
theorem encodeCanonicalCbor_eq_some_iff {limits : WireLimits} :
    encodeCanonicalCbor normalizer limits value = some bytes ↔
      value.Fits normalizer limits ∧ bytes = (value.normalize normalizer).render := by
  have counts : value.Normalizes normalizer limits 0 := value.normalizes 0
  simp only [encodeCanonicalCbor, bind_eq_bind, bind_eq_some_iff, ite_none_left_eq_some,
    some.injEq, Prod.exists, not_lt]
  constructor
  · rintro ⟨normalized, next, read, short, rfl⟩
    obtain ⟨⟨admissible, within⟩, written, same, few⟩ := counts.sound 0 normalized next (Nat.zero_le _) read
    rw [written] at short ⊢
    exact ⟨⟨admissible, within, by omega, short⟩, rfl⟩
  · rintro ⟨fits, rfl⟩
    obtain ⟨⟨normalized, next⟩, read⟩ := counts.complete ⟨fits.admissible, fits.within⟩ 0 (by simpa using fits.count)
    obtain ⟨-, written, -⟩ := counts.sound 0 normalized next (Nat.zero_le _) read
    exact ⟨normalized, next, read, written ▸ fits.size, written⟩

/-- What was encoded under some limits is decoded under limits that are no tighter. -/
theorem decode_encode {limits other : WireLimits}
    (ok : encodeCanonicalCbor normalizer limits value = some bytes) (bounded : limits.maxBytes < 2 ^ 64)
    (deep : limits.maxDepth = other.maxDepth) (many : limits.maxItems = other.maxItems)
    (short : bytes.length ≤ other.maxBytes) :
    decodeCanonicalCbor normalizer other bytes = some (value.normalize normalizer) := by
  obtain ⟨fits, rfl⟩ := encodeCanonicalCbor_eq_some_iff.mp ok
  have size := fits.size
  have few : 0 + (value.normalize normalizer).count ≤ other.maxItems := by
    rw [Value.normalize_count, Nat.zero_add, ← many]
    exact fits.count
  have read := readValue_render fits.admissible.regular (by omega) (Value.normalize_within.mpr (deep ▸ fits.within)) 0 []
    few
  rw [append_nil] at read
  unfold decodeCanonicalCbor
  rw [if_neg (by omega), read]

theorem encode_injective {left right : Value} {options : Options} (small : options.maxBytes < 2 ^ 64)
    (first : encode normalizer left options = .ok bytes) (second : encode normalizer right options = .ok bytes) :
    left.normalize normalizer = right.normalize normalizer := by
  have bounded : options.limits.maxBytes < 2 ^ 64 := by
    simp only [Options.limits]
    omega
  have decoded {value : Value} (ok : encode normalizer value options = .ok bytes) :
      decodeCanonicalCbor normalizer options.limits bytes = some (value.normalize normalizer) := by
    obtain ⟨-, fits, rfl⟩ := encode_ok_iff.mp ok
    exact decode_encode (encodeCanonicalCbor_eq_some_iff.mpr ⟨fits, rfl⟩) bounded rfl rfl fits.size
  exact some.inj ((decoded first).symm.trans (decoded second))

/-- The hash tells the encodings of two payloads apart. -/
def Separates (normalizer : Normalizer) (sha256 : Bytes → Bytes) (domain : String) (schemaVersion : Nat)
    (left right : Value) : Prop :=
  ∀ leftBytes rightBytes, encode normalizer (envelope domain schemaVersion left) defaultOptions = .ok leftBytes →
    encode normalizer (envelope domain schemaVersion right) defaultOptions = .ok rightBytes →
    sha256 leftBytes = sha256 rightBytes → leftBytes = rightBytes

/-- Digests of one domain and version agree only on values with one normal form. -/
theorem structuredDigest_injective {sha256 : Bytes → Bytes} {domain digest : String} {schemaVersion : Nat}
    {left right : Value} (separates : Separates normalizer sha256 domain schemaVersion left right)
    (first : structuredDigest normalizer sha256 domain schemaVersion left = .ok digest)
    (second : structuredDigest normalizer sha256 domain schemaVersion right = .ok digest) :
    left.normalize normalizer = right.normalize normalizer := by
  simp only [structuredDigest, steps_ok] at first second
  obtain ⟨-, -, leftBytes, leftEncoded, rfl⟩ := first
  obtain ⟨-, -, rightBytes, rightEncoded, same⟩ := second
  have texts : hexText (sha256 rightBytes) = hexText (sha256 leftBytes) := by
    refine String.toList_inj.mp ?_
    have lists := congrArg String.toList same
    simpa using lists
  obtain rfl := separates _ _ leftEncoded rightEncoded (hexText_injective texts).symm
  have values := encode_injective (by decide) leftEncoded rightEncoded
  simp only [envelope, Value.normalize, normalizeItems, Value.array.injEq, cons.injEq] at values
  exact values.2.2.2.2.1

end Acceptance

end Circulusd.Canonical
