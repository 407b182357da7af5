import Circulusd.Canonical.Acceptance

/-
The deterministic CBOR decoder of the canonical package, and that it reads what the TypeScript decoder
reads.
-/

namespace Circulusd.Canonical

open Checked Platform Protocol List Option

section Decoder

def invalidEncoding (detail : String) : Refusal :=
  CanonicalError.invalidEncoding.wrap detail

def depthLimit (maxDepth : Nat) : Refusal :=
  CanonicalError.limitExceeded.wrap ("maximum depth " ++ toString maxDepth)

def decodedItemLimit (maxItems : Nat) : Refusal :=
  CanonicalError.limitExceeded.wrap ("decoded item limit " ++ toString maxItems ++ " exceeded")

namespace Decoder

/-- The argument of an initial byte, and the bytes after it. -/
def argument (additional : Nat) (encoded : Bytes) : Except Refusal (Nat × Bytes) :=
  if additional < 24 then .ok (additional, encoded)
  else if additional ≤ 27 then do
    let width := 2 ^ (additional - 24)
    refuseIf (encoded.length < width) (invalidEncoding "truncated argument")
    let argument := unsigned (encoded.take width)
    refuseIf (argument < minimumArgument width) (invalidEncoding "non-minimal argument")
    pure (argument, encoded.drop width)
  else if additional = 31 then .error (invalidEncoding "indefinite-length values are unsupported")
  else .error (invalidEncoding "reserved additional information")

/-- A reader of one value: the items counted so far and the bytes ahead. -/
abbrev Read := Nat → Bytes → Except Refusal (Value × Nat × Bytes)

def readItems (read : Read) : Nat → Nat → Bytes → Except Refusal (List Value × Nat × Bytes)
  | 0, items, encoded => .ok ([], items, encoded)
  | count + 1, items, encoded => do
    let (value, items, encoded) ← read items encoded
    let (rest, items, encoded) ← readItems read count items encoded
    pure (value :: rest, items, encoded)

/-- The previous key is given by its bytes, and the keys so far by their texts. -/
def readEntries (read : Read) :
    Nat → Option Bytes → List String → Nat → Bytes → Except Refusal (List (String × Value) × Nat × Bytes)
  | 0, _, _, items, encoded => .ok ([], items, encoded)
  | count + 1, previous, seen, items, encoded => do
    refuseIf (encoded.head?.map (·.toNat / 32) ≠ some 3) (invalidEncoding "map keys must be text")
    let (keyValue, items, ahead) ← read items encoded
    match keyValue with
    | .text key => do
      refuseIf (key ∈ seen) (invalidEncoding "duplicate map key")
      let currentKey := encoded.take (encoded.length - ahead.length)
      refuseIf (previous.any (fun previousKey => decide (KeyBefore currentKey previousKey)) = true)
        (invalidEncoding "map keys are not in deterministic order")
      let (item, items, encoded) ← read items ahead
      let (rest, items, encoded) ← readEntries read count (some currentKey) (key :: seen) items encoded
      pure ((key, item) :: rest, items, encoded)
    | _ => .error (invalidEncoding "map keys must be text")

/-- `readValue`; the recursion is on the depth that is left. -/
def readValue (normalizer : Normalizer) (maxDepth maxItems : Nat) : Nat → Read
  | 0, _, _ => .error (depthLimit maxDepth)
  | remaining + 1, items, encoded => do
    refuseIf (maxItems ≤ items) (decodedItemLimit maxItems)
    let items := items + 1
    match encoded with
    | [] => .error (invalidEncoding "truncated input")
    | initial :: encoded =>
      let major := initial.toNat / 32
      if major = 7 then
        if initial = 0xf4 then .ok (.bool false, items, encoded)
        else if initial = 0xf5 then .ok (.bool true, items, encoded)
        else if initial = 0xf6 then .ok (.null, items, encoded)
        else .error (invalidEncoding "unsupported simple, floating-point, or break value")
      else if major = 6 then .error (invalidEncoding "tags are unsupported")
      else do
        let (argument, encoded) ← argument (initial.toNat % 32) encoded
        match major with
        | 0 => do
          refuseIf (maxSafeInteger < argument) (invalidEncoding "integer exceeds the shared safe range")
          pure (.integer argument, items, encoded)
        | 1 => do
          refuseIf (maxSafeInteger ≤ argument) (invalidEncoding "integer exceeds the shared safe range")
          pure (.integer (-1 - argument), items, encoded)
        | 2 => do
          refuseIf (encoded.length < argument) (invalidEncoding "declared string length exceeds remaining input")
          pure (.bytes (encoded.take argument), items, encoded.drop argument)
        | 3 => do
          refuseIf (encoded.length < argument) (invalidEncoding "declared string length exceeds remaining input")
          let text ← require (String.fromUTF8? ⟨(encoded.take argument).toArray⟩) (invalidEncoding "text is not UTF-8")
          refuseIf (normalizer.nfc text ≠ text) (invalidEncoding "text is not NFC-normalized")
          pure (.text text, items, encoded.drop argument)
        | 4 => do
          refuseIf (encoded.length < argument) (invalidEncoding "declared array length exceeds remaining input")
          refuseIf (maxItems - items < argument) (decodedItemLimit maxItems)
          refuseIf (0 < argument ∧ remaining = 0) (depthLimit maxDepth)
          let (values, items, encoded) ←
            readItems (readValue normalizer maxDepth maxItems remaining) argument items encoded
          pure (.array values, items, encoded)
        | _ => do
          refuseIf (encoded.length / 2 < argument) (invalidEncoding "declared map length exceeds remaining input")
          refuseIf ((maxItems - items) / 2 < argument) (decodedItemLimit maxItems)
          refuseIf (0 < argument ∧ remaining = 0) (depthLimit maxDepth)
          let (entries, items, encoded) ←
            readEntries (readValue normalizer maxDepth maxItems remaining) argument none [] items encoded
          pure (.map entries, items, encoded)

end Decoder

/-- `Decode`. -/
def decode (normalizer : Normalizer) (encoded : Bytes) (options : Options) : Except Refusal Value := do
  refuseIf (options.maxDepth < 0 ∨ options.maxBytes < 0 ∨ options.maxItems < 0)
    ⟨.invalidOption, CanonicalError.invalidOption.text⟩
  refuseIf (options.maxBytes < encoded.length)
    (CanonicalError.limitExceeded.wrap ("encoded size exceeds " ++ toString options.maxBytes ++ " bytes"))
  let (value, _, rest) ←
    Decoder.readValue normalizer options.maxDepth.toNat options.maxItems.toNat (options.maxDepth.toNat + 1) 0 encoded
  refuseIf (rest ≠ []) (invalidEncoding "trailing bytes after the value")
  pure value

end Decoder

section Readers

variable {normalizer : Normalizer} {maxDepth maxItems : Nat}

theorem Decoder.argument_ok_iff (additional : Nat) (encoded : Bytes) (result : Nat × Bytes) :
    Decoder.argument additional encoded = .ok result ↔ readArgument additional encoded = some result := by
  unfold Decoder.argument readArgument
  by_cases short : additional < 24
  · simp [short]
  · by_cases known : additional ≤ 27
    · have inside : ¬ 27 < additional := by omega
      simp [short, known, inside, and_assoc]
    · have outside : 27 < additional := by omega
      simp only [short, known, outside, if_true, if_false]
      split <;> simp

/-- A reader of the one decoder gives what a reader of the other gives. -/
def Agree (read : Decoder.Read) (other : Reader) : Prop :=
  ∀ items bytes result, read items bytes = .ok result ↔ other items bytes = some result

theorem Agree.readItems {read : Decoder.Read} {other : Reader} (agree : Agree read other) (count items : Nat)
    (bytes : Bytes) (result : List Value × Nat × Bytes) :
    Decoder.readItems read count items bytes = .ok result ↔
      Canonical.readItems other count items bytes = some result := by
  induction count generalizing items bytes result with
  | zero => simp [Decoder.readItems, Canonical.readItems]
  | succ count ih =>
    simp only [Decoder.readItems, Canonical.readItems, bind_eq_bind, steps_ok, bind_eq_some_iff, agree _ _ _, ih,
      some.injEq]

/-- A reader finds a text only behind the initial byte of a text. -/
def TextInitial (read : Reader) : Prop :=
  ∀ items bytes key next ahead, read items bytes = some (.text key, next, ahead) →
    bytes.head?.map (·.toNat / 32) = some 3

theorem Agree.readEntries {read : Decoder.Read} {other : Reader} (agree : Agree read other) (text : TextInitial other)
    (count : Nat) (previous : Option Bytes) (seen : List String) (items : Nat) (bytes : Bytes)
    (result : List (String × Value) × Nat × Bytes) :
    Decoder.readEntries read count previous seen items bytes = .ok result ↔
      Canonical.readEntries other count previous seen items bytes = some result := by
  induction count generalizing previous seen items bytes result with
  | zero => simp [Decoder.readEntries, Canonical.readEntries]
  | succ count ih =>
    simp only [Decoder.readEntries, Canonical.readEntries, bind_eq_bind, steps_ok, bind_eq_some_iff, agree _ _ _]
    rw [← exists_and_left]
    refine exists_congr fun answer => ?_
    obtain ⟨value, next, ahead⟩ := answer
    cases value with
    | text name =>
      simp only [steps_ok, agree _ _ _, ih, ite_none_left_eq_some, not_or, bind_eq_some_iff, some.injEq, and_assoc]
      exact ⟨And.right, fun ok => ⟨text _ _ _ _ _ ok.1, ok⟩⟩
    | _ => simp

theorem readItems_stuck {read : Reader} (stuck : ∀ items bytes, read items bytes = none) {count : Nat}
    (nonempty : 0 < count) (items : Nat) (bytes : Bytes) : Canonical.readItems read count items bytes = none := by
  obtain ⟨count, rfl⟩ := Nat.exists_eq_succ_of_ne_zero nonempty.ne'
  simp [Canonical.readItems, stuck]

theorem readEntries_stuck {read : Reader} (stuck : ∀ items bytes, read items bytes = none) {count : Nat}
    (nonempty : 0 < count) (previous : Option Bytes) (seen : List String) (items : Nat) (bytes : Bytes) :
    Canonical.readEntries read count previous seen items bytes = none := by
  obtain ⟨count, rfl⟩ := Nat.exists_eq_succ_of_ne_zero nonempty.ne'
  simp [Canonical.readEntries, stuck]

theorem readValue_textInitial (levels : Nat) : TextInitial (Canonical.readValue normalizer maxItems levels) := by
  intro items bytes key next ahead read
  cases levels with
  | zero => cases read
  | succ levels =>
    cases bytes with
    | nil => cases read
    | cons initial bytes =>
      rw [Canonical.readValue] at read
      simp only [Option.ite_none_left_eq_some] at read
      obtain ⟨-, read⟩ := read
      split_ifs at read with simple no yes null tagged
      · simp at read
      · simp at read
      · simp at read
      · simp only [Option.bind_eq_bind, Option.bind_eq_some_iff, Prod.exists] at read
        obtain ⟨argument, rest, -, read⟩ := read
        split at read
        case h_4 => simp [*]
        all_goals simp [Option.bind_eq_some_iff] at read

/-- The two decoders read the same values from the same bytes. -/
theorem readValue_agree (levels : Nat) :
    Agree (Decoder.readValue normalizer maxDepth maxItems levels) (Canonical.readValue normalizer maxItems levels) := by
  induction levels with
  | zero =>
    intro items bytes result
    simp [Decoder.readValue, Canonical.readValue]
  | succ levels ih =>
    have stuck : levels = 0 → ∀ items bytes, Canonical.readValue normalizer maxItems levels items bytes = none := by
      rintro rfl items bytes
      rfl
    intro items bytes result
    cases bytes with
    | nil =>
      rw [Decoder.readValue, Canonical.readValue]
      simp
    | cons initial bytes =>
      rw [Decoder.readValue, Canonical.readValue]
      simp only [steps_ok, ite_none_left_eq_some]
      refine and_congr_right fun room => ?_
      split_ifs
      · simp
      · simp
      · simp
      · simp
      · simp
      · simp only [bind_ok, bind_eq_bind, bind_eq_some_iff, Decoder.argument_ok_iff]
        refine exists_congr fun answer => and_congr_right fun read => ?_
        obtain ⟨argument, rest⟩ := answer
        generalize initial.toNat / 32 = major
        obtain rfl | rfl | rfl | rfl | rfl | ⟨more, rfl⟩ :
            major = 0 ∨ major = 1 ∨ major = 2 ∨ major = 3 ∨ major = 4 ∨ ∃ more, major = more + 5 := by
          rcases lt_or_ge major 5 with small | large
          · omega
          · exact .inr (.inr (.inr (.inr (.inr ⟨major - 5, by omega⟩))))
        · simp
        · simp
        · simp
        · simp [bind_eq_some_iff]
        · simp only [steps_ok, ih.readItems, ite_none_left_eq_some, not_or, bind_eq_some_iff, some.injEq, and_assoc]
          refine and_congr_right fun _ => and_congr (by omega) ?_
          refine ⟨And.right, fun ok => ⟨fun deep => ?_, ok⟩⟩
          obtain ⟨values, found, -⟩ := ok
          rw [readItems_stuck (stuck deep.2) deep.1] at found
          contradiction
        · simp only [steps_ok, ih.readEntries (readValue_textInitial levels), ite_none_left_eq_some, not_or,
            bind_eq_some_iff, some.injEq, and_assoc]
          refine and_congr (by omega) (and_congr (by omega) ?_)
          refine ⟨And.right, fun ok => ⟨fun deep => ?_, ok⟩⟩
          obtain ⟨values, found, -⟩ := ok
          rw [readEntries_stuck (stuck deep.2) deep.1] at found
          contradiction

/-- `Decode` and `decodeCanonicalCbor` accept the same bytes, with the same value. -/
theorem decode_ok_iff {bytes : Bytes} {options : Options} {value : Value} :
    decode normalizer bytes options = .ok value ↔
      options.Natural ∧ decodeCanonicalCbor normalizer options.limits bytes = some value := by
  have size : options.limits.maxBytes = options.maxBytes.toNat := rfl
  have items : options.limits.maxItems = options.maxItems.toNat := rfl
  have depth : options.limits.maxDepth = options.maxDepth.toNat := rfl
  simp only [decode, decodeCanonicalCbor, steps_ok, not_or, not_lt, readValue_agree _ _ _ _, Prod.exists,
    Option.ite_none_left_eq_some, ← items, ← depth]
  refine and_congr_right fun natural => and_congr ?_ ?_
  · have positive := natural.2.1
    omega
  · constructor
    · rintro ⟨found, items, rest, read, rfl, rfl⟩
      rw [read]
    · intro ok
      split at ok
      case h_1 found items read =>
        cases ok
        exact ⟨_, _, _, read, rfl, rfl⟩
      case h_2 => contradiction

end Readers

section Bijection

/-- What is decoded fits in the limits and is in normal form, and its bytes are those that were decoded. -/
theorem decodeCanonicalCbor_sound {normalizer : Normalizer} {limits : WireLimits} {bytes : Bytes} {value : Value}
    (ok : decodeCanonicalCbor normalizer limits bytes = some value) :
    value.Fits normalizer limits ∧ value.normalize normalizer = value ∧ bytes = value.render := by
  simp only [decodeCanonicalCbor, ite_none_left_eq_some, not_lt] at ok
  obtain ⟨short, ok⟩ := ok
  split at ok
  case h_1 found items read =>
    cases ok
    obtain ⟨rfl, regular, within, rfl, few⟩ := readValue_sound _ _ _ _ _ _ read
    rw [append_nil] at short ⊢
    exact ⟨⟨regular.admissible, within, by omega, regular.normalize_eq.symm ▸ short⟩, regular.normalize_eq, rfl⟩
  case h_2 => contradiction

/-- The limits are values of the type `int`. -/
def Options.Representable (options : Options) : Prop :=
  options.maxDepth < 2 ^ 63 ∧ options.maxBytes < 2 ^ 63 ∧ options.maxItems < 2 ^ 63

/-- `Decode` gives the normal form of what was encoded, which has the same encoding, and it accepts only the
encoding of what it gives, so that no value has two of them. -/
theorem encode_decode_bijection (normalizer : Normalizer) (options : Options) (representable : options.Representable) :
    (∀ value bytes, encode normalizer value options = .ok bytes →
      decode normalizer bytes options = .ok (value.normalize normalizer) ∧
        encode normalizer (value.normalize normalizer) options = .ok bytes) ∧
    (∀ bytes value, decode normalizer bytes options = .ok value →
      value.normalize normalizer = value ∧ encode normalizer value options = .ok bytes) ∧
    (∀ first second value, decode normalizer first options = .ok value → decode normalizer second options = .ok value →
      first = second) := by
  have bounded : options.limits.maxBytes < 2 ^ 64 := by
    have wide := representable.2.1
    simp only [Options.limits]
    omega
  have encoded {bytes : Bytes} {value : Value} (ok : decode normalizer bytes options = .ok value) :
      value.normalize normalizer = value ∧ encode normalizer value options = .ok bytes := by
    obtain ⟨natural, found⟩ := decode_ok_iff.mp ok
    obtain ⟨fits, normal, written⟩ := decodeCanonicalCbor_sound found
    exact ⟨normal, encode_ok_iff.mpr ⟨natural, fits, written.trans (congrArg Value.render normal.symm)⟩⟩
  refine ⟨fun value bytes ok => ?_, fun bytes value ok => encoded ok, fun first second value one two => ?_⟩
  · obtain ⟨natural, fits, rfl⟩ := encode_ok_iff.mp ok
    have decoded := decode_ok_iff.mpr
      ⟨natural, decode_encode (encodeCanonicalCbor_eq_some_iff.mpr ⟨fits, rfl⟩) bounded rfl rfl fits.size⟩
    exact ⟨decoded, (encoded decoded).2⟩
  · exact Except.ok.inj ((encoded one).2.symm.trans (encoded two).2)

def sampleNormalizer : Normalizer := .identity

/-- A map in a map, with the keys of both out of order. -/
def sampleValue : Value :=
  .map [("b", .array [.integer (-2), .text "x"]), ("a", .map [("dd", .null), ("c", .bytes [7])])]

def sampleSorted : Value :=
  .map [("a", .map [("c", .bytes [7]), ("dd", .null)]), ("b", .array [.integer (-2), .text "x"])]

def sampleBytes : Bytes :=
  [0xa2, 0x61, 0x61, 0xa2, 0x61, 0x63, 0x41, 0x07, 0x62, 0x64, 0x64, 0xf6, 0x61, 0x62, 0x82, 0x21, 0x61, 0x78]

theorem sample_encoded : encode sampleNormalizer sampleValue defaultOptions = .ok sampleBytes := by decide +kernel

theorem sample_decoded : decode sampleNormalizer sampleBytes defaultOptions = .ok sampleSorted := by rfl

theorem encode_decode_bijection_sample : defaultOptions.Representable ∧
    encode sampleNormalizer sampleValue defaultOptions = .ok sampleBytes ∧
    sampleValue.normalize sampleNormalizer = sampleSorted ∧
    encode sampleNormalizer sampleSorted defaultOptions = .ok sampleBytes := by
  have representable : defaultOptions.Representable := by
    unfold Options.Representable
    decide
  obtain ⟨decoded, again⟩ :=
    (encode_decode_bijection sampleNormalizer defaultOptions representable).1 _ _ sample_encoded
  have sorted := Except.ok.inj (decoded.symm.trans sample_decoded)
  exact ⟨representable, sample_encoded, sorted, sorted ▸ again⟩

/-- What `Decode` accepts is prefix-free: it refuses accepted bytes that are cut short or continued. -/
theorem decode_prefix_free (normalizer : Normalizer) (options : Options) :
    {bytes : Bytes | bytes.length < 2 ^ 64 ∧ ∃ value, decode normalizer bytes options = .ok value}.Pairwise
      fun left right => ¬ left <+: right := by
  rintro _ ⟨short, value, ok⟩ right ⟨-, other, found⟩ different ⟨rest, continued⟩
  obtain ⟨fits, normal, rfl⟩ := decodeCanonicalCbor_sound (decode_ok_iff.mp ok).2
  have read := readValue_render (normal ▸ fits.admissible.regular) short fits.within 0 rest (by simpa using fits.count)
  -- A reader of the longer bytes stops where the value ends.
  have whole := (decode_ok_iff.mp found).2
  rw [decodeCanonicalCbor, ← continued, read] at whole
  cases rest with
  | nil => exact different (by simpa using continued)
  | cons => simp at whole

end Bijection

end Circulusd.Canonical
