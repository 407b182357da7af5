import Circulusd.Canonical.Decode

/-
The canonical codecs of the two languages side by side, and their structured digests.
-/

namespace Circulusd.Canonical

open Checked Platform Protocol Option

section Options

/-- The options of the TypeScript functions; a limit may be left out. -/
structure WireOptions where
  maxDepth : Option Int
  maxBytes : Option Int
  maxItems : Option Int
deriving DecidableEq

/-- `checkedLimit`: a limit is a safe integer that is not negative. -/
def checkedLimit (value : Option Int) (fallback : Nat) : Option Nat :=
  let resolved := value.getD fallback
  if maxSafeInteger < resolved ∨ resolved < 0 then none else some resolved.toNat

/-- `encodeCanonicalCbor` with its options. -/
def encodeCanonicalCborWith (normalizer : Normalizer) (options : WireOptions) (value : Value) : Option Bytes := do
  let maxDepth ← checkedLimit options.maxDepth 64
  let maxBytes ← checkedLimit options.maxBytes maxSafeInteger
  let maxItems ← checkedLimit options.maxItems maxSafeInteger
  encodeCanonicalCbor normalizer ⟨maxDepth, maxBytes, maxItems⟩ value

/-- `decodeCanonicalCbor` with its options. -/
def decodeCanonicalCborWith (normalizer : Normalizer) (options : WireOptions) (bytes : Bytes) : Option Value := do
  let maxBytes ← checkedLimit options.maxBytes maxSafeInteger
  let maxDepth ← checkedLimit options.maxDepth 64
  let maxItems ← checkedLimit options.maxItems 1000000
  decodeCanonicalCbor normalizer ⟨maxDepth, maxBytes, maxItems⟩ bytes

/-- The same limits in the other language. -/
def Options.wire (options : Options) : WireOptions :=
  ⟨some options.maxDepth, some options.maxBytes, some options.maxItems⟩

/-- A JavaScript number holds every integer up to each of the limits. -/
def Options.Safe (options : Options) : Prop :=
  options.maxDepth ≤ maxSafeInteger ∧ options.maxBytes ≤ maxSafeInteger ∧ options.maxItems ≤ maxSafeInteger

theorem checkedLimit_eq_some_iff (value : Int) (fallback limit : Nat) : checkedLimit (some value) fallback = some limit ↔
    (0 ≤ value ∧ value ≤ maxSafeInteger) ∧ limit = value.toNat := by
  unfold checkedLimit
  rw [getD_some, ite_none_left_eq_some, some.injEq]
  omega

theorem encodeCanonicalCborWith_wire {normalizer : Normalizer} {options : Options} {value : Value} {bytes : Bytes} :
    encodeCanonicalCborWith normalizer options.wire value = some bytes ↔
      options.Natural ∧ options.Safe ∧ encodeCanonicalCbor normalizer options.limits value = some bytes := by
  simp only [encodeCanonicalCborWith, Options.wire, bind_eq_bind, bind_eq_some_iff,
    checkedLimit_eq_some_iff, and_assoc, exists_and_left, exists_eq_left, Options.Natural, Options.Safe]
  tauto

theorem decodeCanonicalCborWith_wire {normalizer : Normalizer} {options : Options} {value : Value} {bytes : Bytes} :
    decodeCanonicalCborWith normalizer options.wire bytes = some value ↔
      options.Natural ∧ options.Safe ∧ decodeCanonicalCbor normalizer options.limits bytes = some value := by
  simp only [decodeCanonicalCborWith, Options.wire, bind_eq_bind, bind_eq_some_iff,
    checkedLimit_eq_some_iff, and_assoc, exists_and_left, exists_eq_left, Options.Natural, Options.Safe]
  tauto

end Options

section Codecs

/-- Under equal limits, and where the two languages normalize a text alike, the codecs accept the same bytes
and values, with the same results. -/
theorem codecs_agree (normalizer wireNormalizer : Normalizer) (alike : ∀ text, normalizer.nfc text = wireNormalizer.nfc text)
    (options : Options) (safe : options.Safe) :
    (∀ bytes value, decode normalizer bytes options = .ok value ↔
      decodeCanonicalCborWith wireNormalizer options.wire bytes = some value) ∧
    (∀ value bytes, encode normalizer value options = .ok bytes ↔
      encodeCanonicalCborWith wireNormalizer options.wire value = some bytes) := by
  obtain rfl := Normalizer.ext (funext alike)
  refine ⟨fun bytes value => ?_, fun value bytes => ?_⟩
  · rw [decode_ok_iff, decodeCanonicalCborWith_wire]
    exact ⟨fun read => ⟨read.1, safe, read.2⟩, fun read => ⟨read.1, read.2.2⟩⟩
  · rw [encode_ok_iff, encodeCanonicalCborWith_wire, encodeCanonicalCbor_eq_some_iff]
    exact ⟨fun written => ⟨written.1, safe, written.2⟩, fun written => ⟨written.1, written.2.2⟩⟩

/-- A normalizer that goes through the characters of a text. -/
def sampleWireNormalizer : Normalizer where
  nfc text := String.ofList text.toList
  ascii _ _ := String.ofList_toList
  suffix _ _ _ := String.ofList_toList

theorem sampleNormalizers_alike (text : String) : sampleNormalizer.nfc text = sampleWireNormalizer.nfc text :=
  String.ofList_toList.symm

theorem codecs_agree_sample : defaultOptions.Safe ∧
    decodeCanonicalCborWith sampleWireNormalizer defaultOptions.wire sampleBytes = some sampleSorted ∧
    encodeCanonicalCborWith sampleWireNormalizer defaultOptions.wire sampleValue = some sampleBytes := by
  have safe : defaultOptions.Safe := by
    unfold Options.Safe
    decide
  have agree := codecs_agree sampleNormalizer sampleWireNormalizer sampleNormalizers_alike defaultOptions safe
  exact ⟨safe, (agree.1 _ _).mp sample_decoded, (agree.2 _ _).mp sample_encoded⟩

/-- A limit beyond the safe integers is an exact limit in Go, and an error in TypeScript. -/
theorem unsafe_limits_differ : encode sampleNormalizer .null ⟨64, 9007199254740992, 1⟩ = .ok [0xf6] ∧
    encodeCanonicalCborWith sampleNormalizer (Options.wire ⟨64, 9007199254740992, 1⟩) .null = none := by
  decide +kernel

end Codecs

section Digests

/-- `digestStructuredValue`. -/
def digestStructuredValue (normalizer : Normalizer) (sha256 : Bytes → Bytes) (domain : String) (schemaVersion : Nat)
    (payload : Value) : Option String :=
  if domain = "" then none
  else if domain ≠ normalizer.nfc domain then none
  else if maxSafeInteger < schemaVersion ∨ schemaVersion < 1 then none
  else do
    let encoded ← encodeCanonicalCborWith normalizer ⟨some 72, none, none⟩ (envelope domain schemaVersion payload)
    some ("sha256:" ++ hexText (sha256 encoded))

variable {normalizer : Normalizer} {sha256 : Bytes → Bytes} {domain : String} {schemaVersion : Nat} {payload : Value}

/-- The limits of `digestStructuredValue`. -/
def wireDigestLimits : WireLimits := ⟨72, maxSafeInteger, maxSafeInteger⟩

/-- A name that both languages hash under. -/
def Named (normalizer : Normalizer) (domain : String) (schemaVersion : Nat) : Prop :=
  domain ≠ "" ∧ normalizer.nfc domain = domain ∧ 0 < schemaVersion ∧ schemaVersion ≤ maxSafeInteger

def digestOf (normalizer : Normalizer) (sha256 : Bytes → Bytes) (domain : String) (schemaVersion : Nat)
    (payload : Value) : String :=
  "sha256:" ++ hexText (sha256 ((envelope domain schemaVersion payload).normalize normalizer).render)

theorem structuredDigest_ok_iff {digest : String} :
    structuredDigest normalizer sha256 domain schemaVersion payload = .ok digest ↔
      Named normalizer domain schemaVersion ∧
        (envelope domain schemaVersion payload).Fits normalizer defaultOptions.limits ∧
        digest = digestOf normalizer sha256 domain schemaVersion payload := by
  have natural : defaultOptions.Natural := by
    unfold Options.Natural
    decide
  simp only [structuredDigest, steps_ok, not_or, not_lt, encode_ok_iff, Named]
  constructor
  · rintro ⟨⟨named, composed⟩, ⟨positive, safe⟩, encoded, ⟨-, fits, rfl⟩, rfl⟩
    exact ⟨⟨named, composed, by omega, safe⟩, fits, rfl⟩
  · rintro ⟨⟨named, composed, positive, safe⟩, fits, rfl⟩
    exact ⟨⟨named, composed⟩, ⟨by omega, safe⟩, _, ⟨natural, fits, rfl⟩, rfl⟩

theorem digestStructuredValue_eq_some_iff {digest : String} :
    digestStructuredValue normalizer sha256 domain schemaVersion payload = some digest ↔
      Named normalizer domain schemaVersion ∧ (envelope domain schemaVersion payload).Fits normalizer wireDigestLimits ∧
        digest = digestOf normalizer sha256 domain schemaVersion payload := by
  have limits (value : Value) : encodeCanonicalCborWith normalizer ⟨some 72, none, none⟩ value =
      encodeCanonicalCbor normalizer wireDigestLimits value := rfl
  simp only [digestStructuredValue, ite_none_left_eq_some, not_not, not_or, not_lt, ne_eq, limits,
    bind_eq_bind, bind_eq_some_iff, encodeCanonicalCbor_eq_some_iff, some.injEq, Named]
  constructor
  · rintro ⟨named, composed, ⟨safe, positive⟩, encoded, ⟨fits, rfl⟩, rfl⟩
    exact ⟨⟨named, composed.symm, positive, safe⟩, fits, rfl⟩
  · rintro ⟨⟨named, composed, positive, safe⟩, fits, rfl⟩
    exact ⟨named, composed.symm, ⟨safe, positive⟩, _, ⟨fits, rfl⟩, rfl⟩

theorem envelope_fits {limits : WireLimits} (safe : schemaVersion ≤ maxSafeInteger) :
    (envelope domain schemaVersion payload).Fits normalizer limits ↔
      payload.Admissible normalizer ∧ payload.Within limits.maxDepth ∧ 5 + payload.count ≤ limits.maxItems ∧
        ((envelope domain schemaVersion payload).normalize normalizer).render.length ≤ limits.maxBytes := by
  have one : 1 ≤ maxSafeInteger := by decide
  have admissible : (envelope domain schemaVersion payload).Admissible normalizer ↔ payload.Admissible normalizer := by
    simp [envelope, Value.Admissible, Value.AdmissibleItems, one, safe]
  have within : (envelope domain schemaVersion payload).Within (limits.maxDepth + 1) ↔ payload.Within limits.maxDepth := by
    simp only [envelope, Value.Within, Value.WithinItems, Nat.add_sub_cancel, and_true]
    exact ⟨fun all => all.2.2.2.2.2, fun inner => ⟨by omega, inner.pos, inner.pos, inner.pos, inner.pos, inner⟩⟩
  have count : (envelope domain schemaVersion payload).count = 5 + payload.count := by
    simp only [envelope, Value.count, Value.countItems]
    omega
  constructor
  · intro fits
    exact ⟨admissible.mp fits.admissible, within.mp fits.within, count ▸ fits.count, fits.size⟩
  · rintro ⟨pure, levels, few, short⟩
    exact ⟨admissible.mpr pure, within.mpr levels, count ▸ few, short⟩

theorem Value.Within.mono {value : Value} {levels more : Nat} (within : value.Within levels) (le : levels ≤ more) :
    value.Within more := by
  induction value generalizing levels more with
  | null | bool | text | bytes | integer =>
    rw [Value.Within] at within ⊢
    omega
  | array values ih =>
    rw [Value.Within, withinItems_iff] at within ⊢
    exact ⟨by omega, fun value member => ih value member (within.2 value member) (by omega)⟩
  | map entries ih =>
    rw [Value.Within, withinEntries_iff] at within ⊢
    exact ⟨by omega, fun entry member => ih entry member (within.2 entry member) (by omega)⟩

/-- The digests of the two languages are the same function on a name and a payload exactly if both refuse
them, or the payload is within the limits of Go, which are the narrower ones. -/
theorem structured_digests_agree_iff (normalizer wireNormalizer : Normalizer)
    (alike : ∀ text, normalizer.nfc text = wireNormalizer.nfc text) (sha256 : Bytes → Bytes) (domain : String)
    (schemaVersion : Nat) (payload : Value) :
    (∀ digest, structuredDigest normalizer sha256 domain schemaVersion payload = .ok digest ↔
        digestStructuredValue wireNormalizer sha256 domain schemaVersion payload = some digest) ↔
      ¬ Named normalizer domain schemaVersion ∨ ¬ payload.Admissible normalizer ∨ ¬ payload.Within 72 ∨
        maxSafeInteger < 5 + payload.count ∨
        maxSafeInteger < ((envelope domain schemaVersion payload).normalize normalizer).render.length ∨
        (payload.Within 64 ∧ 5 + payload.count ≤ 1000000 ∧
          ((envelope domain schemaVersion payload).normalize normalizer).render.length ≤ 16777216) := by
  obtain rfl := Normalizer.ext (funext alike)
  simp only [structuredDigest_ok_iff, digestStructuredValue_eq_some_iff]
  by_cases named : Named normalizer domain schemaVersion
  · rw [envelope_fits named.2.2.2, envelope_fits named.2.2.2]
    have narrow : defaultOptions.limits = ⟨64, 16777216, 1000000⟩ := rfl
    rw [narrow, wireDigestLimits]
    dsimp only
    constructor
    · intro same
      by_contra outside
      push Not at outside
      obtain ⟨-, admissible, within, few, short, exceeds⟩ := outside
      have accepted := (same _).mpr ⟨named, ⟨admissible, within, few, short⟩, rfl⟩
      obtain ⟨-, ⟨-, shallow, small, light⟩, -⟩ := accepted
      have heavy := exceeds shallow small
      omega
    · intro inside digest
      have wide : 16777216 ≤ maxSafeInteger ∧ 1000000 ≤ maxSafeInteger := by decide
      constructor
      · rintro ⟨-, ⟨admissible, shallow, small, light⟩, rfl⟩
        exact ⟨named, ⟨admissible, shallow.mono (by omega), by omega, by omega⟩, rfl⟩
      · rintro ⟨-, ⟨admissible, within, few, short⟩, rfl⟩
        rcases inside with unnamed | bad | deep | many | long | ⟨shallow, small, light⟩
        · exact absurd named unnamed
        · exact absurd admissible bad
        · exact absurd within deep
        · omega
        · omega
        · exact ⟨named, ⟨admissible, shallow, small, light⟩, rfl⟩
  · simp [named]

/-- The limits of Go hold the sample, so both languages give it one digest. -/
theorem structured_digests_agree_iff_sample : ∃ digest,
    structuredDigest sampleNormalizer id "d" 1 sampleValue = .ok digest ∧
      digestStructuredValue sampleWireNormalizer id "d" 1 sampleValue = some digest := by
  have within : sampleValue.Within 64 := by
    simp [sampleValue, Value.Within, Value.WithinItems, Value.WithinEntries]
  have agree := (structured_digests_agree_iff sampleNormalizer sampleWireNormalizer sampleNormalizers_alike id "d" 1
    sampleValue).mpr (.inr <| .inr <| .inr <| .inr <| .inr ⟨within, by decide +kernel, by decide +kernel⟩)
  have digested : structuredDigest sampleNormalizer id "d" 1 sampleValue =
      .ok (digestOf sampleNormalizer id "d" 1 sampleValue) := by decide +kernel
  exact ⟨_, digested, (agree _).mp digested⟩

/-- Arrays in arrays. -/
def nested : Nat → Value
  | 0 => .array []
  | levels + 1 => .array [nested levels]

/-- TypeScript hashes a payload of 65 levels, which Go refuses. -/
theorem deep_payload_digests_differ : structuredDigest sampleNormalizer id "d" 1 (nested 64) =
        .error (CanonicalError.limitExceeded.wrap ("maximum depth " ++ toString 64)) ∧
      (digestStructuredValue sampleNormalizer id "d" 1 (nested 64)).isSome = true := by
  decide +kernel

end Digests

end Circulusd.Canonical
