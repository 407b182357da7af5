import Circulusd.Canonical.Acceptance
import Circulusd.Workspace.Canonical

/-
The canonical form of a manifest, its encoding and its root digest.
-/

namespace Circulusd.Workspace

open Unicode List
open Circulusd.Canonical (Value)
open Checked Platform Protocol

/-- Only a canonical entry is encoded, so the last case is not met. -/
def EntryType.code : EntryType → Int
  | .file => 0
  | .directory => 1
  | .symlink => 2
  | .other _ => 0

def textOrNull (text : String) : Value :=
  if text = "" then .null else .text text

/-- An entry as it is encoded. -/
def Entry.value (entry : Entry) : Value :=
  .array [.text entry.path, .integer entry.type.code, .integer entry.mode.toNat,
    if entry.type = .file then .integer entry.size else .null,
    textOrNull entry.contentDigest, textOrNull entry.symlinkTarget]

def manifestValue (entries : List Entry) : Value :=
  .array [.integer 1, .array (entries.map Entry.value)]

/-- A manifest is refused by its checks or by the encoder. -/
abbrev MarshalRefusal := Refusal ⊕ Canonical.Refusal

def Unicode.marshalCanonical (unicode : Unicode) (entries : List Entry) : Except MarshalRefusal Bytes := do
  let canonical ← (unicode.canonicalize entries).mapError .inl
  (Canonical.encode unicode.toNormalizer (manifestValue canonical) Canonical.defaultOptions).mapError .inr

def Unicode.rootDigest (unicode : Unicode) (sha256 : Bytes → Bytes) (entries : List Entry) :
    Except MarshalRefusal String := do
  let canonical ← (unicode.canonicalize entries).mapError .inl
  (Canonical.structuredDigest unicode.toNormalizer sha256 rootDigestDomain 1 (manifestValue canonical)).mapError .inr

section Forms

variable {unicode : Unicode} {entries others canonical : List Entry}

/-- Sorted entries of distinct paths are determined by what they are. -/
theorem insertionSort_perm {left right : List Entry} (distinct : (left.map Entry.path).Nodup) (perm : left.Perm right) :
    left.insertionSort Entry.Before = right.insertionSort Entry.Before := by
  have sorted := perm_insertionSort Entry.Before left
  have sorted' := perm_insertionSort Entry.Before right
  refine List.Perm.eq_of_pairwise (fun first second inside inside' before after => ?_)
    (pairwise_insertionSort Entry.Before left) (pairwise_insertionSort Entry.Before right)
    (sorted.trans (perm.trans sorted'.symm))
  have here := sorted.mem_iff.mp inside
  have there := perm.mem_iff.mpr (sorted'.mem_iff.mp inside')
  exact inj_on_of_nodup_map distinct here there (le_antisymm before after)

section

variable (ok : unicode.canonicalize entries = .ok canonical)
include ok

/-- The canonical form is strictly sorted by path. -/
theorem Unicode.canonicalize_sorted : (canonical.map Entry.path).Pairwise (· < ·) := by
  obtain ⟨results, -, distinct, rfl, -⟩ := canonicalize_ok_iff.mp ok
  have sorted := pairwise_insertionSort Entry.Before results
  have different := ((perm_insertionSort Entry.Before results).map Entry.path).nodup_iff.mpr distinct
  rw [nodup_iff_pairwise_ne, pairwise_map] at different
  rw [pairwise_map]
  exact (sorted.and different).imp fun both => lt_of_le_of_ne both.1 both.2

theorem Unicode.canonicalize_normal : List.Forall₂ unicode.Normalizes canonical canonical := by
  obtain ⟨results, normalizes, -, rfl, -⟩ := canonicalize_ok_iff.mp ok
  refine forall₂_same.mpr fun entry member => ?_
  have inside := (perm_insertionSort Entry.Before results).mem_iff.mp member
  obtain ⟨origin, -, normal⟩ := exists_of_forall₂_mem normalizes inside
  exact normal.again

/-- A canonical list is its own canonical form. -/
theorem Unicode.canonicalize_again : unicode.canonicalize canonical = .ok canonical := by
  have normal := canonicalize_normal ok
  obtain ⟨results, -, distinct, rfl, checked⟩ := canonicalize_ok_iff.mp ok
  have perm := perm_insertionSort Entry.Before results
  refine canonicalize_ok_iff.mpr ⟨_, normal, (perm.map Entry.path).nodup_iff.mpr distinct, ?_, ?_⟩
  · exact (pairwise_insertionSort Entry.Before results).insertionSort_eq.symm
  · rwa [indexOf_perm distinct perm.symm]

/-- The order of the entries does not matter. -/
theorem Unicode.canonicalize_perm (perm : entries.Perm others) : unicode.canonicalize others = .ok canonical := by
  obtain ⟨results, normalizes, distinct, rfl, checked⟩ := canonicalize_ok_iff.mp ok
  obtain ⟨results', normalizes', perm'⟩ := perm_comp_forall₂ perm.symm normalizes
  refine canonicalize_ok_iff.mpr ⟨results', normalizes', (perm'.map Entry.path).nodup_iff.mpr distinct,
    insertionSort_perm distinct perm'.symm, ?_⟩
  rwa [indexOf_perm distinct perm'.symm]

/-- The parent of an entry is there, as a directory. -/
theorem Unicode.canonicalize_parent {entry : Entry} (member : entry ∈ canonical) {parent last : String}
    (plain : Paths.Plain last) (below : entry.path = parent ++ "/" ++ last) :
    ∃ directory ∈ canonical, directory.path = parent ∧ directory.type = .directory := by
  obtain ⟨index, describes, checked⟩ := canonicalize_describes ok
  obtain ⟨-, parents, -⟩ := checked entry member
  unfold checkParent at parents
  rw [below, Paths.parent_append parent plain] at parents
  dsimp only at parents
  split at parents
  case h_1 => cases parents
  case h_2 kind found =>
    rw [refuseIf_ok, not_not] at parents
    exact (describes.kinds parent .directory).mp (parents ▸ found)

/-- So is every directory on the way to it. -/
theorem Unicode.canonicalize_parents {entry : Entry} (member : entry ∈ canonical) {parent rest : String}
    (below : entry.path = parent ++ "/" ++ rest) :
    ∃ directory ∈ canonical, directory.path = parent ∧ directory.type = .directory := by
  -- By induction on the components below the parent: the last of them goes first.
  obtain ⟨components, pieces⟩ : ∃ components, Paths.split rest = components := ⟨_, rfl⟩
  induction components using List.reverseRecOn generalizing entry rest with
  | nil => exact absurd pieces (Paths.split_ne_nil rest)
  | append_singleton front last ih =>
    have plain : Paths.Plain last := Paths.plain_of_mem_split (by rw [pieces]; simp)
    have spelled : rest = Paths.join (front ++ [last]) := by rw [← pieces, Paths.join_split]
    by_cases deep : front = []
    · subst deep
      rw [nil_append, Paths.join_singleton] at spelled
      exact canonicalize_parent ok member plain (spelled ▸ below)
    · rw [Paths.join_concat deep] at spelled
      have between : entry.path = (parent ++ "/" ++ Paths.join front) ++ "/" ++ last := by
        rw [below, spelled]
        simp only [String.append_assoc]
      obtain ⟨directory, inside, path, -⟩ := canonicalize_parent ok member plain between
      refine ih inside path (Paths.split_join (fun component present => ?_) deep)
      exact Paths.plain_of_mem_split (by rw [pieces]; exact mem_append_left _ present)

end

end Forms

section Encoding

variable {unicode : Unicode} {entry other : Entry} {entries others canonical canonical' : List Entry}

/-- What the encoding needs to know of a canonical entry. -/
structure Unicode.CanonicalEntry (unicode : Unicode) (entry : Entry) : Prop where
  path : unicode.nfc entry.path = entry.path
  digest : unicode.nfc entry.contentDigest = entry.contentDigest
  target : unicode.nfc entry.symlinkTarget = entry.symlinkTarget
  type : entry.type = .file ∨ entry.type = .directory ∨ entry.type = .symlink
  size : entry.type ≠ .file → entry.size = 0

theorem hexDigit_ascii {character : Char} (digit : hexDigit character = true) : character.toNat < 128 := by
  simp only [hexDigit, Bool.or_eq_true, Bool.and_eq_true, decide_eq_true_eq, Char.le_def] at digit
  have nine : '9'.toNat = 57 := rfl
  have lower : 'f'.toNat = 102 := rfl
  have upper : 'F'.toNat = 70 := rfl
  have bound (limit : Char) (below : character.val ≤ limit.val) : character.toNat ≤ limit.toNat := below
  rcases digit with (⟨-, below⟩ | ⟨-, below⟩) | ⟨-, below⟩
  · have := bound '9' below
    omega
  · have := bound 'f' below
    omega
  · have := bound 'F' below
    omega

theorem Unicode.Normalizes.canonicalEntry (normal : unicode.Normalizes entry entry) : unicode.CanonicalEntry entry := by
  have path : unicode.nfc entry.path = entry.path := normal.path.symm
  have ok := normal.2
  rw [path] at ok
  unfold normalize at ok
  obtain ⟨-, -, ok⟩ := (bind_ok _ _ _).mp ok
  have empty : unicode.nfc "" = "" := unicode.ascii "" (by simp)
  split at ok
  case h_1 type =>
    obtain ⟨⟨-, -, target, -, start, -, digits, -⟩, -⟩ := normalizeFile_ok_iff.mp ok
    refine ⟨path, unicode.ascii _ fun character member => ?_, ?_, .inl type, fun other => absurd type other⟩
    · rw [← take_append_drop 7 entry.contentDigest.toList] at member
      rcases mem_append.mp member with front | back
      · have scheme : "sha256:".toList.all (·.toNat < 128) = true := by decide
        exact of_decide_eq_true (all_eq_true.mp scheme character (start ▸ front))
      · exact hexDigit_ascii (all_eq_true.mp digits character back)
    · rw [show entry.symlinkTarget = "" from target, empty]
  case h_2 type =>
    obtain ⟨⟨size, digest, target⟩, -⟩ := normalizeDirectory_ok_iff.mp ok
    refine ⟨path, ?_, ?_, .inr (.inl type), fun _ => size⟩
    · rw [show entry.contentDigest = "" from digest, empty]
    · rw [show entry.symlinkTarget = "" from target, empty]
  case h_3 type =>
    obtain ⟨⟨size, digest, -⟩, same⟩ := normalizeSymlink_ok_iff.mp ok
    have target := congrArg Entry.symlinkTarget same
    refine ⟨path, ?_, ?_, .inr (.inr type), fun _ => size⟩
    · rw [show entry.contentDigest = "" from digest, empty]
    · change entry.symlinkTarget = strippedTarget (unicode.nfc entry.symlinkTarget) at target
      rw [target]
      exact unicode.nfc_strippedTarget _
  case h_4 => cases ok

theorem normalize_textOrNull {text : String} (normal : unicode.nfc text = text) :
    (textOrNull text).normalize unicode.toNormalizer = textOrNull text := by
  unfold textOrNull
  split
  case isTrue => rw [Value.normalize]
  case isFalse => rw [Value.normalize, normal]

/-- The encoding of a canonical entry is normal. -/
theorem Unicode.CanonicalEntry.value_normalize (canonical : unicode.CanonicalEntry entry) :
    entry.value.normalize unicode.toNormalizer = entry.value := by
  have size : (if entry.type = .file then Value.integer entry.size else .null).normalize unicode.toNormalizer =
      if entry.type = .file then Value.integer entry.size else .null := by
    split
    case isTrue | isFalse => rw [Value.normalize]
  unfold Entry.value
  simp only [Value.normalize, Value.normalizeItems, canonical.path, size, normalize_textOrNull canonical.digest,
    normalize_textOrNull canonical.target]

theorem manifestValue_normalize (each : ∀ entry ∈ entries, unicode.CanonicalEntry entry) :
    (manifestValue entries).normalize unicode.toNormalizer = manifestValue entries := by
  have items : Value.normalizeItems unicode.toNormalizer (entries.map Entry.value) = entries.map Entry.value := by
    induction entries with
    | nil => rw [map_nil, Value.normalizeItems]
    | cons entry rest ih =>
      obtain ⟨first, others⟩ := forall_mem_cons.mp each
      rw [map_cons, Value.normalizeItems, first.value_normalize, ih others]
  unfold manifestValue
  simp only [Value.normalize, Value.normalizeItems, items]

theorem textOrNull_injective {left right : String} (same : textOrNull left = textOrNull right) : left = right := by
  unfold textOrNull at same
  split at same
  case isTrue empty =>
    split at same
    case isTrue empty' => rw [empty, empty']
    case isFalse => cases same
  case isFalse =>
    split at same
    case isTrue => cases same
    case isFalse => exact Value.text.inj same

theorem Unicode.CanonicalEntry.value_injective (left : unicode.CanonicalEntry entry)
    (right : unicode.CanonicalEntry other) (same : entry.value = other.value) : entry = other := by
  simp only [Entry.value, Value.array.injEq, List.cons.injEq, Value.text.injEq, Value.integer.injEq, and_true] at same
  obtain ⟨path, code, mode, size, digest, target⟩ := same
  have type : entry.type = other.type := by
    rcases left.type with one | one | one <;> rcases right.type with two | two | two <;>
      simp [one, two, EntryType.code] at code ⊢
  have sizes : entry.size = other.size := by
    by_cases file : entry.type = .file
    · rw [if_pos file, if_pos (type ▸ file)] at size
      exact Value.integer.inj size
    · rw [left.size file, right.size (type ▸ file)]
  have modes : entry.mode = other.mode := UInt32.toNat_inj.mp (Int.ofNat_inj.mp mode)
  have digests := textOrNull_injective digest
  have targets := textOrNull_injective target
  cases entry
  cases other
  simp only [Entry.mk.injEq]
  exact ⟨path, type, modes, sizes, digests, targets⟩

/-- Canonical entries are told apart by their encoding. -/
theorem manifestValue_injective (left : ∀ entry ∈ entries, unicode.CanonicalEntry entry)
    (right : ∀ entry ∈ others, unicode.CanonicalEntry entry)
    (same : manifestValue entries = manifestValue others) : entries = others := by
  simp only [manifestValue, Value.array.injEq, List.cons.injEq, and_true, true_and] at same
  induction entries generalizing others with
  | nil => simpa using same.symm
  | cons entry rest ih =>
    cases others with
    | nil => cases same
    | cons other tail =>
      obtain ⟨first, front⟩ := forall_mem_cons.mp left
      obtain ⟨second, back⟩ := forall_mem_cons.mp right
      obtain ⟨values, tails⟩ := List.cons.inj same
      rw [first.value_injective second values, ih front back tails]

theorem Unicode.canonicalize_entries (ok : unicode.canonicalize entries = .ok canonical) :
    ∀ entry ∈ canonical, unicode.CanonicalEntry entry :=
  fun entry member => (forall₂_same.mp (Unicode.canonicalize_normal ok) entry member).canonicalEntry

/-- Equal bytes are of equal canonical forms. -/
theorem Unicode.marshalCanonical_injective (ok : unicode.canonicalize entries = .ok canonical)
    (accepted' : unicode.canonicalize others = .ok canonical') {bytes : Bytes}
    (first : unicode.marshalCanonical entries = .ok bytes)
    (second : unicode.marshalCanonical others = .ok bytes) : canonical = canonical' := by
  simp only [marshalCanonical, bind_ok, mapError_ok, ok, Except.ok.injEq, exists_eq_left'] at first
  simp only [marshalCanonical, bind_ok, mapError_ok, accepted', Except.ok.injEq, exists_eq_left'] at second
  have left := canonicalize_entries ok
  have right := canonicalize_entries accepted'
  have same := Canonical.encode_injective (by decide) first second
  rw [manifestValue_normalize left, manifestValue_normalize right] at same
  exact manifestValue_injective left right same

/-- Where the hash separates them, one root digest means one canonical form. -/
theorem Unicode.rootDigest_injective {sha256 : Bytes → Bytes}
    (separates : Canonical.Separates unicode.toNormalizer sha256 rootDigestDomain 1 (manifestValue canonical)
      (manifestValue canonical')) (ok : unicode.canonicalize entries = .ok canonical)
    (accepted' : unicode.canonicalize others = .ok canonical') {digest : String}
    (first : unicode.rootDigest sha256 entries = .ok digest)
    (second : unicode.rootDigest sha256 others = .ok digest) : canonical = canonical' := by
  simp only [rootDigest, bind_ok, mapError_ok, ok, Except.ok.injEq, exists_eq_left'] at first
  simp only [rootDigest, bind_ok, mapError_ok, accepted', Except.ok.injEq, exists_eq_left'] at second
  have left := canonicalize_entries ok
  have right := canonicalize_entries accepted'
  have values := Canonical.structuredDigest_injective separates first second
  rw [manifestValue_normalize left, manifestValue_normalize right] at values
  exact manifestValue_injective left right values

/-- The canonical form is sorted, complete, its own canonical form and independent of the order of the
entries; where the encoder succeeds, its bytes stand for the form alone, and so does the digest where the hash
tells the two encodings apart. -/
theorem canonical_forms (unicode : Unicode) (sha256 : Bytes → Bytes)
    (accepted : unicode.canonicalize entries = .ok canonical) :
    (canonical.map Entry.path).Pairwise (· < ·) ∧
    (∀ entry ∈ canonical, ∀ parent rest, entry.path = parent ++ "/" ++ rest →
      ∃ directory ∈ canonical, directory.path = parent ∧ directory.type = .directory) ∧
    unicode.canonicalize canonical = .ok canonical ∧
    (∀ others, entries.Perm others → unicode.canonicalize others = .ok canonical) ∧
    (∀ others canonical', unicode.canonicalize others = .ok canonical' →
      (∀ bytes bytes', unicode.marshalCanonical entries = .ok bytes →
        unicode.marshalCanonical others = .ok bytes' → (bytes = bytes' ↔ canonical = canonical')) ∧
      (∀ digest digest', unicode.rootDigest sha256 entries = .ok digest →
        unicode.rootDigest sha256 others = .ok digest' →
        Canonical.Separates unicode.toNormalizer sha256 rootDigestDomain 1 (manifestValue canonical)
          (manifestValue canonical') → (digest = digest' ↔ canonical = canonical')) ∧
      (canonical = canonical' → unicode.marshalCanonical entries = unicode.marshalCanonical others ∧
        unicode.rootDigest sha256 entries = unicode.rootDigest sha256 others)) := by
  refine ⟨canonicalize_sorted accepted, fun entry member parent rest =>
    canonicalize_parents accepted member, canonicalize_again accepted,
    fun others => canonicalize_perm accepted, fun others canonical' accepted' => ?_⟩
  have alike : canonical = canonical' → unicode.marshalCanonical entries = unicode.marshalCanonical others ∧
      unicode.rootDigest sha256 entries = unicode.rootDigest sha256 others := by
    rintro rfl
    simp only [marshalCanonical, rootDigest, accepted, accepted', and_self]
  refine ⟨fun bytes bytes' first second => ⟨?_, fun same => ?_⟩,
    fun digest digest' first second separates => ⟨?_, fun same => ?_⟩, alike⟩
  · rintro rfl
    exact marshalCanonical_injective accepted accepted' first second
  · rw [(alike same).1, second] at first
    exact (Except.ok.inj first).symm
  · rintro rfl
    exact rootDigest_injective separates accepted accepted' first second
  · rw [(alike same).2, second] at first
    exact (Except.ok.inj first).symm

section Sample

def pair : List Entry :=
  [⟨"a/b", .symlink, 0o700, 0, "", ".//a"⟩, ⟨"a", .directory, 0o700, 0, "", ""⟩]

def pairCanonical : List Entry :=
  [⟨"a", .directory, 0o755, 0, "", ""⟩, ⟨"a/b", .symlink, 0o777, 0, "", "a"⟩]

def pairBytes : Bytes :=
  [0x82, 1, 0x82, 0x86, 0x61, 0x61, 1, 0x19, 1, 0xed, 0xf6, 0xf6, 0xf6, 0x86, 0x63, 0x61, 0x2f, 0x62, 2, 0x19, 1,
    0xff, 0xf6, 0xf6, 0x61, 0x61]

theorem pair_accepted : plainUnicode.canonicalize pair = .ok pairCanonical := by
  decide +kernel

theorem pair_encoded : plainUnicode.marshalCanonical pair = .ok pairBytes ∧
    plainUnicode.marshalCanonical pairCanonical = .ok pairBytes := by
  decide +kernel

/-- Two entries, given in both orders and in two spellings. -/
theorem canonical_forms_pair : plainUnicode.canonicalize pairCanonical = .ok pairCanonical ∧
    plainUnicode.canonicalize pair.reverse = .ok pairCanonical ∧
    (plainUnicode.marshalCanonical pair = .ok pairBytes ∧ plainUnicode.marshalCanonical pairCanonical = .ok pairBytes) ∧
    (pairBytes = pairBytes ↔ pairCanonical = pairCanonical) := by
  obtain ⟨-, -, again, reordered, encodings⟩ :=
    canonical_forms plainUnicode id pair_accepted
  refine ⟨again, reordered _ pair.reverse_perm.symm, pair_encoded, ?_⟩
  exact (encodings pairCanonical pairCanonical again).1 _ _ pair_encoded.1 pair_encoded.2

end Sample

end Encoding

section Crowd

/-- A name of twenty binary digits. -/
def crowdName (number : Nat) : String :=
  String.ofList ((List.range 20).map fun place => if number.testBit place then '1' else '0')

/-- A directory of its own. -/
def crowdEntry (number : Nat) : Entry :=
  ⟨crowdName number, .directory, 0o755, 0, "", ""⟩

/-- More directories than the encoder has items for. -/
def crowd : List Entry :=
  (List.range (2 ^ 20)).map crowdEntry

theorem crowdName_toList (number : Nat) : (crowdName number).toList =
    (List.range 20).map fun place => if number.testBit place then '1' else '0' :=
  String.toList_ofList

theorem crowdName_digit {number : Nat} {character : Char} (member : character ∈ (crowdName number).toList) :
    character = '1' ∨ character = '0' := by
  rw [crowdName_toList] at member
  obtain ⟨place, -, rfl⟩ := mem_map.mp member
  split
  case isTrue => exact .inl rfl
  case isFalse => exact .inr rfl

theorem crowdName_ne {number : Nat} {text : String} (length : text.toList.length ≠ 20) : crowdName number ≠ text := by
  rintro rfl
  exact length (by rw [crowdName_toList]; simp)

theorem crowdName_injective {left right : Nat} (leftSmall : left < 2 ^ 20) (rightSmall : right < 2 ^ 20)
    (same : crowdName left = crowdName right) : left = right := by
  have digits := congrArg String.toList same
  rw [crowdName_toList, crowdName_toList, map_inj_left] at digits
  refine Nat.eq_of_testBit_eq fun place => ?_
  by_cases inside : place < 20
  · have digit := digits place (mem_range.mpr inside)
    cases one : left.testBit place <;> cases two : right.testBit place <;> simp [one, two] at digit ⊢
  · have beyond : 2 ^ 20 ≤ 2 ^ place := Nat.pow_le_pow_right (by decide) (by omega)
    rw [Nat.testBit_lt_two_pow (by omega), Nat.testBit_lt_two_pow (by omega)]

theorem utf8ByteSize_ofList_le (characters : List Char) :
    (String.ofList characters).utf8ByteSize ≤ 4 * characters.length := by
  induction characters with
  | nil => simp
  | cons character rest ih =>
    rw [String.ofList_cons, String.utf8ByteSize_append, String.utf8ByteSize_singleton, length_cons]
    have size := character.utf8Size_le_four
    omega

theorem crowdName_size (number : Nat) : (crowdName number).utf8ByteSize ≤ 80 := by
  have bound := utf8ByteSize_ofList_le ((List.range 20).map fun place => if number.testBit place then '1' else '0')
  rw [length_map, length_range] at bound
  exact bound

theorem crowdName_plain (number : Nat) : Paths.Plain (crowdName number) := by
  intro member
  rcases crowdName_digit member with one | zero
  · cases one
  · cases zero

theorem split_crowdName (number : Nat) : Paths.split (crowdName number) = [crowdName number] := by
  have pieces := @Paths.split_join [crowdName number] (by simpa using crowdName_plain number) (by simp)
  rwa [Paths.join_singleton] at pieces

theorem crowdName_valid (number : Nat) : ValidPath (crowdName number) := by
  have size := crowdName_size number
  refine ⟨crowdName_ne (by decide), ?_, ?_, size.trans (by decide), ?_⟩
  · intro start
    exact crowdName_plain number (mem_of_mem_head? start)
  · intro member
    rcases crowdName_digit member with one | zero
    · cases one
    · cases zero
  · rw [split_crowdName]
    intro component member
    obtain rfl := mem_singleton.mp member
    refine ⟨⟨crowdName_ne (by decide), crowdName_ne (by decide), crowdName_ne (by decide)⟩, size.trans (by decide), ?_⟩
    rw [any_eq_false]
    intro character inside
    rcases crowdName_digit inside with rfl | rfl <;> decide

theorem crowdEntry_normalizes (number : Nat) : plainUnicode.Normalizes (crowdEntry number) (crowdEntry number) := by
  refine ⟨crowdName_valid number, ?_⟩
  simp only [Unicode.normalize, crowdEntry, steps_ok]
  exact ⟨by decide, normalizeDirectory_ok_iff.mpr ⟨⟨rfl, rfl, rfl⟩, rfl⟩⟩

theorem crowd_accepted : plainUnicode.canonicalize crowd = .ok (crowd.insertionSort Entry.Before) := by
  refine canonicalize_ok_iff.mpr ⟨crowd, ?_, ?_, rfl, fun entry member => ?_⟩
  · refine forall₂_same.mpr fun entry member => ?_
    obtain ⟨number, -, rfl⟩ := mem_map.mp member
    exact crowdEntry_normalizes number
  · unfold crowd
    rw [map_map]
    refine List.Nodup.map_on (fun left inside right inside' same => ?_) nodup_range
    exact crowdName_injective (mem_range.mp inside) (mem_range.mp inside') same
  · have inside := (perm_insertionSort Entry.Before crowd).mem_iff.mp member
    obtain ⟨number, -, rfl⟩ := mem_map.mp inside
    have top : Paths.parent (crowdEntry number).path = none := by
      unfold Paths.parent
      rw [show (crowdEntry number).path = crowdName number from rfl, split_crowdName]
      rfl
    exact ⟨by simp [checkParent, top], by simp [checkLink, crowdEntry]⟩

/-- An accepted array in an array has no more items than the encoder allows. -/
theorem encode_inner_length {normalizer : Normalizer} {first : Value} {items : List Value}
    {options : Canonical.Options} {bytes : Bytes}
    (ok : Canonical.encode normalizer (.array [first, .array items]) options = .ok bytes) :
    items.length ≤ options.maxItems.toNat := by
  obtain ⟨-, fits, -⟩ := Canonical.encode_ok_iff.mp ok
  have few := fits.count
  have counts := Canonical.length_le_countItems items
  simp only [Value.count, Value.countItems, Canonical.Options.limits] at few
  omega

/-- A manifest can be accepted and still have no canonical bytes: its encoding has too many items. -/
theorem crowd_not_encoded : (∃ canonical, plainUnicode.canonicalize crowd = .ok canonical) ∧
    ∀ bytes, plainUnicode.marshalCanonical crowd ≠ .ok bytes := by
  refine ⟨⟨_, crowd_accepted⟩, fun bytes encoded => ?_⟩
  simp only [marshalCanonical, bind_ok, mapError_ok, crowd_accepted, Except.ok.injEq, exists_eq_left'] at encoded
  have few := encode_inner_length encoded
  rw [length_map, length_insertionSort, crowd, length_map, length_range] at few
  exact absurd few (by decide)

end Crowd

end Circulusd.Workspace
