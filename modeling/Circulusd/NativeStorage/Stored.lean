import Circulusd.Canonical.Acceptance
import Circulusd.NativeStorage.Kernel
import Mathlib.Data.String.Basic

/-
What the kernel stores is short, and its parsers read it back.
-/

namespace Circulusd.NativeStorage

open Canonical Checked Kernel Platform Protocol List

section Sizes

variable (normalizer : Normalizer)

/-- The number of bytes that a value takes on the wire. -/
def wireSize (value : Value) : Nat :=
  (value.normalize normalizer).render.length

theorem wireSize_text (text : String) : wireSize normalizer (.text text) ≤ 9 + (utf8 (normalizer.nfc text)).length := by
  rw [wireSize, Value.normalize, Value.render, length_append]
  have := headBytes_length_le 3 (utf8 (normalizer.nfc text)).length
  omega

theorem wireSize_bytes (bytes : Bytes) : wireSize normalizer (.bytes bytes) ≤ 9 + bytes.length := by
  rw [wireSize, Value.normalize, Value.render, length_append]
  have := headBytes_length_le 2 bytes.length
  omega

theorem wireSize_integer (value : Int) : wireSize normalizer (.integer value) ≤ 9 := by
  rw [wireSize, Value.normalize, Value.render]
  split <;> exact headBytes_length_le _ _

theorem wireSize_array (values : List Value) :
    wireSize normalizer (.array values) ≤ 9 + (values.map (wireSize normalizer)).sum := by
  have items : (Value.renderItems (Value.normalizeItems normalizer values)).length =
      (values.map (wireSize normalizer)).sum := by
    rw [renderItems_eq, normalizeItems_eq, flatMap_map, length_flatMap]
    rfl
  rw [wireSize, Value.normalize, Value.render, length_append, items]
  have := headBytes_length_le 4 (Value.normalizeItems normalizer values).length
  omega

/-- A text of ASCII characters. -/
def Plain (text : String) : Prop := ∀ character ∈ text.toList, character.toNat < 128

instance (text : String) : Decidable (Plain text) :=
  List.decidableBAll (fun character : Char => character.toNat < 128) text.toList

theorem normalizeEntries_plain {entries : List (String × Value)} (plain : ∀ name ∈ entries.map Prod.fst, Plain name) :
    Value.normalizeEntries normalizer entries = entries.map fun entry => (entry.1, entry.2.normalize normalizer) := by
  rw [normalizeEntries_eq]
  refine map_congr_left fun entry member => ?_
  rw [normalizer.ascii _ (plain entry.1 (mem_map_of_mem member))]

theorem wireSize_map (entries : List (String × Value)) (names : List String)
    (named : entries.map Prod.fst = names) (plain : ∀ name ∈ names, Plain name) :
    wireSize normalizer (.map entries) ≤
      9 + (entries.map fun entry => 9 + entry.1.utf8ByteSize + wireSize normalizer entry.2).sum := by
  subst named
  have sorted := perm_insertionSort EntryBefore (Value.normalizeEntries normalizer entries)
  have sum : (Value.renderEntries ((Value.normalizeEntries normalizer entries).insertionSort EntryBefore)).length ≤
      (entries.map fun entry => 9 + entry.1.utf8ByteSize + wireSize normalizer entry.2).sum := by
    rw [renderEntries_eq, length_flatMap, (sorted.map _).sum_eq, normalizeEntries_plain normalizer plain,
      map_map]
    refine sum_le_sum fun entry member => ?_
    have composed := normalizer.ascii _ (plain entry.1 (mem_map_of_mem member))
    have key := wireSize_text normalizer entry.1
    rw [composed, utf8_length] at key
    rw [wireSize, Value.normalize, composed] at key
    simp only [Function.comp_apply, length_append]
    change _ + wireSize normalizer entry.2 ≤ _
    omega
  rw [wireSize, Value.normalize, Value.render, length_append]
  have := headBytes_length_le 5 ((Value.normalizeEntries normalizer entries).insertionSort EntryBefore).length
  omega

end Sizes

section Records

/-- Distinct keys are found in any order of the entries. -/
theorem lookup_perm {entries others : List (String × Value)} (perm : entries.Perm others)
    (distinct : (entries.map Prod.fst).Nodup) (key : String) : entries.lookup key = others.lookup key := by
  induction perm with
  | nil => rfl
  | cons entry _ ih =>
    obtain ⟨name, value⟩ := entry
    rw [map_cons, nodup_cons] at distinct
    rw [lookup_cons, lookup_cons, ih distinct.2]
  | swap first second rest =>
    obtain ⟨one, value⟩ := first
    obtain ⟨two, other⟩ := second
    have different : two ≠ one := by
      intro same
      simp [same] at distinct
    simp only [lookup_cons]
    by_cases left : key = one
    · subst left
      rw [beq_self_eq_true, beq_eq_false_iff_ne.mpr different.symm]
    · rw [beq_eq_false_iff_ne.mpr left]
  | trans front _ first second =>
    rw [first distinct, second ((front.map Prod.fst).nodup_iff.mp distinct)]

/-- A map with these names is read as the record. -/
theorem record_map {entries : List (String × Value)} {names : List String} (named : entries.map Prod.fst = names) :
    record (.map entries) names = .ok (field entries) := by
  subst named
  rw [record, if_pos ⟨by rw [length_map], fun _ member => member⟩]

/-- A record that was written with plain names is read field by field. -/
theorem record_normalize (normalizer : Normalizer) {entries : List (String × Value)} {names : List String}
    (named : entries.map Prod.fst = names) (plain : ∀ name ∈ names, Plain name) (distinct : names.Nodup) :
    record ((Value.map entries).normalize normalizer) names =
      .ok (field (entries.map fun entry => (entry.1, entry.2.normalize normalizer))) := by
  subst named
  have sorted := perm_insertionSort EntryBefore (Value.normalizeEntries normalizer entries)
  rw [normalizeEntries_plain normalizer plain] at sorted
  have names : (entries.map fun entry => (entry.1, entry.2.normalize normalizer)).map Prod.fst =
      entries.map Prod.fst := by
    rw [map_map]
    rfl
  rw [Value.normalize, record, normalizeEntries_plain normalizer plain, if_pos]
  · refine congrArg Except.ok (funext fun key => ?_)
    rw [field, field, lookup_perm sorted]
    rw [(sorted.map Prod.fst).nodup_iff, names]
    exact distinct
  · refine ⟨by rw [sorted.length_eq, length_map, length_map], fun key member => ?_⟩
    rw [(sorted.map Prod.fst).mem_iff, names]
    exact member

end Records

section Fields

variable {normalizer : Normalizer} {value : Value} {text : String}

/-- What `identifier` accepts. -/
structure Identifier (normalizer : Normalizer) (text : String) : Prop where
  present : text ≠ ""
  composed : normalizer.nfc text = text
  printable : text.toList.any isControl = false
  short : (utf8 text).length ≤ 256

theorem unless_invalid_ok {α : Type} {refused : Prop} [Decidable refused] {content found : α} :
    (if refused then invalid else .ok content) = .ok found ↔ ¬ refused ∧ content = found := by
  split <;> simp [invalid, *]

theorem identifier_ok_iff :
    identifier normalizer value = .ok text ↔ value = .text text ∧ Identifier normalizer text := by
  cases value with
  | text content =>
    rw [identifier, unless_invalid_ok, Value.text.injEq]
    constructor
    · rintro ⟨passed, rfl⟩
      push Not at passed
      exact ⟨rfl, passed.1, passed.2.1, by simpa using passed.2.2.1, passed.2.2.2⟩
    · rintro ⟨rfl, ok⟩
      exact ⟨by simp [ok.present, ok.composed, ok.printable, ok.short], rfl⟩
  | _ => simp [identifier, invalid]

theorem revision_ok_iff {minimum number : Nat} : revision value minimum = .ok number ↔
      value = .integer number ∧ minimum ≤ number ∧ number ≤ Canonical.maxSafeInteger := by
  cases value with
  | integer content =>
    rw [revision, unless_invalid_ok, Value.integer.injEq]
    omega
  | _ => simp [revision, invalid]

theorem bytes_ok_iff {maximum : Nat} {content : Bytes} :
    bytes value maximum = .ok content ↔ value = .bytes content ∧ content.length ≤ maximum := by
  cases value with
  | bytes stored =>
    rw [bytes, unless_invalid_ok, Value.bytes.injEq]
    grind
  | _ => simp [bytes, invalid]

theorem boolean_ok_iff {flag : Bool} : boolean value = .ok flag ↔ value = .bool flag := by
  cases value <;> simp [boolean, invalid]

theorem digest_ok_iff : digest value = .ok text ↔ value = .text text ∧ isDigest text = true := by
  cases value with
  | text content =>
    simp only [digest, invalid, Value.text.injEq]
    grind
  | _ => simp [digest, invalid]

theorem array_ok_iff {maximum : Nat} {values : List Value} :
    array value maximum = .ok values ↔ value = .array values ∧ values.length ≤ maximum := by
  cases value with
  | array stored =>
    rw [array, unless_invalid_ok, Value.array.injEq]
    grind
  | _ => simp [array, invalid]

theorem isDigest_length (ok : isDigest text = true) : text.toList.length = 71 := by
  simp only [isDigest, Bool.and_eq_true, beq_iff_eq, length_drop] at ok
  omega

theorem isDigest_plain (ok : isDigest text = true) : Plain text := by
  simp only [isDigest, Bool.and_eq_true, beq_iff_eq, all_eq_true] at ok
  obtain ⟨⟨front, -⟩, back⟩ := ok
  intro character member
  rw [← take_append_drop 7 text.toList, front, mem_append] at member
  rcases member with first | later
  · have plain : Plain "sha256:" := by decide
    exact plain character first
  · have hex := back character later
    simp only [isLowerHex, Bool.or_eq_true, Bool.and_eq_true, decide_eq_true_eq, Char.le_def,
      UInt32.le_iff_toNat_le] at hex
    change character.val.toNat < 128
    have nine : ('9' : Char).val.toNat = 57 := rfl
    have f : ('f' : Char).val.toNat = 102 := rfl
    omega

theorem utf8_length_le (text : String) : (utf8 text).length ≤ 4 * text.toList.length := by
  have general (characters : List Char) : String.utf8Len characters ≤ 4 * characters.length := by
    induction characters with
    | nil => simp
    | cons character rest ih =>
      have := character.utf8Size_le_four
      rw [String.utf8Len_cons, length_cons]
      omega
  rw [utf8_length, ← String.ofList_toList (s := text), String.utf8ByteSize_ofList, String.toList_ofList]
  exact general text.toList

theorem isDigest_utf8 (ok : isDigest text = true) : (utf8 text).length ≤ 284 := by
  have := utf8_length_le text
  rw [isDigest_length ok] at this
  exact this

end Fields

section Receipts

variable {normalizer : Normalizer} {bounds : Bounds} {claims : List CapabilityClaim} {receipt : StoredReceipt}

/-- The bytes of all payloads of a receipt. -/
def payloadBytes (claims : List CapabilityClaim) : Nat :=
  (claims.map fun claim => claim.payload.length).sum

/-- What `storedReceipt` accepts. -/
structure StoredReceipt.Valid (normalizer : Normalizer) (bounds : Bounds) (receipt : StoredReceipt) : Prop where
  digest : isDigest receipt.commandDigest = true
  few : receipt.capabilityClaims.length ≤ bounds.maxCapabilityClaims
  response : receipt.response.length ≤ bounds.maxReceiptResponseBytes
  kinds : ∀ claim ∈ receipt.capabilityClaims, Identifier normalizer claim.kind
  payloads : payloadBytes receipt.capabilityClaims ≤ bounds.maxCapabilityClaimBytes

theorem storedClaims_valid {maximum total : Nat} {values : List Value}
    (inside : total ≤ maximum) (ok : storedClaims normalizer maximum total values = .ok claims) :
    claims.length = values.length ∧ (∀ claim ∈ claims, Identifier normalizer claim.kind) ∧
      total + payloadBytes claims ≤ maximum := by
  induction values generalizing total claims with
  | nil =>
    simp only [storedClaims, pure_ok] at ok
    subst ok
    exact ⟨rfl, by simp, inside⟩
  | cons value rest ih =>
    simp only [storedClaims, steps_ok, identifier_ok_iff, bytes_ok_iff] at ok
    obtain ⟨claim, -, kind, ⟨-, named⟩, payload, ⟨-, fits⟩, others, later, rfl⟩ := ok
    obtain ⟨length, kinds, bound⟩ := ih (by omega) later
    refine ⟨by simp [length], forall_mem_cons.mpr ⟨named, kinds⟩, ?_⟩
    rw [payloadBytes, map_cons, sum_cons]
    change total + (payload.length + payloadBytes others) ≤ maximum
    omega

/-- A receipt that is read is within the bounds. -/
theorem storedReceipt_valid {value : Value}
    (ok : storedReceipt normalizer bounds value = .ok receipt) : receipt.Valid normalizer bounds := by
  simp only [storedReceipt, steps_ok, digest_ok_iff, array_ok_iff, bytes_ok_iff] at ok
  obtain ⟨fields, -, commandDigest, ⟨-, digest⟩, values, ⟨-, few⟩, response, ⟨-, fits⟩, claims, parsed, rfl⟩ := ok
  obtain ⟨length, kinds, payloads⟩ := storedClaims_valid (Nat.zero_le _) parsed
  rw [Nat.zero_add] at payloads
  exact ⟨digest, length ▸ few, fits, kinds, payloads⟩

theorem storedClaims_toValue {maximum total : Nat}
    (kinds : ∀ claim ∈ claims, Identifier normalizer claim.kind) (fits : total + payloadBytes claims ≤ maximum) :
    storedClaims normalizer maximum total ((claims.map CapabilityClaim.toValue).map (Value.normalize normalizer)) =
      .ok claims := by
  induction claims generalizing total with
  | nil => rfl
  | cons claim rest ih =>
    obtain ⟨kind, others⟩ := forall_mem_cons.mp kinds
    rw [payloadBytes, map_cons, sum_cons] at fits
    change total + (claim.payload.length + payloadBytes rest) ≤ maximum at fits
    simp only [map_cons, storedClaims, steps_ok, identifier_ok_iff, bytes_ok_iff]
    refine ⟨_, record_normalize normalizer rfl (by decide) (by decide), claim.kind, ⟨?_, kind⟩, claim.payload,
      ⟨?_, by omega⟩, rest, ih others (by omega), rfl⟩
    · simp [field, Value.normalize, kind.composed]
    · simp [field, lookup_cons, Value.normalize]

/-- A receipt within the bounds is read back. -/
theorem storedReceipt_toValue (valid : receipt.Valid normalizer bounds) :
    storedReceipt normalizer bounds (receipt.toValue.normalize normalizer) = .ok receipt := by
  simp only [storedReceipt, steps_ok, digest_ok_iff, array_ok_iff, bytes_ok_iff]
  refine ⟨_, record_normalize normalizer rfl (by decide) (by decide), receipt.commandDigest, ⟨?_, valid.digest⟩,
    (receipt.capabilityClaims.map CapabilityClaim.toValue).map (Value.normalize normalizer), ⟨?_, ?_⟩,
    receipt.response, ⟨?_, valid.response⟩, receipt.capabilityClaims, ?_, rfl⟩
  · simp [field, Value.normalize, normalizer.ascii _ (isDigest_plain valid.digest)]
  · simp [field, lookup_cons, Value.normalize, normalizeItems_eq]
  · simpa using valid.few
  · simp [field, lookup_cons, Value.normalize]
  · exact storedClaims_toValue valid.kinds (by have := valid.payloads; omega)

theorem wireSize_identifier {text : String} (ok : Identifier normalizer text) :
    wireSize normalizer (.text text) ≤ 265 := by
  have size := wireSize_text normalizer text
  rw [ok.composed] at size
  have := ok.short
  omega

theorem wireSize_digest {text : String} (ok : isDigest text = true) : wireSize normalizer (.text text) ≤ 293 := by
  have size := wireSize_text normalizer text
  rw [normalizer.ascii text (isDigest_plain ok)] at size
  have := isDigest_utf8 ok
  omega

theorem wireSize_claim {claim : CapabilityClaim} (kind : Identifier normalizer claim.kind) :
    wireSize normalizer claim.toValue ≤ 312 + claim.payload.length := by
  have size : wireSize normalizer claim.toValue ≤ _ :=
    wireSize_map normalizer _ ["kind", "payload"] rfl (by decide)
  simp only [map_cons, map_nil, sum_cons, sum_nil] at size
  have kindSize := wireSize_identifier kind
  have payloadSize := wireSize_bytes normalizer claim.payload
  have kindName : "kind".utf8ByteSize = 4 := rfl
  have payloadName : "payload".utf8ByteSize = 7 := rfl
  omega

theorem wireSize_claims (kinds : ∀ claim ∈ claims, Identifier normalizer claim.kind) :
    ((claims.map CapabilityClaim.toValue).map (wireSize normalizer)).sum ≤
      312 * claims.length + payloadBytes claims := by
  induction claims with
  | nil => rfl
  | cons claim rest ih =>
    obtain ⟨kind, others⟩ := forall_mem_cons.mp kinds
    have first := wireSize_claim kind
    have later := ih others
    rw [map_cons, map_cons, sum_cons, length_cons, payloadBytes, map_cons, sum_cons]
    change _ ≤ 312 * (rest.length + 1) + (claim.payload.length + payloadBytes rest)
    omega

/-- The overhead that the kernel allows for is enough. -/
theorem wireSize_receipt (valid : receipt.Valid normalizer bounds) :
    wireSize normalizer receipt.toValue ≤
      bounds.maxReceiptResponseBytes + bounds.maxCapabilityClaimBytes + receiptOverhead := by
  have size : wireSize normalizer receipt.toValue ≤ _ :=
    wireSize_map normalizer _ ["commandDigest", "response", "capabilityClaims"] rfl (by decide)
  simp only [map_cons, map_nil, sum_cons, sum_nil] at size
  have digestSize := @wireSize_digest normalizer _ valid.digest
  have responseSize := wireSize_bytes normalizer receipt.response
  have arraySize := wireSize_array normalizer (receipt.capabilityClaims.map CapabilityClaim.toValue)
  have claimsSize := wireSize_claims valid.kinds
  have digestName : "commandDigest".utf8ByteSize = 13 := rfl
  have responseName : "response".utf8ByteSize = 8 := rfl
  have claimsName : "capabilityClaims".utf8ByteSize = 16 := rfl
  have few := valid.few
  have response := valid.response
  have payloads := valid.payloads
  have maximum := bounds.maxCapabilityClaims.property.2
  unfold receiptOverhead
  omega

end Receipts

section Wire

variable {normalizer : Normalizer} {value : Value} {bounds other : Bounds} {encoded : Bytes}

section

variable (ok : encodeWire normalizer value bounds = .ok encoded)
include ok

theorem encodeWire_length :
    encoded.length = wireSize normalizer value ∧ encoded.length ≤ bounds.maxTransactionBytes := by
  rw [encodeWire, require_ok] at ok
  obtain ⟨fits, rfl⟩ := encodeCanonicalCbor_eq_some_iff.mp ok
  exact ⟨rfl, fits.size⟩

theorem encodeWire_pos : 0 < encoded.length := by
  rw [(encodeWire_length ok).1]
  exact render_pos _

/-- What is written is read back under bounds that hold it. -/
theorem decodeWire_encodeWire (short : encoded.length ≤ other.maxTransactionBytes) :
    decodeWire normalizer encoded other = .ok (value.normalize normalizer) := by
  rw [encodeWire, require_ok] at ok
  rw [decodeWire, require_ok]
  refine decode_encode ok ?_ rfl rfl short
  have := bounds.maxTransactionBytes.property.2
  change bounds.maxTransactionBytes.val < 2 ^ 64
  omega

theorem decodeWire_short (short : encoded.length ≤ 4096) :
    decodeWire normalizer encoded maximumBounds = .ok (value.normalize normalizer) :=
  decodeWire_encodeWire ok (short.trans (show 4096 ≤ (32 <<< 20 : Nat) by decide))

end

/-- The number of the chunks of a safe length is safe. -/
theorem chunkCount_safe {length : Nat} (safe : length ≤ Canonical.maxSafeInteger) :
    Chunks.count chunkBytes length ≤ Canonical.maxSafeInteger := by
  change (length + 1048576 - 1) / 1048576 ≤ _
  unfold Canonical.maxSafeInteger at safe ⊢
  omega

end Wire

section Metadata

variable {kernel : Kernel}

/-- The metadata that the kernel writes. -/
structure Metadata.Valid (kernel : Kernel) (metadata : Metadata) : Prop where
  objectId : Identifier kernel.normalizer metadata.objectId
  physicalId : Identifier kernel.normalizer metadata.physicalId
  positive : 1 ≤ metadata.revision
  revision : metadata.revision ≤ maximumRevision
  stateDigest : isDigest metadata.stateDigest = true
  stateBytes : metadata.stateBytes ≤ kernel.bounds.maxStateBytes
  stateChunks : metadata.stateChunks = Chunks.count chunkBytes metadata.stateBytes
  barrierSerial : metadata.barrierSerial ≤ maximumRevision
  barrierMarker : metadata.barrierMarker.length = if metadata.barrierSerial = 0 then 0 else 32

theorem wireSize_metadata {metadata : Metadata} (valid : metadata.Valid kernel) :
    wireSize kernel.normalizer metadata.toValue ≤ 4096 := by
  have size : wireSize kernel.normalizer metadata.toValue ≤ _ :=
    wireSize_map kernel.normalizer _ ["formatVersion", "objectId", "physicalId", "revision", "stateDigest",
      "stateBytes", "stateChunks", "barrierSerial", "barrierMarker"] rfl (by decide)
  have names : (["formatVersion", "objectId", "physicalId", "revision", "stateDigest", "stateBytes", "stateChunks",
      "barrierSerial", "barrierMarker"].map String.utf8ByteSize).sum = 97 := rfl
  simp only [map_cons, map_nil, sum_cons, sum_nil] at size names
  have object := wireSize_identifier valid.objectId
  have physical := wireSize_identifier valid.physicalId
  have digest := @wireSize_digest kernel.normalizer _ valid.stateDigest
  have marker := wireSize_bytes kernel.normalizer metadata.barrierMarker
  have markerBytes : metadata.barrierMarker.length ≤ 32 := by
    rw [valid.barrierMarker]
    split <;> omega
  have version := wireSize_integer kernel.normalizer 1
  have revision := wireSize_integer kernel.normalizer metadata.revision
  have stateBytes := wireSize_integer kernel.normalizer metadata.stateBytes
  have stateChunks := wireSize_integer kernel.normalizer metadata.stateChunks
  have serial := wireSize_integer kernel.normalizer metadata.barrierSerial
  omega

theorem snapshotRef_present {normalizer : Normalizer} {objectId stateDigest : String} {number : Nat}
    (named : Identifier normalizer objectId) (positive : 1 ≤ number) (safe : number ≤ maximumRevision)
    (digested : isDigest stateDigest = true) :
    snapshotRef normalizer (.map [("objectId", .text objectId), ("exists", .bool true),
      ("revision", .integer number), ("stateDigest", .text stateDigest)]) =
        .ok ⟨objectId, true, number, stateDigest⟩ := by
  simp only [snapshotRef, steps_ok, identifier_ok_iff, revision_ok_iff, boolean_ok_iff, digest_ok_iff]
  refine ⟨_, record_map rfl, objectId, ⟨by simp [field], named⟩, number, ⟨by simp [field, lookup_cons], by omega, safe⟩,
    true, by simp [field, lookup_cons], stateDigest, ⟨by simp [field, lookup_cons], digested⟩, ?_, rfl⟩
  rw [if_pos rfl]
  omega

/-- The kernel accepts the metadata that it wrote. -/
theorem parseMetadata_stored {metadata : Metadata} {encoded : Bytes} (valid : metadata.Valid kernel)
    (written : encodeWire kernel.normalizer metadata.toValue kernel.bounds = .ok encoded) :
    kernel.parseMetadata metadata.objectId metadata.physicalId encoded = .ok metadata := by
  have short : encoded.length ≤ 4096 := (encodeWire_length written).1 ▸ wireSize_metadata valid
  have decoded := decodeWire_short written short
  have safe : metadata.stateBytes ≤ Canonical.maxSafeInteger := by
    have := kernel.bounds.maxStateBytes.property.2
    exact (valid.stateBytes.trans this).trans (by decide)
  have chunks : metadata.stateChunks ≤ Canonical.maxSafeInteger := valid.stateChunks ▸ chunkCount_safe safe
  simp only [parseMetadata, steps_ok, bytes_ok_iff, revision_ok_iff]
  refine ⟨encoded, ⟨rfl, short⟩, _, decoded, _, record_normalize kernel.normalizer rfl (by decide) (by decide),
    ⟨metadata.objectId, true, metadata.revision, metadata.stateDigest⟩, ?_, metadata.stateBytes, ⟨?_, by omega, safe⟩,
    metadata.stateChunks, ⟨?_, by omega, chunks⟩, metadata.barrierSerial, ⟨?_, by omega, valid.barrierSerial⟩,
    metadata.barrierMarker, ⟨?_, ?_⟩, ?_, rfl⟩
  · rw [← snapshotRef_present valid.objectId valid.positive valid.revision valid.stateDigest]
    simp [field, lookup_cons, Value.normalize, valid.objectId.composed,
      kernel.normalizer.ascii _ (isDigest_plain valid.stateDigest)]
  · simp [field, lookup_cons, Value.normalize]
  · simp [field, lookup_cons, Value.normalize]
  · simp [field, lookup_cons, Value.normalize]
  · simp [field, lookup_cons, Value.normalize]
  · rw [valid.barrierMarker]
    split <;> omega
  · simp [field, lookup_cons, Value.normalize, isInteger, isText, valid.physicalId.composed, valid.stateChunks,
      valid.barrierMarker, valid.stateBytes]

end Metadata

section Chunks

theorem chunkBytes_pos : 0 < chunkBytes := by decide

/-- Stored chunks are read back as the whole. -/
theorem readChunks_stored {store : Storage} {key : Nat → StorageKey} {value : Bytes}
    (stored : ∀ index < Chunks.count chunkBytes value.length,
      store (key index) = some (Chunks.chunk chunkBytes index value)) :
    Kernel.readChunks store key (Chunks.count chunkBytes value.length) value.length = .ok value := by
  simp only [readChunks, bind_ok, pure_ok, mapM_ok_iff]
  refine ⟨(List.range (Chunks.count chunkBytes value.length)).map (Chunks.chunk chunkBytes · value), ?_, ?_⟩
  · rw [forall₂_map_right_iff, forall₂_same]
    intro index member
    simp only [exists_unit, require_ok, refuseIf_ok]
    exact ⟨_, stored index (mem_range.mp member), by simp [Chunks.chunk_length], rfl⟩
  · rw [← flatMap_def]
    exact Chunks.flatMap_chunk_all chunkBytes_pos value

end Chunks

section Receipts

variable {kernel : Kernel}

theorem wireSize_manifest {manifest : ReceiptManifest} (commandId : Identifier kernel.normalizer manifest.commandId)
    (digest : isDigest manifest.digest = true) : wireSize kernel.normalizer manifest.toValue ≤ 4096 := by
  have size : wireSize kernel.normalizer manifest.toValue ≤ _ :=
    wireSize_map kernel.normalizer _ ["commandId", "digest", "encodedBytes", "chunks"] rfl (by decide)
  have names : (["commandId", "digest", "encodedBytes", "chunks"].map String.utf8ByteSize).sum = 33 := rfl
  simp only [map_cons, map_nil, sum_cons, sum_nil] at size names
  have command := wireSize_identifier commandId
  have digestSize := @wireSize_digest kernel.normalizer _ digest
  have encodedBytes := wireSize_integer kernel.normalizer manifest.encodedBytes
  have chunks := wireSize_integer kernel.normalizer manifest.chunks
  omega

/-- The storage holds the manifest and all chunks of a receipt. -/
structure Kernel.Holds (kernel : Kernel) (store : Storage) (write : ReceiptWrite) : Prop where
  commandId : Identifier kernel.normalizer write.commandId
  valid : write.receipt.Valid kernel.normalizer kernel.bounds
  stored : ∃ payload manifest, encodeWire kernel.normalizer write.receipt.toValue kernel.bounds = .ok payload ∧
      encodeWire kernel.normalizer (kernel.manifestOf write payload).toValue kernel.bounds = .ok manifest ∧
      store (.manifest (kernel.receiptPrefix write.commandId)) = some manifest ∧
      ∀ index < Chunks.count chunkBytes payload.length,
        store (.receipt (kernel.receiptPrefix write.commandId) index) = some (Chunks.chunk chunkBytes index payload)

/-- The kernel reads the receipt that it holds. -/
theorem readReceipt_stored {store : Storage} {write : ReceiptWrite} (holds : kernel.Holds store write) :
    kernel.readReceipt store write.commandId true = .ok (some write.receipt) := by
  obtain ⟨payload, manifest, encoded, manifested, present, chunks⟩ := holds.stored
  have short : manifest.length ≤ 4096 :=
    (encodeWire_length manifested).1 ▸ wireSize_manifest holds.commandId (kernel.digest_isDigest payload)
  have decodedManifest := decodeWire_short manifested short
  obtain ⟨size, fits⟩ := encodeWire_length encoded
  have decoded := @decodeWire_encodeWire _ _ _ kernel.bounds _ encoded fits
  have limit : payload.length ≤ kernel.receiptLimit := le_min fits (size ▸ wireSize_receipt holds.valid)
  have positive := encodeWire_pos encoded
  have safe : payload.length ≤ Canonical.maxSafeInteger := by
    have := kernel.bounds.maxTransactionBytes.property.2
    exact (fits.trans this).trans (by decide)
  have some_chunk : 1 ≤ Chunks.count chunkBytes payload.length := by
    change 1 ≤ (payload.length + 1048576 - 1) / 1048576
    omega
  have parsed : kernel.parseReceipt store write.commandId manifest = .ok write.receipt := by
    simp only [parseReceipt, steps_ok, bytes_ok_iff, revision_ok_iff]
    refine ⟨manifest, ⟨rfl, short⟩, _, decodedManifest, _,
      record_normalize kernel.normalizer rfl (by decide) (by decide), ?_, payload.length, ⟨?_, positive, safe⟩,
      Chunks.count chunkBytes payload.length, ⟨?_, some_chunk, chunkCount_safe safe⟩, ?_, payload, readChunks_stored chunks, ?_, _, decoded,
      storedReceipt_toValue holds.valid⟩
    · simp [field, Value.normalize, isText, manifestOf, holds.commandId.composed]
    · simp [field, lookup_cons, Value.normalize, manifestOf]
    · simp [field, lookup_cons, Value.normalize, manifestOf]
    · simp [limit]
    · simp [field, lookup_cons, Value.normalize, isText, manifestOf,
        kernel.normalizer.ascii _ (isDigest_plain (kernel.digest_isDigest payload))]
  rw [readReceipt, present]
  simp only [steps_ok, map_ok_iff, parsed, orCorrupt]
  exact ⟨by simp, write.receipt, rfl, rfl⟩

theorem readReceipt_absent {store : Storage} {commandId : String} (anchored : Bool)
    (absent : store (.manifest (kernel.receiptPrefix commandId)) = none) :
    kernel.readReceipt store commandId anchored = .ok none := by
  rw [readReceipt, absent]

end Receipts

end Circulusd.NativeStorage
