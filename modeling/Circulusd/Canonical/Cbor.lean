import Circulusd.Library.Checked
import Circulusd.Platform.Identity
import Circulusd.Protocol.Types
import Mathlib.Data.List.Lex
import Mathlib.Data.List.Sort

/-
The deterministic CBOR encoder of the canonical package.
-/

namespace Circulusd.Canonical

open Checked Platform Protocol

def maxSafeInteger : Nat := 9007199254740991

inductive CanonicalError where
  | invalidValue
  | invalidEncoding
  | duplicateKey
  | limitExceeded
  | invalidOption
deriving DecidableEq

def CanonicalError.text : CanonicalError → String
  | .invalidValue => "invalid canonical value"
  | .invalidEncoding => "invalid canonical encoding"
  | .duplicateKey => "duplicate normalized key"
  | .limitExceeded => "canonical encoding limit exceeded"
  | .invalidOption => "invalid canonical encoding option"

structure Refusal where
  error : CanonicalError
  message : Formatted
deriving DecidableEq

def CanonicalError.wrap (error : CanonicalError) (detail : Formatted) : Refusal :=
  ⟨error, error.text ++ ": " ++ detail⟩

/-- All integer types of the source are one here; a map lists its entries in the order in which a loop
visits them. -/
inductive Value where
  | null
  | bool (value : Bool)
  | text (value : String)
  | bytes (value : Bytes)
  | integer (value : Int)
  | array (items : List Value)
  | map (entries : List (String × Value))

structure Options where
  maxDepth : Int
  maxBytes : Int
  maxItems : Int
deriving DecidableEq

def defaultOptions : Options where
  maxDepth := 64
  maxBytes := 16777216
  maxItems := 1000000

structure Writer where
  encoded : Bytes
  maxBytes : Nat
  items : Nat
  maxItems : Nat
deriving DecidableEq

def Writer.appendBytes (writer : Writer) (value : Bytes) : Except Refusal Writer := do
  refuseIf (writer.maxBytes < writer.encoded.length + value.length)
    (CanonicalError.limitExceeded.wrap ("encoded size exceeds " ++ toString writer.maxBytes ++ " bytes"))
  pure { writer with encoded := writer.encoded ++ value }

/-- The lowest bytes of a number, the highest of them first. -/
def bigEndian : Nat → Nat → Bytes
  | 0, _ => []
  | width + 1, value => UInt8.ofNat (value / 256 ^ width) :: bigEndian width value

/-- A major type with its argument in the shortest form. -/
def headBytes (major value : Nat) : Bytes :=
  if value < 24 then [UInt8.ofNat (major * 32 + value)]
  else if value ≤ 0xff then UInt8.ofNat (major * 32 + 24) :: bigEndian 1 value
  else if value ≤ 0xffff then UInt8.ofNat (major * 32 + 25) :: bigEndian 2 value
  else if value ≤ 0xffffffff then UInt8.ofNat (major * 32 + 26) :: bigEndian 4 value
  else UInt8.ofNat (major * 32 + 27) :: bigEndian 8 value

def Writer.appendHead (writer : Writer) (major value : Nat) : Except Refusal Writer :=
  writer.appendBytes (headBytes major value)

def utf8 (text : String) : Bytes :=
  text.toUTF8.data.toList

def itemLimit (writer : Writer) : Refusal :=
  CanonicalError.limitExceeded.wrap ("encoded item limit " ++ toString writer.maxItems ++ " exceeded")

def Writer.countItem (writer : Writer) : Except Refusal Writer := do
  refuseIf (writer.maxItems ≤ writer.items) (itemLimit writer)
  pure { writer with items := writer.items + 1 }

/-- What `encode` checks of every value. -/
def Writer.enter (writer : Writer) (depth maxDepth : Nat) : Except Refusal Writer := do
  refuseIf (maxDepth < depth) (CanonicalError.limitExceeded.wrap ("maximum depth " ++ toString maxDepth))
  writer.countItem

def unsafeInteger : Refusal :=
  CanonicalError.invalidValue.wrap "integer exceeds the shared safe range"

def encodeText (normalizer : Normalizer) (maxDepth : Nat) (value : String) (depth : Nat) (writer : Writer) :
    Except Refusal Writer := do
  let writer ← writer.enter depth maxDepth
  let writer ← writer.appendHead 3 (utf8 (normalizer.nfc value)).length
  writer.appendBytes (utf8 (normalizer.nfc value))

/-- The encoder of a value, for a depth and from a writer. -/
abbrev Encoder := Nat → Writer → Except Refusal Writer

structure PreparedEntry where
  encoded : Bytes
  value : Encoder

/-- Encoded keys are ordered by length first. -/
def KeyBefore (left right : Bytes) : Prop :=
  left.length < right.length ∨ left.length = right.length ∧ left ≤ right
deriving Decidable

def PreparedEntry.Before (left right : PreparedEntry) : Prop :=
  KeyBefore left.encoded right.encoded
deriving Decidable

/-- The keys of a map, each in a writer of its own. -/
def prepare (normalizer : Normalizer) (maxDepth depth : Nat) :
    List String → List (String × Encoder) → Except Refusal (List PreparedEntry)
  | _, [] => .ok []
  | seen, (key, value) :: rest => do
    let key := normalizer.nfc key
    refuseIf (key ∈ seen) (CanonicalError.duplicateKey.wrap (quoted key))
    let writer ← encodeText normalizer maxDepth key (depth + 1) ⟨[], (utf8 key).length + 9, 0, 1⟩
    let others ← prepare normalizer maxDepth depth (key :: seen) rest
    pure (⟨writer.encoded, value⟩ :: others)

mutual

def Value.encode (normalizer : Normalizer) (maxDepth : Nat) : Value → Encoder
  | .null => fun depth writer => do
    let writer ← writer.enter depth maxDepth
    writer.appendBytes [0xf6]
  | .bool value => fun depth writer => do
    let writer ← writer.enter depth maxDepth
    writer.appendBytes [if value then 0xf5 else 0xf4]
  | .text value => encodeText normalizer maxDepth value
  | .bytes value => fun depth writer => do
    let writer ← writer.enter depth maxDepth
    let writer ← writer.appendHead 2 value.length
    writer.appendBytes value
  | .integer value => fun depth writer => do
    let writer ← writer.enter depth maxDepth
    refuseIf (maxSafeInteger < value.natAbs) unsafeInteger
    if 0 ≤ value then writer.appendHead 0 value.toNat else writer.appendHead 1 (-1 - value).toNat
  | .array items => fun depth writer => do
    let writer ← writer.enter depth maxDepth
    refuseIf (writer.maxItems < writer.items + items.length) (itemLimit writer)
    let writer ← writer.appendHead 4 items.length
    (Value.encodeItems normalizer maxDepth items).foldlM (fun writer encoder => encoder (depth + 1) writer) writer
  | .map entries => fun depth writer => do
    let writer ← writer.enter depth maxDepth
    refuseIf ((writer.maxItems - writer.items) / 2 < entries.length) (itemLimit writer)
    let prepared ← prepare normalizer maxDepth depth [] (Value.encodeEntries normalizer maxDepth entries)
    let writer ← writer.appendHead 5 prepared.length
    (prepared.insertionSort PreparedEntry.Before).foldlM (fun writer entry => do
        let writer ← writer.countItem
        let writer ← writer.appendBytes entry.encoded
        entry.value (depth + 1) writer)
      writer

def Value.encodeItems (normalizer : Normalizer) (maxDepth : Nat) : List Value → List Encoder
  | [] => []
  | item :: rest => item.encode normalizer maxDepth :: Value.encodeItems normalizer maxDepth rest

def Value.encodeEntries (normalizer : Normalizer) (maxDepth : Nat) : List (String × Value) → List (String × Encoder)
  | [] => []
  | (key, value) :: rest =>
    (key, value.encode normalizer maxDepth) :: Value.encodeEntries normalizer maxDepth rest

end

/-- `Encode`. -/
def encode (normalizer : Normalizer) (value : Value) (options : Options) : Except Refusal Bytes := do
  refuseIf (options.maxDepth < 0 ∨ options.maxBytes < 0 ∨ options.maxItems < 0)
    ⟨.invalidOption, CanonicalError.invalidOption.text⟩
  let writer ← value.encode normalizer options.maxDepth.toNat 0 ⟨[], options.maxBytes.toNat, 0, options.maxItems.toNat⟩
  pure writer.encoded

def hexCharacter (nibble : Nat) : Char :=
  (['0', '1', '2', '3', '4', '5', '6', '7', '8', '9', 'a', 'b', 'c', 'd', 'e', 'f'][nibble]?).getD '0'

/-- `hex.EncodeToString`. -/
def hexText (bytes : Bytes) : String :=
  String.ofList (bytes.flatMap fun byte => [hexCharacter (byte.toNat / 16), hexCharacter (byte.toNat % 16)])

/-- The value that is hashed. -/
def envelope (domain : String) (schemaVersion : Nat) (payload : Value) : Value :=
  .array [.text "circulusd.hash", .integer 1, .text domain, .integer schemaVersion, payload]

/-- `StructuredDigest`. -/
def structuredDigest (normalizer : Normalizer) (sha256 : Bytes → Bytes) (domain : String)
    (schemaVersion : Nat) (payload : Value) : Except Refusal String := do
  refuseIf (domain = "" ∨ normalizer.nfc domain ≠ domain)
    (CanonicalError.invalidValue.wrap "digest domain must be non-empty NFC UTF-8")
  refuseIf (schemaVersion = 0 ∨ maxSafeInteger < schemaVersion)
    (CanonicalError.invalidValue.wrap "schema version is outside the shared integer range")
  let encoded ← encode normalizer (envelope domain schemaVersion payload) defaultOptions
  pure ("sha256:" ++ hexText (sha256 encoded))

end Circulusd.Canonical
