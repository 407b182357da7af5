import Circulusd.Canonical.Render

/-
The canonical CBOR functions of the TypeScript protocol types. Their callers discard the text of an
error, so an error is the absence of a result here.
-/

namespace Circulusd.Canonical

open Platform Protocol

structure WireLimits where
  maxDepth : Nat
  maxBytes : Nat
  maxItems : Nat
deriving DecidableEq

section Encoder

def WireLimits.enter (limits : WireLimits) (depth items : Nat) : Option Nat :=
  if limits.maxDepth < depth ∨ limits.maxItems ≤ items then none else some (items + 1)

mutual

/-- `normalize`: the normalized value, its maps in the order given, and the items counted so far. -/
def Value.normalizeWithin (normalizer : Normalizer) (limits : WireLimits) : Value → Nat → Nat → Option (Value × Nat)
  | .null, depth, items => (limits.enter depth items).map fun items => (.null, items)
  | .bool value, depth, items => (limits.enter depth items).map fun items => (.bool value, items)
  | .text value, depth, items =>
    (limits.enter depth items).map fun items => (.text (normalizer.nfc value), items)
  | .bytes value, depth, items => (limits.enter depth items).map fun items => (.bytes value, items)
  | .integer value, depth, items => do
    let items ← limits.enter depth items
    if maxSafeInteger < value.natAbs then none else some (.integer value, items)
  | .array values, depth, items => do
    let items ← limits.enter depth items
    let (values, items) ← Value.normalizeItemsWithin normalizer limits values (depth + 1) items
    some (.array values, items)
  | .map entries, depth, items => do
    let items ← limits.enter depth items
    let (entries, items) ← Value.normalizeEntriesWithin normalizer limits entries (depth + 1) [] items
    some (.map entries, items)

def Value.normalizeItemsWithin (normalizer : Normalizer) (limits : WireLimits) :
    List Value → Nat → Nat → Option (List Value × Nat)
  | [], _, items => some ([], items)
  | value :: rest, depth, items => do
    let (value, items) ← value.normalizeWithin normalizer limits depth items
    let (rest, items) ← Value.normalizeItemsWithin normalizer limits rest depth items
    some (value :: rest, items)

def Value.normalizeEntriesWithin (normalizer : Normalizer) (limits : WireLimits) :
    List (String × Value) → Nat → List String → Nat → Option (List (String × Value) × Nat)
  | [], _, _, items => some ([], items)
  | (key, value) :: rest, depth, seen, items =>
    if limits.maxItems ≤ items ∨ normalizer.nfc key ∈ seen then none
    else do
      let (value, items) ← value.normalizeWithin normalizer limits depth (items + 1)
      let (rest, items) ← Value.normalizeEntriesWithin normalizer limits rest depth (normalizer.nfc key :: seen) items
      some ((normalizer.nfc key, value) :: rest, items)

end

mutual

/-- `writeValue`: the entries of a map are sorted when they are written. -/
def Value.write : Value → Bytes
  | .null => [0xf6]
  | .bool value => [if value then 0xf5 else 0xf4]
  | .integer value => if 0 ≤ value then headBytes 0 value.toNat else headBytes 1 (-1 - value).toNat
  | .text value => headBytes 3 (utf8 value).length ++ utf8 value
  | .bytes value => headBytes 2 value.length ++ value
  | .array values => headBytes 4 values.length ++ Value.writeItems values
  | .map entries =>
    headBytes 5 entries.length ++
      ((Value.writeEntries entries).insertionSort (KeyBefore ·.1 ·.1)).flatMap fun entry => entry.1 ++ entry.2

def Value.writeItems : List Value → Bytes
  | [] => []
  | value :: rest => value.write ++ Value.writeItems rest

def Value.writeEntries : List (String × Value) → List (Bytes × Bytes)
  | [] => []
  | (key, value) :: rest =>
    (headBytes 3 (utf8 key).length ++ utf8 key, value.write) :: Value.writeEntries rest

end

def encodeCanonicalCbor (normalizer : Normalizer) (limits : WireLimits) (value : Value) : Option Bytes := do
  let (normalized, _) ← value.normalizeWithin normalizer limits 0 0
  if limits.maxBytes < normalized.write.length then none else some normalized.write

end Encoder

section Decoder

def minimumArgument : Nat → Nat
  | 1 => 24
  | 2 => 0x100
  | 4 => 0x10000
  | _ => 0x100000000

def unsigned (bytes : Bytes) : Nat :=
  bytes.foldl (fun value byte => value * 256 + byte.toNat) 0

/-- `#readArgument`. -/
def readArgument (additional : Nat) (bytes : Bytes) : Option (Nat × Bytes) :=
  if additional < 24 then some (additional, bytes)
  else if 27 < additional then none
  else
    let width := 2 ^ (additional - 24)
    if bytes.length < width ∨ unsigned (bytes.take width) < minimumArgument width then none
    else some (unsigned (bytes.take width), bytes.drop width)

/-- A reader of one value: the items counted so far and the bytes ahead. -/
abbrev Reader := Nat → Bytes → Option (Value × Nat × Bytes)

def readItems (read : Reader) : Nat → Nat → Bytes → Option (List Value × Nat × Bytes)
  | 0, items, bytes => some ([], items, bytes)
  | count + 1, items, bytes => do
    let (value, items, bytes) ← read items bytes
    let (rest, items, bytes) ← readItems read count items bytes
    some (value :: rest, items, bytes)

/-- The keys of a map are distinct texts in ascending order. -/
def readEntries (read : Reader) :
    Nat → Option Bytes → List String → Nat → Bytes → Option (List (String × Value) × Nat × Bytes)
  | 0, _, _, items, bytes => some ([], items, bytes)
  | count + 1, previous, seen, items, bytes => do
    let (key, items, ahead) ← read items bytes
    match key with
    | .text key =>
      let encoded := bytes.take (bytes.length - ahead.length)
      if key ∈ seen ∨ previous.any (fun before => decide (KeyBefore encoded before)) = true then none
      else do
        let (value, items, bytes) ← read items ahead
        let (rest, items, bytes) ← readEntries read count (some encoded) (key :: seen) items bytes
        some ((key, value) :: rest, items, bytes)
    | _ => none

/-- `#readValue`; the recursion is on the depth that is left. -/
def readValue (normalizer : Normalizer) (maxItems : Nat) : Nat → Reader
  | 0, _, _ => none
  | remaining + 1, items, bytes =>
    match bytes with
    | [] => none
    | initial :: bytes =>
      if maxItems ≤ items then none
      else
        let items := items + 1
        let major := initial.toNat / 32
        if major = 7 then
          if initial = 0xf4 then some (.bool false, items, bytes)
          else if initial = 0xf5 then some (.bool true, items, bytes)
          else if initial = 0xf6 then some (.null, items, bytes)
          else none
        else if major = 6 then none
        else do
          let (argument, bytes) ← readArgument (initial.toNat % 32) bytes
          match major with
          | 0 => if maxSafeInteger < argument then none else some (.integer argument, items, bytes)
          | 1 =>
            if maxSafeInteger < argument + 1 then none
            else some (.integer (-1 - argument), items, bytes)
          | 2 =>
            if bytes.length < argument then none
            else some (.bytes (bytes.take argument), items, bytes.drop argument)
          | 3 =>
            if bytes.length < argument then none
            else do
              let text ← String.fromUTF8? ⟨(bytes.take argument).toArray⟩
              if normalizer.nfc text = text then some (.text text, items, bytes.drop argument) else none
          | 4 =>
            if bytes.length < argument ∨ maxItems < items + argument then none
            else do
              let (values, items, bytes) ← readItems (readValue normalizer maxItems remaining) argument items bytes
              some (.array values, items, bytes)
          | _ =>
            if bytes.length < argument * 2 ∨ maxItems < items + argument * 2 then none
            else do
              let (entries, items, bytes) ←
                readEntries (readValue normalizer maxItems remaining) argument none [] items bytes
              some (.map entries, items, bytes)

def decodeCanonicalCbor (normalizer : Normalizer) (limits : WireLimits) (bytes : Bytes) : Option Value :=
  if limits.maxBytes < bytes.length then none
  else
    match readValue normalizer limits.maxItems (limits.maxDepth + 1) 0 bytes with
    | some (value, _, []) => some value
    | _ => none

end Decoder

end Circulusd.Canonical
