import Mathlib.Tactic

/-
Typed identities and the text checks that the platform services share.
-/

namespace Circulusd.Platform

variable {value : String} {maximum : Nat}

inductive Kind where
  | tenant
  | subject
  | session
  | turn
  | effect
  | invocation
  | workspace
  | sandbox
  | process
  | lease
  | commit
  | operation
  | request
  | artifact
  | runtimeRevision
  | environmentRevision
  | policyRevision
deriving DecidableEq

/-- The zero identity has no kind and no text. -/
structure ID where
  kind : Option Kind
  value : String
deriving DecidableEq, Inhabited

/-- `math.MaxUint64`. -/
def maxUint64 : Nat := 2 ^ 64 - 1

/-- `math.MaxInt64`. -/
def maxInt64 : Nat := 2 ^ 63 - 1

/-- A bound that is positive and below its ceiling. -/
def Within (bound ceiling : Nat) : Prop :=
  bound ≠ 0 ∧ bound ≤ ceiling
deriving Decidable

/-- `unicode.IsControl`. -/
def isControl (character : Char) : Bool :=
  character.toNat < 0x20 || (0x7f ≤ character.toNat && character.toNat ≤ 0x9f)

/-- Unicode normalization to composed form. It leaves ASCII texts and the ends of its own results as
they are. -/
@[ext]
structure Normalizer where
  nfc : String → String
  ascii : ∀ text, (∀ character ∈ text.toList, character.toNat < 128) → nfc text = text
  suffix : ∀ text ending, ending.toList <:+ (nfc text).toList → nfc ending = ending

theorem Normalizer.idempotent (normalizer : Normalizer) (text : String) :
    normalizer.nfc (normalizer.nfc text) = normalizer.nfc text :=
  normalizer.suffix text (normalizer.nfc text) List.suffix_rfl

/-- It leaves every text as it is. -/
def Normalizer.identity : Normalizer := ⟨id, fun _ _ => rfl, fun _ _ _ => rfl⟩

/-- Text that is present, short enough and printable. -/
def ValidBoundedText (value : String) (maximum : Nat) : Prop :=
  value ≠ "" ∧ value.utf8ByteSize ≤ maximum ∧ value.toList.any isControl = false
deriving Decidable

/-- An optional text is either absent or within its bound. -/
def OptionalText (value : String) (maximum : Nat) : Prop :=
  value = "" ∨ ValidBoundedText value maximum
deriving Decidable

def asciiAlphanumeric (character : Char) : Bool :=
  ('A' ≤ character && character ≤ 'Z') || ('a' ≤ character && character ≤ 'z') || ('0' ≤ character && character ≤ '9')

/-- A text that starts with a letter or digit and continues with the permitted characters. -/
def matchesPattern (permitted : Char → Bool) (value : String) : Bool :=
  match value.toList with
  | [] => false
  | first :: rest => asciiAlphanumeric first && rest.all permitted

/-- `identifierPattern`. -/
def identifierPattern : String → Bool :=
  matchesPattern fun character =>
    asciiAlphanumeric character || character ∈ ['.', '_', ':', '/', '-']

/-- `targetRefPattern`. -/
def targetRefPattern : String → Bool :=
  matchesPattern fun character => asciiAlphanumeric character || character ∈ ['.', '_', '/', '-']

def ValidIdentifier (value : String) (maximum : Nat) : Prop :=
  ValidBoundedText value maximum ∧ identifierPattern value = true
deriving Decidable

/-- The segments of a text between its slashes. -/
def segments (value : String) : List (List Char) :=
  value.toList.splitOn '/'

/-- A registry reference has no empty, `.` or `..` segment, so it neither starts nor ends with a slash. -/
def ValidRegistryRef (value : String) (maximum : Nat) : Prop :=
  ValidBoundedText value maximum ∧ targetRefPattern value = true ∧
    ∀ segment ∈ segments value, segment ≠ ['.'] ∧ segment ≠ ['.', '.'] ∧ segment ≠ []
deriving Decidable

theorem ValidBoundedText.optional (valid : ValidBoundedText value maximum) : OptionalText value maximum :=
  .inr valid

theorem ValidBoundedText.size (valid : ValidBoundedText value maximum) : value.utf8ByteSize ≤ maximum :=
  valid.2.1

theorem OptionalText.size (valid : OptionalText value maximum) : value.utf8ByteSize ≤ maximum := by
  rcases valid with rfl | present
  · exact Nat.zero_le _
  · exact present.size

end Circulusd.Platform
