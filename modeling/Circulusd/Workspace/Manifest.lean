import Circulusd.Library.Checked
import Circulusd.Library.Paths
import Circulusd.Library.Store
import Circulusd.Library.Trace
import Circulusd.Platform.Identity
import Mathlib.Data.List.Sort
import Mathlib.Data.String.Basic

/-
Workspace manifests: the flat list of entries, its canonical form and the check of symbolic links.
-/

namespace Circulusd.Workspace

open Checked KeyValue Platform Trace

variable (unicode : Unicode) (index : Index) (path : String) (entry : Entry)

def maxComponentBytes : Nat := 255

def maxPathBytes : Nat := 4096

def maxFileSize : Int := 9007199254740991

def rootDigestDomain : String := "circulusd.workspace.manifest.root"

def maxSymlinkExpansions : Nat := 40

inductive ManifestError where
  | invalidPath
  | pathCollision
  | invalidEntry
  | invalidTree
deriving DecidableEq

def ManifestError.text : ManifestError → String
  | .invalidPath => "invalid workspace path"
  | .pathCollision => "canonical workspace path collision"
  | .invalidEntry => "invalid workspace entry"
  | .invalidTree => "invalid workspace tree"

/-- The error that a caller tests for, and its whole message. -/
structure Refusal where
  error : ManifestError
  message : Formatted
deriving DecidableEq

def ManifestError.wrap (error : ManifestError) (detail : Formatted) : Refusal :=
  ⟨error, error.text ++ ": " ++ detail⟩

/-- A type is a text in the source; any other text is unsupported. -/
inductive EntryType where
  | file
  | directory
  | symlink
  | other (text : String)
deriving DecidableEq

def EntryType.text : EntryType → String
  | .file => "file"
  | .directory => "directory"
  | .symlink => "symlink"
  | .other text => text

/-- One path of the workspace. -/
structure Entry where
  path : String
  type : EntryType
  mode : UInt32
  size : Int
  contentDigest : String
  symlinkTarget : String
deriving DecidableEq

/-- The Unicode tables that `Canonicalize` reads. -/
structure Unicode extends Normalizer where
  toLower : String → String

/-- Texts that are composed already. -/
def plainUnicode : Unicode where
  nfc text := text
  toLower text := text
  ascii _ _ := rfl
  suffix _ _ _ := rfl

def checkComponent (path component : String) : Except Refusal Unit := do
  refuseIf (component = "" ∨ component = "." ∨ component = "..") (ManifestError.invalidPath.wrap
      (quoted path ++ " contains forbidden component " ++ quoted component))
  refuseIf (maxComponentBytes < component.utf8ByteSize) (ManifestError.invalidPath.wrap
      ("component " ++ quoted component ++ " is " ++ toString component.utf8ByteSize ++
        " bytes; maximum is " ++ toString maxComponentBytes))
  refuseIf (component.toList.any isControl = true)
    (ManifestError.invalidPath.wrap (quoted path ++ " contains a control character"))

/-- A path is relative, and none of its components is special. -/
def checkPath (index : Nat) (path : String) : Except Refusal Unit := do
  refuseIf (path = "") (ManifestError.invalidPath.wrap ("entry " ++ toString index ++ " is empty"))
  refuseIf (path.toList.head? = some '/') (ManifestError.invalidPath.wrap (quoted path ++ " is absolute"))
  refuseIf ('\x00' ∈ path.toList) (ManifestError.invalidPath.wrap (quoted path ++ " contains NUL"))
  refuseIf (maxPathBytes < path.utf8ByteSize) (ManifestError.invalidPath.wrap
      (quoted path ++ " is " ++ toString path.utf8ByteSize ++ " bytes; maximum is " ++ toString maxPathBytes))
  forEach (checkComponent path) (Paths.split path)

/-- A digit of either case, as `hex.DecodeString` takes it. -/
def hexDigit (character : Char) : Bool :=
  ('0' ≤ character && character ≤ '9') || ('a' ≤ character && character ≤ 'f') || ('A' ≤ character && character ≤ 'F')

/-- Of the mode only whether the file is executable is kept. -/
def Unicode.normalizeFile : Except Refusal Entry := do
  refuseIf (entry.size < 0 ∨ maxFileSize < entry.size) (ManifestError.invalidEntry.wrap
      ("file " ++ quoted entry.path ++ " size " ++ toString entry.size ++ " is outside 0.." ++ toString maxFileSize))
  refuseIf (entry.symlinkTarget ≠ "")
    (ManifestError.invalidEntry.wrap ("file " ++ quoted entry.path ++ " has a symlink target"))
  refuseIf (entry.contentDigest.utf8ByteSize ≠ 71 ∨ entry.contentDigest.toList.take 7 ≠ "sha256:".toList ∨
      entry.contentDigest ≠ unicode.toLower entry.contentDigest)
    (ManifestError.invalidEntry.wrap ("file " ++ quoted entry.path ++ " has a non-canonical SHA-256 digest"))
  refuseIf ((entry.contentDigest.toList.drop 7).all hexDigit = false ∨ (entry.contentDigest.toList.drop 7).length ≠ 64)
    (ManifestError.invalidEntry.wrap ("file " ++ quoted entry.path ++ " has a malformed SHA-256 digest"))
  pure { entry with mode := if entry.mode &&& 0o111 = 0 then 0o644 else 0o755 }

def normalizeDirectory : Except Refusal Entry := do
  refuseIf (entry.size ≠ 0 ∨ entry.contentDigest ≠ "" ∨ entry.symlinkTarget ≠ "") (ManifestError.invalidEntry.wrap
      ("directory " ++ quoted entry.path ++ " contains file or symlink metadata"))
  pure { entry with mode := 0o755 }

def checkTargetComponent (path component : String) : Except Refusal Unit := do
  refuseIf (component ≠ "." ∧ component ≠ ".." ∧ maxComponentBytes < component.utf8ByteSize)
    (ManifestError.invalidEntry.wrap
      ("symlink " ++ quoted path ++ " target component " ++ quoted component ++ " is longer than " ++
        toString maxComponentBytes ++ " bytes"))
  refuseIf (component.toList.any isControl = true) (ManifestError.invalidEntry.wrap
      ("symlink " ++ quoted path ++ " target contains a control character"))

/-- Leading `./` go away together with the slashes after them. -/
def stripCurrent (stripped : Bool) : List Char → List Char
  | '.' :: '/' :: rest => stripCurrent true rest
  | '/' :: rest => if stripped then stripCurrent true rest else '/' :: rest
  | rest => rest

/-- A target with nothing left is the directory itself. -/
def strippedTarget (target : String) : String :=
  if stripCurrent false target.toList = [] then "." else String.ofList (stripCurrent false target.toList)

/-- `resolvedTarget` names the parent of the root or something under it. -/
def escapes (resolvedTarget : String) : Prop :=
  resolvedTarget = ".." ∨ "../".toList <+: resolvedTarget.toList
deriving Decidable

/-- The target must stay inside as a text; the links on it are checked later. -/
def Unicode.normalizeSymlink : Except Refusal Entry := do
  refuseIf (entry.size ≠ 0 ∨ entry.contentDigest ≠ "")
    (ManifestError.invalidEntry.wrap ("symlink " ++ quoted entry.path ++ " contains file metadata"))
  let target := unicode.nfc entry.symlinkTarget
  refuseIf (target = "" ∨ '\x00' ∈ target.toList ∨ target.toList.head? = some '/') (ManifestError.invalidEntry.wrap
      ("symlink " ++ quoted entry.path ++ " target " ++ quoted target ++ " is not a safe relative path"))
  refuseIf (maxPathBytes < target.utf8ByteSize) (ManifestError.invalidEntry.wrap
      ("symlink " ++ quoted entry.path ++ " target is longer than " ++ toString maxPathBytes ++ " bytes"))
  forEach (checkTargetComponent entry.path) (Paths.split target)
  refuseIf (escapes (Paths.clean (Paths.concat (Paths.directoryOf entry.path) (strippedTarget target))))
    (ManifestError.invalidEntry.wrap ("symlink " ++ quoted entry.path ++ " target " ++ quoted (strippedTarget target) ++
        " escapes the workspace"))
  pure { entry with symlinkTarget := strippedTarget target, mode := 0o777 }

def Unicode.normalize : Except Refusal Entry := do
  refuseIf (entry.mode &&& ~~~0o777 ≠ 0) (ManifestError.invalidEntry.wrap
      (quoted entry.path ++ " mode 0" ++ String.ofList (Nat.toDigits 8 entry.mode.toNat) ++
        " contains unsupported bits"))
  match entry.type with
  | .file => unicode.normalizeFile entry
  | .directory => normalizeDirectory entry
  | .symlink => unicode.normalizeSymlink entry
  | .other text =>
    throw (ManifestError.invalidEntry.wrap (quoted entry.path ++ " has unsupported type " ++ quoted text))

/-- The maps that `Canonicalize` fills while it reads the entries. -/
structure Index where
  kinds : Store String EntryType
  symlinks : Store String String

/-- What the first loop of `Canonicalize` has read. -/
structure Progress where
  canonical : List Entry
  index : Index

def Progress.start : Progress where
  canonical := []
  index := ⟨fun _ => none, fun _ => none⟩

def Progress.add (progress : Progress) (entry : Entry) : Progress where
  canonical := progress.canonical ++ [entry]
  index :=
    { kinds := Function.update progress.index.kinds entry.path (some entry.type)
      symlinks :=
        if entry.type = .symlink then
          Function.update progress.index.symlinks entry.path (some entry.symlinkTarget)
        else progress.index.symlinks }

/-- One pass of the first loop of `Canonicalize`. -/
def Unicode.admitEntry (progress : Progress) (indexed : Entry × Nat) : Except Refusal Progress := do
  let path := unicode.nfc indexed.1.path
  checkPath indexed.2 path
  refuseIf (progress.index.kinds path ≠ none) (ManifestError.pathCollision.wrap (quoted path))
  let entry ← unicode.normalize { indexed.1 with path }
  pure (progress.add entry)

/-- Entries stand in the order of their paths. -/
def Entry.Before (left right : Entry) : Prop :=
  left.path ≤ right.path
deriving Decidable

/-- The parent of an entry is a directory of the manifest. -/
def checkParent : Except Refusal Unit :=
  match Paths.parent entry.path with
  | none => .ok ()
  | some parent =>
    match index.kinds parent with
    | none =>
      .error (ManifestError.invalidTree.wrap (quoted entry.path ++ " is missing parent directory " ++ quoted parent))
    | some kind =>
      refuseIf (kind ≠ .directory) (ManifestError.invalidTree.wrap
          ("parent " ++ quoted parent ++ " of " ++ quoted entry.path ++ " is " ++ quoted kind.text ++ ", not a directory"))

/-- Where a walk stands: the root directory is the empty text. -/
structure Walk where
  directory : String
  pending : List String
  expansions : Nat

/-- The path of a component in a directory. -/
def candidate (directory component : String) : String :=
  if directory = "" then component else directory ++ "/" ++ component

def escapeRefusal : Refusal :=
  ManifestError.invalidEntry.wrap ("symlink " ++ quoted path ++ " target escapes through symlink traversal")

def expansionRefusal : Refusal :=
  ManifestError.invalidEntry.wrap
    ("symlink " ++ quoted path ++ " exceeds " ++ toString maxSymlinkExpansions ++ " link expansions")

/-- One pass of the loop in `validateSymlinkTraversal`. -/
def Walk.advance (walk : Walk) : Walk ⊕ Except Refusal Unit :=
  match walk.pending with
  | [] => .inr (.ok ())
  | component :: pending =>
    if component = "" ∨ component = "." then .inl { walk with pending }
    else if component = ".." then
      if walk.directory = "" then .inr (.error (escapeRefusal path))
      else .inl { walk with directory := (Paths.parent walk.directory).getD "", pending }
    else
      match index.kinds (candidate walk.directory component) with
      | some .symlink =>
        if maxSymlinkExpansions < walk.expansions + 1 then .inr (.error (expansionRefusal path))
        else
          .inl
            { walk with
              pending :=
                Paths.split ((index.symlinks (candidate walk.directory component)).getD "") ++ pending
              expansions := walk.expansions + 1 }
      | some .directory => .inl { walk with directory := candidate walk.directory component, pending }
      | _ => .inr (.ok ())

/-- The walk up to the next link, which `expand` takes over. -/
def through (index : Index) (path : String)
    (expand : String → List String → Except Refusal Unit) : String → List String → Except Refusal Unit
  | _, [] => .ok ()
  | directory, component :: pending =>
    if component = "" ∨ component = "." then through index path expand directory pending
    else if component = ".." then
      if directory = "" then .error (escapeRefusal path)
      else through index path expand ((Paths.parent directory).getD "") pending
    else
      match index.kinds (candidate directory component) with
      | some .symlink =>
        expand directory (Paths.split ((index.symlinks (candidate directory component)).getD "") ++ pending)
      | some .directory => through index path expand (candidate directory component) pending
      | _ => .ok ()

/-- The whole walk; the recursion is on the links that it may still follow. -/
def traverse (index : Index) (path : String) : Nat → String → List String → Except Refusal Unit
  | 0 => through index path fun _ _ => .error (expansionRefusal path)
  | remaining + 1 => through index path (traverse index path remaining)

/-- The first link has been followed already. -/
def Walk.start : Walk where
  directory := if Paths.directoryOf entry.path = "." then "" else Paths.directoryOf entry.path
  pending := Paths.split entry.symlinkTarget
  expansions := 1

/-- The target is followed through the other links of the manifest. -/
def validateSymlinkTraversal : Except Refusal Unit :=
  traverse index entry.path (maxSymlinkExpansions - (Walk.start entry).expansions)
    (Walk.start entry).directory (Walk.start entry).pending

def checkLink : Except Refusal Unit :=
  if entry.type = .symlink then validateSymlinkTraversal index entry else .ok ()

/-- Entries are admitted one by one, then the tree is checked as a whole. -/
def Unicode.canonicalize (entries : List Entry) : Except Refusal (List Entry) := do
  let progress ← entries.zipIdx.foldlM unicode.admitEntry .start
  let canonical := progress.canonical.insertionSort Entry.Before
  forEach (checkParent progress.index) canonical
  forEach (checkLink progress.index) canonical
  pure canonical

/-- A walk up to its next link is a part of the loop. -/
theorem through_returns {expand : String → List String → Except Refusal Unit} {expansions : Nat}
    (last : maxSymlinkExpansions < expansions + 1 → ∀ directory pending,
      expand directory pending = .error (expansionRefusal path))
    (further : expansions + 1 ≤ maxSymlinkExpansions → ∀ directory pending,
      Returns (Walk.advance index path) ⟨directory, pending, expansions + 1⟩ (expand directory pending))
    (directory : String) (pending : List String) :
    Returns (Walk.advance index path) ⟨directory, pending, expansions⟩
      (through index path expand directory pending) := by
  induction pending generalizing directory with
  | nil => exact .stop rfl
  | cons component pending ih =>
    unfold through
    by_cases here : component = "" ∨ component = "."
    · rw [if_pos here]
      exact .pass (by simp [Walk.advance, here]) (ih directory)
    rw [if_neg here]
    by_cases up : component = ".."
    · rw [if_pos up]
      by_cases root : directory = ""
      · rw [if_pos root]
        exact .stop (by simp [Walk.advance, up, root])
      · rw [if_neg root]
        exact .pass (by simp [Walk.advance, up, root]) (ih _)
    rw [if_neg up]
    cases kind : index.kinds (candidate directory component) with
    | none => exact .stop (by simp [Walk.advance, here, up, kind])
    | some kind' =>
      cases kind' with
      | symlink =>
        by_cases limit : maxSymlinkExpansions < expansions + 1
        · dsimp only
          rw [last limit]
          exact .stop (by simp [Walk.advance, here, up, kind, limit])
        · exact .pass (by simp [Walk.advance, here, up, kind, limit]) (further (Nat.le_of_not_lt limit) _ _)
      | directory => exact .pass (by simp [Walk.advance, here, up, kind]) (ih _)
      | file | other => exact .stop (by simp [Walk.advance, here, up, kind])

theorem traverse_returns (remaining expansions : Nat)
    (total : expansions + remaining = maxSymlinkExpansions) (directory : String) (pending : List String) :
    Returns (Walk.advance index path) ⟨directory, pending, expansions⟩
      (traverse index path remaining directory pending) := by
  induction remaining generalizing expansions directory pending with
  | zero =>
    unfold traverse
    exact through_returns index path (fun _ _ _ => rfl) (fun more => by omega) directory pending
  | succ remaining ih =>
    unfold traverse
    exact through_returns index path (fun limit => by omega) (fun _ => ih (expansions + 1) (by omega)) directory pending

/-- The loop comes to an end for every link and in every index, also where links form a cycle. -/
theorem validateSymlinkTraversal_returns :
    Returns (Walk.advance index entry.path) (Walk.start entry) (validateSymlinkTraversal index entry) := by
  have general (walk : Walk) (first : walk.expansions = 1) : Returns (Walk.advance index entry.path) walk
      (traverse index entry.path (maxSymlinkExpansions - walk.expansions) walk.directory walk.pending) :=
    traverse_returns index entry.path _ _ (by rw [first]; rfl) _ _
  exact general (Walk.start entry) rfl

end Circulusd.Workspace
