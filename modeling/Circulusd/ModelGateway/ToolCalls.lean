import Circulusd.ModelGateway.Types
import Circulusd.Library.Checked
import Mathlib.Data.List.Lex
import Mathlib.Data.List.Sort
import Mathlib.Data.Prod.Lex
import Mathlib.Data.String.Basic

/-
Normalization of the tool calls of a response. Calls without a declared order are sorted.
-/

namespace Circulusd.ModelGateway

open Checked Platform GatewayError List Prod

def hardMaxIdentifierBytes : Nat := 256

def hardMaxProviderRequestIdBytes : Nat := 1024

def hardMaxEventBytes : Nat := 1048576

def hardMaxEvents : Nat := 1048576

def validateCanonicalToolArguments (codec : Codec) (encoded : Protocol.Bytes) : Except Refusal Unit := do
  refuseIf (encoded.length = 0 ∨ hardMaxEventBytes < encoded.length) invalidRequest
  codec.decodeToolArgumentJSON encoded

/-- The nine bytes stand for the order. -/
def ToolCall.bytes (call : ToolCall) : Nat :=
  call.id.utf8ByteSize + call.name.utf8ByteSize + call.arguments.length + 9

def ToolCall.sortKey (call : ToolCall) : String ×ₗ String ×ₗ List Nat :=
  toLex (call.id, toLex (call.name, call.arguments.map UInt8.toNat))

/-- The order in which `sort.SliceStable` leaves two calls. -/
def ToolCall.Sorted (left right : ToolCall) : Prop :=
  left.sortKey ≤ right.sortKey
deriving Decidable

instance : Std.Total ToolCall.Sorted :=
  ⟨fun left right => le_total left.sortKey right.sortKey⟩

instance : IsTrans ToolCall ToolCall.Sorted :=
  ⟨fun _ _ _ first second => le_trans first second⟩

def ToolCall.ValidAt (declaredOrder : Bool) (index : Nat) (call : ToolCall) : Prop :=
  identifierPattern call.id = true ∧ call.id.utf8ByteSize ≤ hardMaxProviderRequestIdBytes ∧
    identifierPattern call.name = true ∧ call.name.utf8ByteSize ≤ hardMaxIdentifierBytes ∧
    call.order.declared = declaredOrder ∧
    call.order.index = if declaredOrder then index else 0
deriving Decidable

/-- The loop of `normalizeToolCalls`, with the ids seen and the bytes counted so far. -/
def scanToolCalls (codec : Codec) (declaredOrder : Bool) : Nat → List String → Nat → List ToolCall → Except Refusal Nat
  | _, _, totalBytes, [] => pure totalBytes
  | index, seenIds, totalBytes, call :: rest => do
    refuseIf (¬ call.ValidAt declaredOrder index) invalidRequest
    refuseIf (call.id ∈ seenIds) invalidRequest
    validateCanonicalToolArguments codec call.arguments
    refuseIf (maxUint64 - totalBytes < call.bytes) eventLimit
    scanToolCalls codec declaredOrder (index + 1) (call.id :: seenIds) (totalBytes + call.bytes) rest

def normalizeToolCalls (codec : Codec) : List ToolCall → Except Refusal (List ToolCall × Nat)
  | [] => pure ([], 0)
  | first :: rest => do
    refuseIf (hardMaxEvents < (first :: rest).length) eventLimit
    let totalBytes ← scanToolCalls codec first.order.declared 0 [] 0 (first :: rest)
    pure (if first.order.declared then first :: rest
      else (first :: rest).insertionSort ToolCall.Sorted, totalBytes)

section Scan

variable {codec : Codec}

/-- Without a declared order the loop does not look at positions. -/
theorem scanToolCalls_undeclared_iff (index : Nat) (seenIds : List String) (totalBytes : Nat)
    (calls : List ToolCall) (result : Nat) (counted : totalBytes ≤ maxUint64) :
    scanToolCalls codec false index seenIds totalBytes calls = .ok result ↔
      (∀ call ∈ calls, call.ValidAt false 0 ∧ call.id ∉ seenIds ∧
        validateCanonicalToolArguments codec call.arguments = .ok ()) ∧
      (calls.map ToolCall.id).Nodup ∧ result = totalBytes + (calls.map ToolCall.bytes).sum ∧
      result ≤ maxUint64 := by
  induction calls generalizing index seenIds totalBytes with
  | nil =>
    simp only [scanToolCalls, pure_ok, not_mem_nil, false_implies, implies_true,
      map_nil, nodup_nil, sum_nil, Nat.add_zero, true_and]
    constructor
    · rintro rfl
      exact ⟨rfl, counted⟩
    · rintro ⟨rfl, -⟩
      rfl
  | cons call rest ih =>
    simp only [scanToolCalls, steps_ok, not_lt, forall_mem_cons, map_cons, nodup_cons, sum_cons]
    constructor
    · rintro ⟨valid, unseen, arguments, bytes, others⟩
      obtain ⟨each, distinct, total, bounded⟩ := (ih _ _ _ (by omega)).mp others
      refine ⟨⟨⟨valid, unseen, arguments⟩, fun other member => ?_⟩, ⟨?_, distinct⟩, by omega, bounded⟩
      · obtain ⟨valid, unseen, arguments⟩ := each other member
        exact ⟨valid, fun seen => unseen (mem_cons_of_mem _ seen), arguments⟩
      · intro repeated
        obtain ⟨other, member, same⟩ := mem_map.mp repeated
        exact (each other member).2.1 (same ▸ mem_cons_self)
    · rintro ⟨⟨⟨valid, unseen, arguments⟩, each⟩, ⟨fresh, distinct⟩, total, bounded⟩
      refine ⟨valid, unseen, arguments, by omega,
        (ih _ _ _ (by omega)).mpr ⟨fun other member => ?_, distinct, by omega, bounded⟩⟩
      obtain ⟨valid, unseen, arguments⟩ := each other member
      refine ⟨valid, fun seen => ?_, arguments⟩
      rcases mem_cons.mp seen with same | seen
      · exact fresh (mem_map.mpr ⟨other, member, same⟩)
      · exact unseen seen

/-- A scan without a declared order gives the same count for every arrangement of the calls. -/
theorem scanToolCalls_perm {calls arranged : List ToolCall} (same : arranged.Perm calls) {result : Nat}
    (scanned : scanToolCalls codec false 0 [] 0 calls = .ok result) :
    scanToolCalls codec false 0 [] 0 arranged = .ok result := by
  rw [scanToolCalls_undeclared_iff _ _ _ _ _ (Nat.zero_le _)] at scanned ⊢
  obtain ⟨each, distinct, total, bounded⟩ := scanned
  refine ⟨fun call member => each call (same.mem_iff.mp member),
    ((same.map ToolCall.id).nodup_iff).mpr distinct, ?_, bounded⟩
  rw [total, (same.map ToolCall.bytes).sum_eq]

end Scan

/-- Normalizing normalized calls gives them back. -/
theorem normalizeToolCalls_normalized {codec : Codec} {calls normalized : List ToolCall} {bytes : Nat}
    (ok : normalizeToolCalls codec calls = .ok (normalized, bytes)) :
    normalizeToolCalls codec normalized = .ok (normalized, bytes) := by
  cases calls with
  | nil =>
    simp only [normalizeToolCalls, pure_ok, mk.injEq] at ok
    obtain ⟨rfl, rfl⟩ := ok
    rfl
  | cons first rest =>
    have given := ok
    simp only [normalizeToolCalls, steps_ok] at ok
    obtain ⟨count, total, scanned, arranged, rfl⟩ := ok
    by_cases declared : first.order.declared = true
    · rw [if_pos declared] at arranged
      rw [← arranged]
      rwa [← arranged] at given
    · rw [if_neg declared] at arranged
      rw [Bool.not_eq_true] at declared
      rw [declared] at scanned
      have same : normalized.Perm (first :: rest) := arranged ▸ perm_insertionSort ToolCall.Sorted _
      have rescanned := scanToolCalls_perm same scanned
      have sorted : normalized.Pairwise ToolCall.Sorted :=
        arranged ▸ pairwise_insertionSort ToolCall.Sorted _
      cases normalized with
      | nil => exact absurd same.length_eq (by simp)
      | cons head tail =>
        have undeclared : head.order.declared = false :=
          (((scanToolCalls_undeclared_iff _ _ _ _ _ (Nat.zero_le _)).mp rescanned).1 head
            mem_cons_self).1.2.2.2.2.1
        simp only [normalizeToolCalls, steps_ok, undeclared, Bool.false_eq_true, if_false]
        exact ⟨same.length_eq ▸ count, total, rescanned, sorted.insertionSort_eq, rfl⟩

end Circulusd.ModelGateway
