import Circulusd.Library.Store

/-
Owners and seats: each seat records its owner, each owner sits on one seat, and the two tables are
inverse to each other.
-/

namespace Circulusd.Seats

open KeyValue

variable {Seat Owner : Type} {owners : Store Seat Owner} {seats : Owner → Option Seat} {seat : Seat} {owner : Owner}

/-- The record of a seat names the owner that sits there, and no other. -/
def Inverse (owners : Store Seat Owner) (seats : Owner → Option Seat) : Prop :=
  ∀ seat owner, owners seat = some owner ↔ seats owner = some seat

theorem Inverse.owner_unique (inverse : Inverse owners seats) {first second : Owner}
    (left : seats first = some seat) (right : seats second = some seat) : first = second := by
  have one := (inverse seat first).mpr left
  have other := (inverse seat second).mpr right
  exact Option.some.inj (one.symm.trans other)

theorem Inverse.free_of_unseated (inverse : Inverse owners seats) (unseated : seats owner = none) :
    owners seat ≠ some owner := by
  intro recorded
  simp [(inverse seat owner).mp recorded] at unseated

section Updates

variable [DecidableEq Seat] [DecidableEq Owner]

/-- An owner without a seat takes a free one. -/
theorem Inverse.take (inverse : Inverse owners seats) (free : owners seat = none) (unseated : seats owner = none) :
    Inverse (Function.update owners seat (some owner)) (Function.update seats owner (some seat)) := by
  intro place holder
  by_cases here : place = seat
  · by_cases same : holder = owner
    · simp [here, same]
    · have elsewhere : seats holder ≠ some seat := by
        intro sits
        simp [(inverse seat holder).mpr sits] at free
      simp [here, same, elsewhere, Ne.symm same]
  · by_cases same : holder = owner
    · have none : owners place ≠ some owner := inverse.free_of_unseated unseated
      simp [here, same, none, Ne.symm here]
    · simpa [here, same] using inverse place holder

/-- An owner leaves its seat. -/
theorem Inverse.leave (inverse : Inverse owners seats) (sits : seats owner = some seat) :
    Inverse (Function.update owners seat none) (Function.update seats owner none) := by
  intro place holder
  by_cases here : place = seat
  · by_cases same : holder = owner
    · simp [here, same]
    · have elsewhere : seats holder ≠ some seat :=
        fun other => same (inverse.owner_unique other sits)
      simp [here, same, elsewhere]
  · by_cases same : holder = owner
    · have none : owners place ≠ some owner := by
        intro recorded
        have moved := (inverse place owner).mp recorded
        exact here (Option.some.inj (moved.symm.trans sits))
      simp [here, same, none]
    · simpa [here, same] using inverse place holder

end Updates

end Circulusd.Seats
