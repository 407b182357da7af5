import Mathlib.Data.List.Basic

/-
Bounded channels with their history. A channel that cannot take an item it must not miss is closed,
so what it was sent never has a gap.
-/

namespace Circulusd

open List

variable {α : Type}

/-- What a channel was sent, how much of it the reader took, and whether it is closed. -/
structure Channel (α : Type) where
  sent : List α
  taken : Nat
  closed : Bool
deriving DecidableEq

namespace Channel

def new : Channel α := ⟨[], 0, false⟩

def received (channel : Channel α) : List α := channel.sent.take channel.taken

/-- A reader takes what is left even from a closed channel. -/
def receive (channel : Channel α) : Channel α :=
  if channel.taken < channel.sent.length then { channel with taken := channel.taken + 1 } else channel

def close (channel : Channel α) : Channel α := { channel with closed := true }

/-- A full channel drops the item, and closes when the item is required. -/
def offer (capacity : Nat) (required : α → Bool) (item : α) (channel : Channel α) : Channel α :=
  if channel.closed then channel
  else if channel.sent.length - channel.taken < capacity then { channel with sent := channel.sent ++ [item] }
  else { channel with closed := required item }

/-- The required items among the later ones are a front part of `added`, and all of it on an open
channel. -/
def Continues (required : α → Bool) (added : List α) (before after : Channel α) : Prop :=
  ∃ more, after.sent = before.sent ++ more ∧ (before.closed = true → after.closed = true ∧ more = []) ∧
    more.filter required <+: added ∧ (after.closed = true ∨ more.filter required = added)

variable {required : α → Bool} {first second : List α} {before middle after : Channel α}

/-- A change that sends nothing and opens nothing. -/
theorem Continues.of_sent_eq (sent : after.sent = before.sent) (closed : before.closed = true → after.closed = true) :
    Continues required [] before after :=
  ⟨[], by simp [sent], fun shut => ⟨closed shut, rfl⟩, prefix_rfl, .inr rfl⟩

theorem Continues.refl (channel : Channel α) : Continues required [] channel channel := .of_sent_eq rfl id

theorem Continues.trans (earlier : Continues required first before middle)
    (later : Continues required second middle after) : Continues required (first ++ second) before after := by
  obtain ⟨front, sentFront, shutFront, startFront, wholeFront⟩ := earlier
  obtain ⟨back, sentBack, shutBack, startBack, wholeBack⟩ := later
  refine ⟨front ++ back, by rw [sentBack, sentFront, append_assoc], fun shut => ?_, ?_, ?_⟩
  · obtain ⟨still, rfl⟩ := shutFront shut
    obtain ⟨stays, rfl⟩ := shutBack still
    exact ⟨stays, rfl⟩
  · rw [filter_append]
    rcases wholeFront with shut | whole
    · obtain ⟨-, rfl⟩ := shutBack shut
      simpa using startFront.trans (prefix_append first second)
    · rw [whole]
      exact (prefix_append_right_inj first).mpr startBack
  · rcases wholeFront with shut | whole
    · exact .inl (shutBack shut).1
    · refine wholeBack.imp_right fun rest => ?_
      rw [filter_append, whole, rest]

theorem Continues.closed_sent (continues : Continues required first before after) (shut : before.closed = true) :
    after.closed = true ∧ after.sent = before.sent := by
  obtain ⟨more, sent, stays, -, -⟩ := continues
  obtain ⟨still, rfl⟩ := stays shut
  exact ⟨still, by simpa using sent⟩

theorem continues_receive (channel : Channel α) : Continues required [] channel channel.receive := by
  unfold receive
  split <;> exact .of_sent_eq rfl id

theorem continues_offer (required : α → Bool) (capacity : Nat) (item : α) (channel : Channel α) :
    Continues required ([item].filter required) channel (channel.offer capacity required item) := by
  unfold offer
  split
  next shut => exact ⟨[], by simp, fun _ => ⟨shut, rfl⟩, nil_prefix, .inl shut⟩
  next opened =>
    split
    · exact ⟨[item], rfl, fun shut => absurd shut opened, prefix_rfl, .inr rfl⟩
    · refine ⟨[], by simp, fun shut => absurd shut opened, nil_prefix, ?_⟩
      cases need : required item <;> simp [need]

/-- An open channel takes an offered item or is closed for missing it. -/
theorem offer_required (required : α → Bool) (capacity : Nat) {item : α} (need : required item = true) {channel : Channel α}
    (opened : channel.closed = false) :
    (channel.offer capacity required item).sent = channel.sent ++ [item] ∨
      (channel.offer capacity required item).closed = true ∧
        (channel.offer capacity required item).sent = channel.sent := by
  unfold offer
  rw [opened, if_neg Bool.false_ne_true]
  split
  · exact .inl rfl
  · exact .inr ⟨need, rfl⟩

end Channel

end Circulusd
