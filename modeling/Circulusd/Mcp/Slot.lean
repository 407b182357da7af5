import Circulusd.Library.Seats
import Circulusd.Mcp.Closure
import Circulusd.Mcp.ProviderStart
import Circulusd.Mcp.Terminal

/-
The slot of a turn. An effect occupies it from its admission until nothing of it is open any more,
and the `active` entry of the turn names exactly the effect that does.
-/

namespace Circulusd.Mcp

open Checked Event Function KeyValue MemoryRepository Protocol List Option

/-- The effect is not finished, may still have a late provider owner, or has a nested effect that is
to be cancelled. -/
def MemoryRepository.Occupying (repository : MemoryRepository) (key : String) (effect : Effect) : Prop :=
  ¬ effect.Terminal ∨ retainsLateProviderOwner effect ∨ (repository.serverRequestReconciliations key).isSome = true
deriving Decidable

/-- The turn that a stored effect occupies. -/
def MemoryRepository.seat (repository : MemoryRepository) (key : String) : Option ScopeKey :=
  match repository.effects key with
  | some effect => if repository.Occupying key effect then some (keyForScope effect.scope) else none
  | none => none

/-- The machine's events, without the failure report for an effect that has failed. -/
def Reported (previous : Effect) (event : Event) : Prop :=
  ¬ (event.kind = .dispatchFailed ∧ previous.state = .failed)

variable {sha256 : Bytes → Digest} {gateway : Gateway} {before after repository : MemoryRepository}
  {call : Call} {calls : List Call} {key : String} {effect next : Effect} {turn : ScopeKey}
  {parent : String} {authority : ValidatedAuthority} {now : Int} {childKey : ServerRequestKey}
  {record written : ServerRequestRecord} {child : Option (ServerRequestKey × ServerRequestRecord)}

section Seats

theorem MemoryRepository.seat_of_stored (stored : repository.effects key = some effect) : repository.seat key =
      if repository.Occupying key effect then some (keyForScope effect.scope) else none := by
  simp [seat, stored]

theorem MemoryRepository.seat_of_unstored (unstored : repository.effects key = none) : repository.seat key = none := by
  simp [seat, unstored]

theorem MemoryRepository.seat_eq_some_iff :
    repository.seat key = some turn ↔ ∃ effect, repository.effects key = some effect ∧
      repository.Occupying key effect ∧ keyForScope effect.scope = turn := by
  cases stored : repository.effects key with
  | none => simp [seat_of_unstored stored]
  | some effect => simp [seat_of_stored stored]

theorem MemoryRepository.seat_eq_of_same (effects : after.effects key = before.effects key)
    (pending : after.serverRequestReconciliations key = before.serverRequestReconciliations key) :
    after.seat key = before.seat key := by
  refine Option.ext fun turn => ?_
  simp only [seat_eq_some_iff, Occupying, effects, pending]

theorem MemoryRepository.seat_congr (effects : after.effects = before.effects)
    (pending : after.serverRequestReconciliations = before.serverRequestReconciliations) :
    after.seat = before.seat :=
  funext fun key => seat_eq_of_same (congrFun effects key) (congrFun pending key)

/-- A call that writes one effect moves at most that effect. -/
theorem MemoryRepository.seat_update (stored : after.effects key = some effect)
    (effects : ∀ other, other ≠ key → after.effects other = before.effects other) (pending : ∀ other, other ≠ key →
      after.serverRequestReconciliations other = before.serverRequestReconciliations other) :
    after.seat = update before.seat key
      (if after.Occupying key effect then some (keyForScope effect.scope) else none) := by
  funext other
  by_cases same : other = key
  · subst same
    rw [update_self, seat_of_stored stored]
  · rw [update_of_ne same, seat_eq_of_same (effects other same) (pending other same)]

/-- The machine moves no effect that is finished for good. -/
theorem Gateway.Produces.open_ (produces : gateway.Produces Reported effect next) :
    ¬ effect.Terminal ∨ retainsLateProviderOwner effect := by
  obtain ⟨event, transition, ok, -, reported⟩ := produces
  by_contra closed
  obtain ⟨terminal, released⟩ := not_or.mp closed
  have settled : effect.Settled := by
    rcases not_not.mp terminal with state | state | state | state
    · exact .inl state
    · refine .inr (.inr ⟨state, fun unknown => released (.inr ⟨state, ?_⟩)⟩)
      cases current : effect.currentAttempt with
      | none => simp [Effect.latestAttempt, current, AttemptRecord.fresh] at unknown
      | some attempt =>
        rw [Effect.latestAttempt_of_current current] at unknown
        exact ⟨attempt, rfl, unknown⟩
    · exact .inr (.inl state)
    · exact absurd (.inl state) released
  have reopens := gateway.reopens_of_apply settled ok
  exact reported ⟨reopens.kind, reopens.state⟩

theorem Gateway.Produces.occupying (produces : gateway.Produces Reported effect next) :
    repository.Occupying key effect := by
  rcases produces.open_ with running | retained
  · exact .inl running
  · exact .inr (.inl retained)

end Seats

section Slots

/-- The entry of every turn names the effect that occupies it. -/
def MemoryRepository.SlotsMatch (repository : MemoryRepository) : Prop :=
  Seats.Inverse repository.active repository.seat

theorem MemoryRepository.SlotsMatch.congr (matched : before.SlotsMatch)
    (active : after.active = before.active) (seat : after.seat = before.seat) : after.SlotsMatch := by
  unfold SlotsMatch
  rw [active, seat]
  exact matched

theorem MemoryRepository.SlotsMatch.recorded (matched : repository.SlotsMatch)
    (stored : repository.effects key = some effect) (occupying : repository.Occupying key effect) :
    repository.active (keyForScope effect.scope) = some key :=
  (matched _ _).mpr (seat_eq_some_iff.mpr ⟨effect, stored, occupying, rfl⟩)

/-- An effect that goes on occupying its turn, or that leaves it in the same call. -/
theorem MemoryRepository.SlotsMatch.moved (matched : before.SlotsMatch)
    (stored : before.effects key = some effect) (occupying : before.Occupying key effect)
    (scope : keyForScope next.scope = keyForScope effect.scope) (written : after.effects key = some next)
    (effects : ∀ other, other ≠ key → after.effects other = before.effects other) (pending : ∀ other, other ≠ key →
      after.serverRequestReconciliations other = before.serverRequestReconciliations other)
    (active : after.active = if after.Occupying key next then before.active
      else update before.active (keyForScope effect.scope) none) : after.SlotsMatch := by
  have sits : before.seat key = some (keyForScope effect.scope) :=
    seat_eq_some_iff.mpr ⟨effect, stored, occupying, rfl⟩
  have seat := seat_update written effects pending
  unfold SlotsMatch
  rw [active, seat, scope]
  by_cases still : after.Occupying key next
  · rw [if_pos still, if_pos still, update_eq_self_iff.mpr sits.symm]
    exact matched
  · rw [if_neg still, if_neg still]
    exact Seats.Inverse.leave matched sits

/-- The owner of a turn gives it up when it has ended for good. -/
theorem MemoryRepository.release_active (recorded : repository.active (keyForScope effect.scope) = some key) :
    (repository.release key effect).active = if effect.Terminal ∧ ¬ retainsLateProviderOwner effect then
        update repository.active (keyForScope effect.scope) none
      else repository.active := by
  unfold release
  simp only [recorded, getD_some, and_true]
  split <;> rfl

theorem MemoryRepository.storeNext_active {reconciles : Bool}
    (recorded : repository.active (keyForScope effect.scope) = some effect.key)
    (scope : keyForScope next.scope = keyForScope effect.scope) :
    (repository.storeNext effect next reconciles).active =
      if reconciles = false ∧ next.Terminal ∧ ¬ retainsLateProviderOwner next then
        update repository.active (keyForScope effect.scope) none
      else repository.active := by
  cases reconciles with
  | true => simp [storeNext, recorded]
  | false =>
    simp only [storeNext, recorded, reduceCtorEq, false_and, if_false, Bool.false_eq_true, true_and]
    rw [release_active (by rw [scope]; exact recorded), scope]

theorem Lapsed.active (lapse : Lapsed before parent authority now child after) : after.active = before.active := by
  cases lapse <;> rfl

/-- The parent has a nested effect to cancel after the call, if the call gave one up or there was one
before. -/
theorem Lapsed.reconciliations (lapse : Lapsed before parent authority now child after) : (∀ other, other ≠ parent →
      after.serverRequestReconciliations other = before.serverRequestReconciliations other) ∧
    ((after.serverRequestReconciliations parent).isSome = true ↔
      (child.any fun given => given.2.needsReconciliation) = true ∨
        (before.serverRequestReconciliations parent).isSome = true) := by
  cases lapse with
  | kept => simp
  | @abandoned childKey record =>
    by_cases needs : record.needsReconciliation
    · exact ⟨fun other different => by simp [abandon, needs, different], by simp [abandon, needs]⟩
    · exact ⟨fun other different => by simp [abandon, needs], by simp [abandon, needs]⟩

theorem Gateway.Produces.scope {allowed : Effect → Event → Prop}
    (produces : gateway.Produces allowed effect next) : next.scope = effect.scope := by
  obtain ⟨event, transition, ok, rfl, -⟩ := produces
  obtain ⟨-, -, -, moved, move, -, rfl⟩ := gateway.apply_applied ok
  exact congrArg EffectIdentity.scope move.identity

end Slots

section Nested

/-- The active server request of a parent is the one that is claimed, and its parent is running. -/
structure MemoryRepository.NestedMatch (repository : MemoryRepository) : Prop where
  running : ∀ key childKey, repository.activeServerRequests key = some childKey → childKey.invocation.value = key ∧
    (∃ record, repository.serverRequests childKey = some record ∧ record.state = .claimed) ∧
    ∃ parent, repository.effects key = some parent ∧ (parent.state = .dispatched ∨ parent.state = .streaming)
  claimed : ∀ childKey record, repository.serverRequests childKey = some record →
    record.state = .claimed → repository.activeServerRequests childKey.invocation.value = some childKey
  generation : ∀ childKey record, repository.serverRequests childKey = some record → childKey.connectionGeneration ≠ 0

theorem MemoryRepository.NestedMatch.congr (nested : before.NestedMatch)
    (effects : after.effects = before.effects) (active : after.activeServerRequests = before.activeServerRequests)
    (requests : after.serverRequests = before.serverRequests) : after.NestedMatch := by
  constructor
  · rw [effects, active, requests]
    exact nested.running
  · rw [active, requests]
    exact nested.claimed
  · rw [requests]
    exact nested.generation

/-- The effect of one parent is replaced while it has no active request. -/
theorem MemoryRepository.NestedMatch.replaced (nested : before.NestedMatch)
    (idle : before.activeServerRequests key = none)
    (effects : ∀ other, other ≠ key → after.effects other = before.effects other)
    (active : after.activeServerRequests = before.activeServerRequests)
    (requests : after.serverRequests = before.serverRequests) : after.NestedMatch := by
  -- A parent with an active request is another one than the parent that is replaced.
  obtain ⟨running, claimed, generation⟩ := nested
  constructor <;> simp only [active, requests] <;> grind

/-- The active request of one parent ends. -/
theorem MemoryRepository.NestedMatch.ended (nested : before.NestedMatch)
    (active : before.activeServerRequests key = some childKey)
    (recorded : before.serverRequests childKey = some record) (final : written.state ≠ .claimed)
    (effects : ∀ other, other ≠ key → after.effects other = before.effects other)
    (cleared : after.activeServerRequests = update before.activeServerRequests key none)
    (requests : after.serverRequests = update before.serverRequests childKey (some written)) :
    after.NestedMatch := by
  -- Every other active request names another parent, and every other claimed one another key.
  obtain ⟨running, claimed, generation⟩ := nested
  constructor <;> simp only [cleared, requests, update_apply] <;> grind

/-- A request that has ended is written again. -/
theorem MemoryRepository.NestedMatch.rewritten (nested : before.NestedMatch)
    (recorded : before.serverRequests childKey = some record)
    (ended : record.state ≠ .claimed) (final : written.state ≠ .claimed)
    (effects : after.effects = before.effects) (active : after.activeServerRequests = before.activeServerRequests)
    (requests : after.serverRequests = update before.serverRequests childKey (some written)) :
    after.NestedMatch := by
  obtain ⟨running, claimed, generation⟩ := nested
  constructor <;> simp only [effects, active, requests, update_apply] <;> grind

/-- The active request of a running parent is claimed, for the first time or again. -/
theorem MemoryRepository.NestedMatch.claims (nested : before.NestedMatch) {parent : Effect}
    (stored : before.effects childKey.invocation.value = some parent)
    (state : parent.state = .dispatched ∨ parent.state = .streaming)
    (free : before.activeServerRequests childKey.invocation.value = none ∨
      before.activeServerRequests childKey.invocation.value = some childKey)
    (claimed : record.state = .claimed) (generation : childKey.connectionGeneration ≠ 0)
    (effects : after.effects = before.effects)
    (active : after.activeServerRequests = update before.activeServerRequests childKey.invocation.value (some childKey))
    (requests : after.serverRequests = update before.serverRequests childKey (some record)) :
    after.NestedMatch := by
  obtain ⟨running, held, generations⟩ := nested
  constructor <;> simp only [effects, active, requests, update_apply] <;> grind

end Nested

section Steps

theorem Lapsed.abandoned_iff (lapse : Lapsed before parent authority now (some (childKey, record)) after) :
    before.activeServerRequests parent = some childKey ∧ before.serverRequests childKey = some record ∧
      after.activeServerRequests = update before.activeServerRequests parent none ∧
      ∃ ended, ended.state = .abandoned ∧
        after.serverRequests = update before.serverRequests childKey (some ended) := by
  cases lapse with
  | abandoned active found _ _ sequence =>
    exact ⟨active, found, rfl, record.abandoned authority now sequence, rfl, rfl⟩

theorem MemoryRepository.NestedMatch.lapsed {lapsed : MemoryRepository}
    (nested : before.NestedMatch) (lapse : Lapsed before parent authority now child lapsed)
    (effects : ∀ other, other ≠ parent → after.effects other = before.effects other)
    (active : after.activeServerRequests = lapsed.activeServerRequests)
    (requests : after.serverRequests = lapsed.serverRequests) : after.NestedMatch := by
  cases child with
  | none =>
    cases lapse with
    | kept absent => exact nested.replaced absent effects active requests
  | some pair =>
    obtain ⟨present, found, cleared, ended, state, written⟩ := lapse.abandoned_iff
    exact nested.ended present found (by simp [state]) effects (active.trans cleared) (requests.trans written)

/-- A dispatch starts from an effect that the provider is not running. -/
theorem Gateway.Produces.not_running {allowed : Effect → Event → Prop}
    (produces : gateway.Produces allowed effect next) (state : next.state = .dispatching) :
    ¬ (effect.state = .dispatched ∨ effect.state = .streaming) := by
  obtain ⟨event, transition, ok, rfl, -⟩ := produces
  obtain ⟨-, -, -, moved, move, -, rfl⟩ := gateway.apply_applied ok
  rcases move.dispatching state with ⟨-, -, source | source⟩ | ⟨-, source, -⟩ <;> simp [source]

theorem Changed.nestedMatch (changed : Changed before call after) (produced : call.Genuine gateway Reported)
    (nested : before.NestedMatch) : after.NestedMatch := by
  cases changed with
  | @admitted admitted _ _ unstored =>
    have idle : before.activeServerRequests admitted.key = none := by
      by_contra busy
      obtain ⟨childKey, present⟩ := ne_none_iff_exists'.mp busy
      obtain ⟨-, -, parent, found, -⟩ := nested.running _ _ present
      simp [unstored] at found
    exact nested.replaced idle (fun other different => by simp [different]) rfl rfl
  | @dispatched request _ _ stored _ state =>
    have produces : gateway.Produces Reported request.previous request.next := produced _ rfl
    have idle : before.activeServerRequests request.previous.key = none := by
      by_contra busy
      obtain ⟨childKey, present⟩ := ne_none_iff_exists'.mp busy
      obtain ⟨-, -, parent, found, running⟩ := nested.running _ _ present
      obtain rfl : request.previous = parent := by simpa [stored] using found
      exact produces.not_running state running
    exact nested.replaced idle (fun other different => by simp [different]) rfl rfl
  | committed _ _ _ _ _ _ lapse =>
    refine nested.lapsed lapse (fun other different => by simp [different, lapse.effects]) ?_ ?_ <;>
      rw [storeNext_frame, writeStart_frame]
  | abandoned _ lapse => exact nested.lapsed lapse (fun other _ => by rw [lapse.effects]) rfl rfl
  | @reconciled _ _ _ _ childKey record settled _ _ recorded ended kept =>
    have open_ : settled.state ≠ .claimed := by simp [kept]
    refine nested.rewritten recorded (by simp [ended]) open_ ?_ ?_ ?_ <;> rw [release_frame]
  | @renewed request _ _ record renewed recorded claimed kept =>
    have present := nested.claimed _ _ recorded claimed
    obtain ⟨-, -, parent, stored, state⟩ := nested.running _ _ present
    exact nested.claims stored state (.inr present) kept (nested.generation _ _ recorded) rfl rfl rfl
  | requested parent state _ idle _ generation _ _ _ claimed =>
    exact nested.claims parent state (.inl idle) claimed generation rfl rfl rfl
  | @completed request _ _ record completed recorded active ended =>
    have present : before.activeServerRequests request.permit.parentInvocationId.value = some request.permit.key := by
      cases given : before.activeServerRequests request.permit.parentInvocationId.value with
      | some childKey => simpa [given] using active
      | none =>
        have generation := nested.generation _ _ recorded
        rw [given, getD_none] at active
        rw [← active] at generation
        exact absurd rfl generation
    exact nested.ended present recorded (by simp [ended]) (fun _ _ => rfl) rfl rfl
  | _ =>
    exact nested.congr rfl rfl rfl

theorem MemoryRepository.SlotsMatch.admitted (matched : before.SlotsMatch) (unstored : before.effects effect.key = none)
    (free : ∀ invocation ∈ before.active (keyForScope effect.scope), invocation = effect.key)
    (running : ¬ effect.Terminal) (written : after.effects = update before.effects effect.key (some effect))
    (pending : after.serverRequestReconciliations = before.serverRequestReconciliations)
    (active : after.active = update before.active (keyForScope effect.scope) (some effect.key)) :
    after.SlotsMatch := by
  have unseated := seat_of_unstored unstored
  have vacant : before.active (keyForScope effect.scope) = none := by
    by_contra taken
    obtain ⟨owner, recorded⟩ := ne_none_iff_exists'.mp taken
    rw [free owner recorded] at recorded
    exact Seats.Inverse.free_of_unseated matched unseated recorded
  have seat : after.seat = update before.seat effect.key (some (keyForScope effect.scope)) := by
    have stored : after.effects effect.key = some effect := by simp [written]
    have moved := seat_update stored (fun other different => by simp [written, different])
      (fun other _ => congrFun pending other)
    rwa [if_pos (.inl running)] at moved
  unfold SlotsMatch
  rw [active, seat]
  exact Seats.Inverse.take matched vacant unseated

/-- The commit of an effect that occupies its turn releases the turn when nothing is open. -/
theorem MemoryRepository.SlotsMatch.committed {write : Option (ClaimKey × ProviderStartRecord)} {lapsed : MemoryRepository}
    (matched : before.SlotsMatch) (produces : gateway.Produces Reported effect next)
    (stored : before.effects effect.key = some effect)
    (unreconciled : before.serverRequestReconciliations effect.key = none)
    (lapse : Lapsed before effect.key authority now child lapsed) :
    ((lapsed.writeStart write).storeNext effect next
      (child.any fun given => given.2.needsReconciliation)).SlotsMatch := by
  have occupying : before.Occupying effect.key effect := produces.occupying
  have scope : keyForScope next.scope = keyForScope effect.scope := by rw [produces.scope]
  have active : (lapsed.writeStart write).active = before.active := by
    rw [writeStart_frame]
    exact lapse.active
  obtain ⟨others, pending⟩ := lapse.reconciliations
  refine matched.moved stored occupying scope (by simp)
    (fun other different => by simp [different, lapse.effects]) ?_ ?_
  · intro other different
    rw [storeNext_frame, writeStart_frame]
    exact others other different
  · rw [storeNext_active (by rw [active]; exact matched.recorded stored occupying) scope, active]
    have open_ : ((lapsed.writeStart write).storeNext effect next
        (child.any fun given => given.2.needsReconciliation)).Occupying effect.key next ↔
        ¬ ((child.any fun given => given.2.needsReconciliation) = false ∧ next.Terminal ∧
          ¬ retainsLateProviderOwner next) := by
      unfold Occupying
      rw [storeNext_frame, writeStart_frame]
      simp only [pending, unreconciled, isSome_none, Bool.false_eq_true, or_false, not_and_or,
        not_not, Bool.not_eq_false]
      tauto
    by_cases ended : (child.any fun given => given.2.needsReconciliation) = false ∧ next.Terminal ∧
        ¬ retainsLateProviderOwner next
    · rw [if_pos ended, if_neg fun still => open_.mp still ended]
    · rw [if_neg ended, if_pos (open_.mpr ended)]

/-- A parent whose nested effect was cancelled releases its turn when nothing else is open. -/
theorem MemoryRepository.SlotsMatch.reconciled (matched : before.SlotsMatch) (stored : before.effects key = some effect)
    (pending : (before.serverRequestReconciliations key).isSome = true)
    (effects : after.effects = before.effects) (active : after.active = before.active)
    (cleared : after.serverRequestReconciliations =
      update before.serverRequestReconciliations key none) : (after.release key effect).SlotsMatch := by
  have occupying : before.Occupying key effect := .inr (.inr pending)
  have recorded : after.active (keyForScope effect.scope) = some key := by
    rw [active]
    exact matched.recorded stored occupying
  refine matched.moved stored occupying rfl (by simpa [effects] using stored) (fun other _ => by simp [effects]) ?_ ?_
  · intro other different
    rw [release_frame]
    simp [cleared, different]
  · rw [release_active recorded, active]
    have open_ : (after.release key effect).Occupying key effect ↔
        ¬ (effect.Terminal ∧ ¬ retainsLateProviderOwner effect) := by
      unfold Occupying
      rw [release_frame]
      simp only [cleared, update_self, isSome_none, Bool.false_eq_true, or_false, not_and_or, not_not]
    by_cases ended : effect.Terminal ∧ ¬ retainsLateProviderOwner effect
    · rw [if_pos ended, if_neg fun still => open_.mp still ended]
    · rw [if_neg ended, if_pos (open_.mpr ended)]

theorem Changed.slotsMatch (changed : Changed before call after) (produced : call.Genuine gateway Reported)
    (nested : before.NestedMatch) (matched : before.SlotsMatch) : after.SlotsMatch := by
  cases changed with
  | @admitted admitted _ _ unstored free =>
    have admits : gateway.Admits admitted := produced _ rfl
    have running : ¬ admitted.Terminal := by
      rw [admits.fresh]
      simp [Effect.Terminal]
    exact matched.admitted unstored free running rfl rfl rfl
  | @dispatched request _ _ stored _ state =>
    have produces : gateway.Produces Reported request.previous request.next := produced _ rfl
    refine matched.moved stored produces.occupying (by rw [produces.scope]) (by simp)
      (fun other different => by simp [different]) (fun _ _ => rfl) ?_
    rw [if_pos (.inl (by simp [Effect.Terminal, state]))]
  | committed stored _ unreconciled _ _ _ lapse =>
    exact matched.committed (produced _ rfl) stored unreconciled lapse
  | @abandoned request _ _ _ _ _ found lapse =>
    -- The parent of an active request is running, so it occupies its turn before and after.
    obtain ⟨present, -⟩ := lapse.abandoned_iff
    obtain ⟨-, -, parent, stored, state⟩ := nested.running _ _ present
    have running : ¬ parent.Terminal := by
      rcases state with state | state <;> simp [Effect.Terminal, state]
    refine matched.moved stored (.inl running) rfl (by simpa [lapse.effects] using stored)
      (fun other _ => by simp [lapse.effects]) lapse.reconciliations.1 ?_
    rw [if_pos (.inl running)]
    exact lapse.active
  | reconciled found pending => exact matched.reconciled found (by simp [pending]) rfl rfl rfl
  | _ => exact matched.congr rfl (seat_congr rfl rfl)

end Steps

section Counts

/-- No server request is forgotten, and none is new. -/
structure MemoryRepository.SameCounts (before after : MemoryRepository) : Prop where
  known : ∀ childKey, after.serverRequests childKey = none ↔ before.serverRequests childKey = none
  counts : after.serverRequestCounts = before.serverRequestCounts
  limits : after.serverRequestLimits = before.serverRequestLimits

theorem MemoryRepository.sameCounts_of_same (requests : after.serverRequests = before.serverRequests)
    (counts : after.serverRequestCounts = before.serverRequestCounts)
    (limits : after.serverRequestLimits = before.serverRequestLimits) : before.SameCounts after :=
  ⟨fun _ => by rw [requests], counts, limits⟩

theorem MemoryRepository.sameCounts_of_written (written : ServerRequestRecord)
    (recorded : before.serverRequests childKey = some record)
    (requests : after.serverRequests = update before.serverRequests childKey (some written))
    (counts : after.serverRequestCounts = before.serverRequestCounts)
    (limits : after.serverRequestLimits = before.serverRequestLimits) : before.SameCounts after := by
  refine ⟨fun other => ?_, counts, limits⟩
  by_cases same : other = childKey
  · simp [requests, same, recorded]
  · simp [requests, same]

theorem Lapsed.sameCounts (lapse : Lapsed before parent authority now child after) : before.SameCounts after := by
  cases lapse with
  | kept => exact sameCounts_of_same rfl rfl rfl
  | abandoned _ found => exact sameCounts_of_written _ found rfl rfl rfl

/-- The requests of a parent are counted, and their number stays within the limit of each claim. -/
structure Counted (calls : List Call) (repository : MemoryRepository) : Prop where
  keys : ∀ parent, ∃ keys : Finset ServerRequestKey, keys.card = repository.serverRequestCounts parent ∧
    ∀ childKey, childKey ∈ keys ↔ childKey.invocation.value = parent ∧ repository.serverRequests childKey ≠ none
  limited : ∀ parent limit, repository.serverRequestLimits parent = some limit →
    repository.serverRequestCounts parent ≤ limit
  unlimited : ∀ parent, repository.serverRequestLimits parent = none → repository.serverRequestCounts parent = 0
  claimed : ∀ call ∈ calls, ∀ childKey limit, call.serverClaim = some (childKey, limit) →
    repository.serverRequests childKey ≠ none ∧ repository.serverRequestLimits childKey.invocation.value = some limit

theorem Counted.limit_of_known (counted : Counted calls repository)
    (known : repository.serverRequests childKey ≠ none) :
    ∃ limit, repository.serverRequestLimits childKey.invocation.value = some limit := by
  obtain ⟨keys, card, members⟩ := counted.keys childKey.invocation.value
  have member : childKey ∈ keys := (members childKey).mpr ⟨rfl, known⟩
  have positive := Finset.card_pos.mpr ⟨childKey, member⟩
  by_contra unlimited
  have none := eq_none_iff_forall_ne_some.mpr fun limit some => unlimited ⟨limit, some⟩
  have zero := counted.unlimited _ none
  omega

/-- Nothing is counted by a call that claims nothing new. -/
theorem Counted.kept (counted : Counted calls before) (same : before.SameCounts after)
    (claim : ∀ childKey limit, call.serverClaim = some (childKey, limit) → before.serverRequests childKey ≠ none ∧
        ∀ given ∈ before.serverRequestLimits childKey.invocation.value, given = limit) :
    Counted (calls ++ [call]) after where
  keys := by
    intro parent
    obtain ⟨keys, card, members⟩ := counted.keys parent
    refine ⟨keys, by rw [card, same.counts], fun childKey => ?_⟩
    rw [members childKey, ne_eq, ne_eq, same.known]
  limited := by
    rw [same.counts, same.limits]
    exact counted.limited
  unlimited := by
    rw [same.counts, same.limits]
    exact counted.unlimited
  claimed := by
    intro given member childKey limit claimed
    rw [ne_eq, same.known, same.limits]
    rcases mem_append.mp member with earlier | new
    · exact counted.claimed given earlier childKey limit claimed
    · obtain rfl := mem_singleton.mp new
      obtain ⟨known, agrees⟩ := claim childKey limit claimed
      obtain ⟨found, present⟩ := counted.limit_of_known known
      exact ⟨known, by rw [present, agrees found present]⟩

theorem Counted.quiet (counted : Counted calls before) (same : before.SameCounts after)
    (quiet : call.serverClaim = none) : Counted (calls ++ [call]) after :=
  counted.kept same fun _ _ claimed => by simp [quiet] at claimed

/-- A new request is counted once, below the limit. -/
theorem Counted.requested (counted : Counted calls before) {limit : Nat}
    (claim : call.serverClaim = some (childKey, limit))
    (unknown : before.serverRequests childKey = none)
    (agrees : ∀ given ∈ before.serverRequestLimits childKey.invocation.value, given = limit)
    (room : before.serverRequestCounts childKey.invocation.value < limit)
    (requests : after.serverRequests = update before.serverRequests childKey (some record))
    (limits : after.serverRequestLimits = update before.serverRequestLimits childKey.invocation.value (some limit))
    (counts : after.serverRequestCounts = update before.serverRequestCounts
      childKey.invocation.value (before.serverRequestCounts childKey.invocation.value + 1)) :
    Counted (calls ++ [call]) after where
  keys := by
    intro parent
    obtain ⟨keys, card, members⟩ := counted.keys parent
    by_cases same : parent = childKey.invocation.value
    · have fresh : childKey ∉ keys := fun member => ((members childKey).mp member).2 unknown
      refine ⟨insert childKey keys, ?_, fun other => ?_⟩
      · rw [Finset.card_insert_of_notMem fresh, card, counts, same, update_self]
      · by_cases equal : other = childKey
        · simp [equal, requests, same]
        · simp [equal, requests, members]
    · refine ⟨keys, by rw [card, counts, update_of_ne same], fun other => ?_⟩
      rw [members other]
      refine and_congr_right fun named => ?_
      have equal : other ≠ childKey := fun equal => same (by rw [← named, equal])
      rw [requests, update_of_ne equal]
  limited := by
    have limited := counted.limited
    simp only [limits, counts, update_apply]
    grind
  unlimited := by
    have unlimited := counted.unlimited
    simp only [limits, counts, update_apply]
    grind
  claimed := by
    have claimed := counted.claimed
    simp only [mem_def] at agrees
    simp only [requests, limits, update_apply, mem_append, mem_singleton]
    grind

theorem Counted.preserved (counted : Counted calls before) (changed : Changed before call after) :
    Counted (calls ++ [call]) after := by
  cases changed with
  | idle quiet => exact counted.quiet (sameCounts_of_same rfl rfl rfl) quiet.unrequested
  | committed _ _ _ _ _ _ lapse =>
    obtain ⟨known, counts, limits⟩ := lapse.sameCounts
    refine counted.quiet ⟨?_, ?_, ?_⟩ rfl <;> rw [storeNext_frame, writeStart_frame]
    · exact known
    · exact counts
    · exact limits
  | abandoned _ lapse =>
    obtain ⟨known, counts, limits⟩ := lapse.sameCounts
    exact counted.quiet ⟨known, counts, limits⟩ rfl
  | @reconciled _ _ _ _ _ _ settled _ _ recorded =>
    refine counted.quiet (sameCounts_of_written settled recorded ?_ ?_ ?_) rfl <;> rw [release_frame]
  | replayed recorded limit =>
    refine counted.kept (sameCounts_of_same rfl rfl rfl) ?_
    rintro _ _ ⟨⟩
    exact ⟨by simp [recorded], limit⟩
  | renewed recorded _ _ limit =>
    refine counted.kept (sameCounts_of_written _ recorded rfl rfl rfl) ?_
    rintro _ _ ⟨⟩
    exact ⟨by simp [recorded], limit⟩
  | requested _ _ unknown _ _ _ limit _ room => exact counted.requested rfl unknown limit room rfl rfl rfl
  | completed recorded =>
    exact counted.quiet (sameCounts_of_written _ recorded rfl rfl rfl) rfl
  | _ =>
    exact counted.quiet (sameCounts_of_same rfl rfl rfl) rfl

/-- The server requests of a parent that the calls claimed. -/
def claimedKeys (calls : List Call) (parent : String) : Finset ServerRequestKey :=
  ((calls.filterMap Call.serverClaim).map Prod.fst).toFinset.filter fun childKey => childKey.invocation.value = parent

theorem Counted.bound (counted : Counted calls repository) (member : call ∈ calls) {limit : Nat}
    (claim : call.serverClaim = some (childKey, limit)) :
    (claimedKeys calls childKey.invocation.value).card ≤ limit := by
  obtain ⟨keys, card, members⟩ := counted.keys childKey.invocation.value
  have listed : claimedKeys calls childKey.invocation.value ⊆ keys := by
    intro other given
    simp only [claimedKeys, Finset.mem_filter, List.mem_toFinset, List.mem_map, List.mem_filterMap,
      Prod.exists, exists_and_right, exists_eq_right] at given
    obtain ⟨⟨bound, claiming, known, claimed⟩, named⟩ := given
    exact (members other).mpr ⟨named, (counted.claimed claiming known other bound claimed).1⟩
  obtain ⟨-, present⟩ := counted.claimed call member childKey limit claim
  calc (claimedKeys calls childKey.invocation.value).card ≤ keys.card := Finset.card_le_card listed
    _ = repository.serverRequestCounts childKey.invocation.value := card
    _ ≤ limit := counted.limited _ _ present

end Counts

section Runs

def MemoryRepository.Matched (repository : MemoryRepository) : Prop :=
  repository.NestedMatch ∧ repository.SlotsMatch

theorem matched_new : newMemoryRepository.Matched := by
  refine ⟨⟨?_, ?_, ?_⟩, ?_⟩
  · intro key childKey present
    simp [newMemoryRepository] at present
  · intro childKey record stored
    simp [newMemoryRepository] at stored
  · intro childKey record stored
    simp [newMemoryRepository] at stored
  · intro turn key
    simp [newMemoryRepository, seat]

/-- Both matches hold after a run of calls that write what the machine makes. -/
theorem matched_of_run (run : Trace.Run (MemoryRepository.Step sha256) newMemoryRepository calls repository)
    (produced : ∀ call ∈ calls, call.Genuine gateway Reported) : repository.Matched := by
  refine (run.restrict produced).invariant matched_new ?_
  rintro before call after ⟨step, made⟩ ⟨nested, matched⟩
  exact ⟨step.changed.nestedMatch made nested, step.changed.slotsMatch made nested matched⟩

theorem counted_of_run (run : Trace.Run (MemoryRepository.Step sha256) newMemoryRepository calls repository) :
    Counted calls repository := by
  refine run.traceInvariant ⟨?_, ?_, ?_, ?_⟩ fun _ _ _ _ step counted => counted.preserved step.changed
  · exact fun parent => ⟨∅, rfl, by simp [newMemoryRepository]⟩
  · intro parent limit present
    simp [newMemoryRepository] at present
  · exact fun parent _ => rfl
  · simp

theorem MemoryRepository.release_kept {owner : String} (recorded : repository.active turn = some key) :
    (repository.release owner effect).active turn = some key ∨
      (repository.release owner effect).active turn = none := by
  unfold release
  split
  · by_cases same : turn = keyForScope effect.scope
    · exact .inr (by simp [same])
    · exact .inl (by simpa [same] using recorded)
  · exact .inl recorded

theorem MemoryRepository.storeNext_kept {reconciles : Bool} (recorded : repository.active turn = some key) :
    (repository.storeNext effect next reconciles).active turn = some key ∨
      (repository.storeNext effect next reconciles).active turn = none := by
  have taken : (if repository.active (keyForScope effect.scope) = none ∧ ¬ next.Terminal then
      { repository with
        active := update repository.active (keyForScope effect.scope) (some effect.key) }
      else repository).active turn = some key := by
    split
    next free =>
      have other : turn ≠ keyForScope effect.scope := by
        rintro rfl
        simp [free.1] at recorded
      simpa [other] using recorded
    next => exact recorded
  cases reconciles with
  | true => exact .inl taken
  | false => exact release_kept taken

/-- No call hands a turn from one effect to another. -/
theorem Changed.active_kept (changed : Changed before call after) (recorded : before.active turn = some key) :
    after.active turn = some key ∨ after.active turn = none := by
  cases changed with
  | @admitted admitted _ _ _ free =>
    by_cases same : turn = keyForScope admitted.scope
    · subst same
      exact .inl (by simp [free key recorded])
    · exact .inl (by simpa [same] using recorded)
  | committed _ _ _ _ _ _ lapse =>
    apply storeNext_kept
    rw [writeStart_frame, ← recorded, ← lapse.active]
  | abandoned _ lapse => exact .inl (by rw [← recorded, ← lapse.active])
  | reconciled => exact release_kept recorded
  | _ => exact .inl recorded

/-- The stored effect occupies its turn. -/
def MemoryRepository.Occupied (repository : MemoryRepository) (key : String) : Prop :=
  ∃ effect, repository.effects key = some effect ∧ repository.Occupying key effect

/-- The turns and their effects at one state. -/
structure MemoryRepository.SlotsHeld (repository : MemoryRepository) : Prop where
  single : ∀ first second left right, repository.effects first = some left →
    repository.effects second = some right → keyForScope left.scope = keyForScope right.scope →
    repository.Occupying first left → repository.Occupying second right → first = second
  recorded : ∀ key effect, repository.effects key = some effect → repository.Occupying key effect →
    repository.active (keyForScope effect.scope) = some key
  occupied : ∀ turn key, repository.active turn = some key →
    ∃ effect, repository.effects key = some effect ∧ repository.Occupying key effect ∧ keyForScope effect.scope = turn
  nested : ∀ first second left right, repository.serverRequests first = some left →
    repository.serverRequests second = some right → first.invocation.value = second.invocation.value →
    left.state = .claimed → right.state = .claimed → first = second

/-- The entry of a turn goes in the call that ends its effect for good, and not before. -/
def MemoryRepository.ReleasesBy (before after : MemoryRepository) : Prop :=
  ∀ turn key, before.active turn = some key → (after.active turn = none ↔ ¬ after.Occupied key) ∧
      (after.active turn = some key ↔ after.Occupied key)

theorem MemoryRepository.slotsHeld (nested : repository.NestedMatch) (matched : repository.SlotsMatch) :
    repository.SlotsHeld where
  single := by
    intro first second left right stored present same occupying also
    have one := matched.recorded stored occupying
    have other := matched.recorded present also
    rw [same, other, some.injEq] at one
    exact one.symm
  recorded := fun _ _ stored occupying => matched.recorded stored occupying
  occupied := fun turn key recorded => seat_eq_some_iff.mp ((matched turn key).mp recorded)
  nested := by
    intro first second left right stored present same claimed also
    have one := nested.claimed first left stored claimed
    have other := nested.claimed second right present also
    rw [same, other, some.injEq] at one
    exact one.symm

theorem Changed.releasesBy (changed : Changed before call after) (produced : call.Genuine gateway Reported)
    (matched : before.SlotsMatch) (later : after.SlotsMatch) : before.ReleasesBy after := by
  intro turn key recorded
  obtain ⟨effect, stored, -, named⟩ := seat_eq_some_iff.mp ((matched turn key).mp recorded)
  have located : ∃ next, after.effects key = some next ∧ keyForScope next.scope = turn := by
    rcases changed.stored produced.produced stored with same | ⟨next, produces, written⟩
    · exact ⟨effect, same, named⟩
    · exact ⟨next, written, by rw [produces.scope, named]⟩
  obtain ⟨next, written, placed⟩ := located
  have held : after.active turn = some key ↔ after.Occupied key := by
    rw [later turn key, seat_eq_some_iff]
    constructor
    · rintro ⟨found, present, occupying, -⟩
      exact ⟨found, present, occupying⟩
    · rintro ⟨found, present, occupying⟩
      obtain rfl : next = found := by simpa [written] using present
      exact ⟨next, written, occupying, placed⟩
  refine ⟨?_, held⟩
  rw [← held]
  rcases changed.active_kept recorded with same | none
  · simp [same]
  · simp [none]

/-- In every interleaving of calls that admit what the gateway admits and commit what the machine makes,
at most one effect occupies a turn, the entry of the turn names it until the very call that ends it,
and a parent has one claimed server request at a time and no more of them than its claims allow. -/
theorem slot_exclusive (run : Trace.Run (MemoryRepository.Step sha256) newMemoryRepository calls repository)
    (produced : ∀ call ∈ calls, call.Genuine gateway Reported) :
    repository.SlotsHeld ∧
    (∀ call next, repository.Step sha256 call next → call.Genuine gateway Reported → repository.ReleasesBy next) ∧
    ∀ call ∈ calls, ∀ childKey limit, call.serverClaim = some (childKey, limit) →
      (claimedKeys calls childKey.invocation.value).card ≤ limit := by
  obtain ⟨nested, matched⟩ := matched_of_run run produced
  refine ⟨slotsHeld nested matched, ?_, ?_⟩
  · intro call next step made
    exact step.changed.releasesBy made matched (step.changed.slotsMatch made nested matched)
  · exact fun call member childKey limit claim => (counted_of_run run).bound member claim

/-- No interleaving drops a stored effect or changes its identity, and a revision is never used again. -/
theorem stored_revision_grows (run : Trace.Run (MemoryRepository.Step sha256) repository calls after)
    (produced : ∀ call ∈ calls, call.Produced gateway allowed) (stored : repository.effects key = some effect) :
    ∃ later, after.effects key = some later ∧ sameImmutableEffect effect later ∧
      (later = effect ∨ effect.revision < later.revision) := by
  refine stored_of_run run produced ?_ stored ⟨rfl, .inl rfl⟩
  rintro previous _ ⟨event, transition, ok, rfl, -⟩ ⟨same, older⟩
  obtain ⟨accepted, checked, -, moved, move, -, rfl⟩ := gateway.apply_applied ok
  have within := move.within (gateway.validateEffect_valid accepted) checked
  refine ⟨same.trans move.identity.symm, .inr ?_⟩
  rw [show (moved.effect.counted _).revision = previous.revision + 1 from congrArg Nat.succ within.revision]
  rcases older with rfl | less <;> omega

section Sample

/-- The sample effect after the first of these events: a call with one provider request that commits
and settles. -/
def slotEvents : List Event :=
  [.plain 1 .beginDispatch, { Event.plain 2 .negotiationRecorded with negotiation := sampleReceipt 1 true },
    { Event.plain 3 .providerAccepted with providerRequestId := "q" },
    { Event.plain 4 .callCommitted with output := [1], externalCommitId := "c" },
    .plain 5 .settlementCompleted]

def slotStage (count : Nat) : Effect :=
  (sampleRun (sampleBounds 64 4 64) startTool true (slotEvents.take count)).2

def slotClaim : ServerRequestClaimRequest where
  currentScope := sampleScope
  parent := slotStage 3
  providerRequestId := "q"
  connectionGeneration := 1
  requestId := "n"
  method := .roots
  requestDigest := 1
  childEffectId := default
  childInvocationId := default
  brokerCancellationRequired := false
  maxRequests := 1
  lease := 10

def slotPermit : ServerRequestPermit where
  proof := 1
  durable := true
  scope := sampleScope
  parentInvocationId := sampleScope.invocationId
  providerRequestId := "q"
  connectionGeneration := 1
  requestId := "n"
  requestDigest := 1
  childEffectId := default
  childInvocationId := default
  claimGeneration := 1
  leaseExpiresAtUnixNano := 10

def slotOperations : List (Operation × Int) :=
  [(.admitEffect (slotStage 0), 0),
    (.commitAndClaimDispatch ⟨1, sampleScope, slotStage 0, slotStage 1, startAuthorization⟩, 0),
    (plainCommit (slotStage 1) (slotStage 2), 0), (plainCommit (slotStage 2) (slotStage 3), 0),
    (.claimServerRequest slotClaim, 0),
    (.completeServerRequest ⟨sampleScope, slotPermit, default,
      some (serverRequestAudit (slotStage 3) .roots "allowed" "roots"), default, default⟩, 1),
    (plainCommit (slotStage 3) (slotStage 4), 2), (plainCommit (slotStage 4) (slotStage 5), 3)]

def slotRun : List Call × MemoryRepository :=
  newMemoryRepository.executeAll startHash slotOperations

theorem slotStage_produced {count : Nat} (event : Event) (reported : Reported (slotStage count) event)
    (ok : Transition.effect <$> startGateway.apply (slotStage count) event = .ok (slotStage (count + 1))) :
    startGateway.Produces Reported (slotStage count) (slotStage (count + 1)) := by
  rw [map_ok_iff] at ok
  obtain ⟨transition, ok, target⟩ := ok
  exact ⟨event, transition, ok, target, reported⟩

theorem slotRun_produced : ∀ call ∈ slotRun.1, call.Genuine startGateway Reported := by
  refine fun call listed _ _ => executeAll_forall _ ?_ call listed
  simp only [slotOperations, forall_mem_cons]
  refine ⟨⟨sampleRequest, sampleScope, sampleAvailability true, by decide +kernel⟩, ?_, ?_, ?_, trivial, trivial, ?_, ?_, by simp⟩
  · exact slotStage_produced (.plain 1 .beginDispatch) (by simp [Reported, plain]) (by decide +kernel)
  · exact slotStage_produced { plain 2 .negotiationRecorded with negotiation := sampleReceipt 1 true }
      (by simp [Reported, plain]) (by decide +kernel)
  · exact slotStage_produced { plain 3 .providerAccepted with providerRequestId := "q" }
      (by simp [Reported, plain]) (by decide +kernel)
  · exact slotStage_produced { plain 4 .callCommitted with output := [1], externalCommitId := "c" }
      (by simp [Reported, plain]) (by decide +kernel)
  · exact slotStage_produced (.plain 5 .settlementCompleted) (by simp [Reported, plain]) (by decide +kernel)

/-- The settled call has left its turn, and its one server request is at the limit. -/
theorem slot_exclusive_settled : slotRun.2.active (keyForScope sampleScope) = none ∧ slotRun.2.SlotsHeld ∧
      ∃ call ∈ slotRun.1, call.serverClaim = some (slotClaim.key, 1) ∧ (claimedKeys slotRun.1 "inv_1").card ≤ 1 := by
  obtain ⟨held, -, bound⟩ := slot_exclusive (newMemoryRepository.run_of_executeAll startHash slotOperations)
    slotRun_produced
  have claimed : (slotClaim.key, 1) ∈ slotRun.1.filterMap Call.serverClaim := by decide +kernel
  obtain ⟨call, member, claim⟩ := mem_filterMap.mp claimed
  exact ⟨by decide +kernel, held, call, member, claim, bound call member slotClaim.key 1 claim⟩

/-- The settled call is the admitted one, five revisions later. -/
theorem stored_revision_grows_settled : slotRun.2.effects "inv_1" = some (slotStage 5) ∧
    sameImmutableEffect (slotStage 0) (slotStage 5) ∧ (slotStage 0).revision < (slotStage 5).revision := by
  have final : slotRun.2.effects "inv_1" = some (slotStage 5) := by decide +kernel
  have admitted : (newMemoryRepository.execute startHash (.admitEffect (slotStage 0)) 0).2.effects "inv_1" =
      some (slotStage 0) := by decide +kernel
  obtain ⟨later, stored, same, grown⟩ := stored_revision_grows
    ((newMemoryRepository.execute startHash (.admitEffect (slotStage 0)) 0).2.run_of_executeAll startHash
      slotOperations.tail) (fun call listed => (slotRun_produced call (.tail _ listed)).produced) admitted
  cases stored.symm.trans final
  exact ⟨final, same, grown.resolve_left (by decide +kernel)⟩

end Sample

end Runs

end Circulusd.Mcp
