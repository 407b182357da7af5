import Circulusd.Mcp.Recover

/-
The start of a provider is permitted once for an attempt, and a start that was ruled out stays so.
-/

namespace Circulusd.Mcp

open Call Checked Effect Function MemoryRepository Protocol List Option

variable {sha256 : Bytes → Digest} {gateway : Gateway} {before after repository : MemoryRepository}
  {call : Call} {calls : List Call} {key : ClaimKey} {permit : ProviderStartPermit}

section Records

@[simp]
theorem Lapsed.providerStarts {parent : String} {scope : ValidatedAuthority} {now : Int}
    {child : Option (ServerRequestKey × ServerRequestRecord)}
    (lapse : Lapsed before parent scope now child after) : after.providerStarts = before.providerStarts := by
  cases lapse <;> rfl

@[simp]
theorem MemoryRepository.release_providerStarts (repository : MemoryRepository) (key : String)
    (effect : Effect) : (repository.release key effect).providerStarts = repository.providerStarts := by
  rw [release_frame]

@[simp]
theorem MemoryRepository.storeNext_providerStarts (repository : MemoryRepository) (current next : Effect)
    (reconciles : Bool) :
    (repository.storeNext current next reconciles).providerStarts = repository.providerStarts := by
  rw [storeNext_frame]

theorem MemoryRepository.writeStart_providerStarts (repository : MemoryRepository) (key : ClaimKey)
    (record : ProviderStartRecord) :
    (repository.writeStart (some (key, record))).providerStarts =
      update repository.providerStarts key (some record) := rfl

/-- A record keeps its permit, and once it is closed it keeps everything. -/
def MemoryRepository.KeepsStarts (before after : MemoryRepository) : Prop :=
  ∀ key start, before.providerStarts key = some start →
    ∃ later, after.providerStarts key = some later ∧ later.permit = start.permit ∧
      (start.status ≠ .active → later = start)

theorem MemoryRepository.keepsStarts_of_same (same : after.providerStarts = before.providerStarts) :
    before.KeepsStarts after :=
  fun _ start found => ⟨start, same ▸ found, rfl, fun _ => rfl⟩

theorem MemoryRepository.keepsStarts_of_absent {record : ProviderStartRecord}
    (absent : before.providerStarts key = none)
    (update : after.providerStarts = update before.providerStarts key (some record)) :
    before.KeepsStarts after := by
  intro other start found
  have differ : other ≠ key := by
    rintro rfl
    simp [absent] at found
  exact ⟨start, by simpa [update, differ] using found, rfl, fun _ => rfl⟩

theorem MemoryRepository.keepsStarts_of_closed (record : ProviderStartRecord) {start : ProviderStartRecord}
    (found : before.providerStarts key = some start) (active : start.status = .active)
    (permit : record.permit = start.permit)
    (update : after.providerStarts = update before.providerStarts key (some record)) :
    before.KeepsStarts after := by
  intro other earlier present
  by_cases same : other = key
  · obtain rfl : start = earlier := by simpa [same, found] using present
    exact ⟨record, by simp [update, same], permit, fun closed => absurd active closed⟩
  · exact ⟨earlier, by simpa [update, same] using present, rfl, fun _ => rfl⟩

theorem Changed.keepsStarts (changed : Changed before call after) : before.KeepsStarts after := by
  cases changed with
  | started _ _ _ _ absent => exact keepsStarts_of_absent absent rfl
  | prevented _ _ absent => exact keepsStarts_of_absent absent rfl
  | @revoked _ _ _ start found active =>
    exact keepsStarts_of_closed { start with status := .revoked } found active rfl rfl
  | @committed _ _ _ write _ lapsed _ _ _ _ _ closes lapse =>
    cases write with
    | none =>
      exact keepsStarts_of_same (by simp [writeStart, lapse.providerStarts])
    | some pair =>
      obtain ⟨start, found, active, permit⟩ := closes pair.1 pair.2 rfl
      exact keepsStarts_of_closed pair.2 found active permit
        (by simp [lapsed.writeStart_providerStarts, lapse.providerStarts])
  | abandoned _ lapse => exact keepsStarts_of_same lapse.providerStarts
  | reconciled => exact keepsStarts_of_same (by simp)
  | _ => exact keepsStarts_of_same rfl

/-- A granted start names the attempt that is being dispatched, and its record stands. -/
structure Granted (before after : MemoryRepository) (key : ClaimKey) (permit : ProviderStartPermit) : Prop where
  effect : ∃ effect, before.effects key.invocation = some effect ∧ effect.state = .dispatching ∧
    ∃ attempt, effect.currentAttempt = some attempt ∧ attempt.attempt = key.attempt ∧ attempt.negotiation ≠ .zero
  record : after.providerStarts key = some ⟨permit, .active⟩
  first : permit.durable = true ∨ before.providerStarts key = some ⟨permit, .active⟩

theorem Changed.granted (changed : Changed before call after) (claim : call.startClaim = some (key, permit)) :
    Granted before after key permit := by
  cases changed with
  | @started request _ attempt _ stored state current negotiated _ durable =>
    obtain ⟨rfl, rfl⟩ : ⟨request.effect.key, attempt.attempt⟩ = key ∧ _ = permit := by
      simpa [startClaim, latestAttempt_of_current current] using claim
    exact ⟨⟨request.effect, stored, state, attempt, current, rfl, negotiated⟩, by simp, .inl durable⟩
  | @restarted request _ attempt _ stored state current negotiated found =>
    obtain ⟨rfl, rfl⟩ : ⟨request.effect.key, attempt.attempt⟩ = key ∧ _ = permit := by
      simpa [startClaim, latestAttempt_of_current current] using claim
    exact ⟨⟨request.effect, stored, state, attempt, current, rfl, negotiated⟩, found, .inr found⟩
  | idle quiet => simp [quiet.unclaimed] at claim
  | _ => simp [startClaim] at claim

theorem Changed.ruledOut (changed : Changed before call after) (absent : call.startPrevented = some key) :
    after.providerStarts key = some ⟨default, .revoked⟩ := by
  cases changed with
  | @prevented request _ attempt _ current =>
    obtain rfl : ⟨request.effect.key, attempt.attempt⟩ = key := by
      simpa [startPrevented, startAbsent, latestAttempt_of_current current] using absent
    simp
  | @preventedBefore request _ attempt _ current found =>
    obtain rfl : ⟨request.effect.key, attempt.attempt⟩ = key := by
      simpa [startPrevented, startAbsent, latestAttempt_of_current current] using absent
    exact found
  | revoked => simp [startPrevented, startPresent] at absent
  | idle quiet => simp [quiet.unprevented] at absent
  | _ => simp [startPrevented] at absent

theorem Call.startClaim_of_commits {request : TransitionCommitRequest}
    (commits : call.commits = some request) : call.startClaim = none := by
  obtain ⟨operation, now, answer⟩ := call
  cases operation with
  | commit => rfl
  | _ => simp [Call.commits] at commits

/-- What the records remember of the calls so far. -/
structure Remembers (calls : List Call) (repository : MemoryRepository) : Prop where
  claimed : ∀ call ∈ calls, ∀ key permit, call.startClaim = some (key, permit) →
    permit.durable = true ∧ ∃ start, repository.providerStarts key = some start ∧ start.permit = permit
  prevented : ∀ call ∈ calls, ∀ key, call.startPrevented = some key →
    repository.providerStarts key = some ⟨default, .revoked⟩
  active : ∀ key start, repository.providerStarts key = some start → start.status = .active →
    start.permit.durable = true

theorem Changed.active_durable (changed : Changed before call after)
    (active : ∀ key start, before.providerStarts key = some start → start.status = .active →
      start.permit.durable = true) {start : ProviderStartRecord}
    (found : after.providerStarts key = some start) (running : start.status = .active) :
    start.permit.durable = true := by
  -- A record that was there before has its permit still; only a claim makes a new one that is active.
  cases earlier : before.providerStarts key with
  | some old =>
    obtain ⟨later, present, permit, closed⟩ := changed.keepsStarts key old earlier
    obtain rfl : later = start := by simpa [present] using found
    by_cases open_ : old.status = .active
    · exact permit ▸ active key old earlier open_
    · rw [closed open_] at running
      exact absurd running open_
  | none =>
    cases changed with
    | @started request _ attempt permit _ _ _ _ _ durable =>
      by_cases same : key = ⟨request.effect.key, attempt.attempt⟩
      · simp only [same, update_self, some.injEq] at found
        exact found ▸ durable
      · simp [same, earlier] at found
    | @prevented request _ attempt =>
      by_cases same : key = ⟨request.effect.key, attempt.attempt⟩
      · simp only [same, update_self, some.injEq] at found
        simp [← found] at running
      · simp [same, earlier] at found
    | @revoked _ _ other _ present =>
      by_cases same : key = other
      · simp [← same, earlier] at present
      · simp [same, earlier] at found
    | @committed _ _ _ write _ lapsed _ _ _ _ _ closes lapse =>
      cases write with
      | none => simp [writeStart, lapse.providerStarts, earlier] at found
      | some pair =>
        obtain ⟨old, present, -⟩ := closes pair.1 pair.2 rfl
        by_cases same : key = pair.1
        · simp [← same, earlier] at present
        · simp [lapsed.writeStart_providerStarts, lapse.providerStarts, same, earlier] at found
    | abandoned _ lapse => simp [lapse.providerStarts, earlier] at found
    | reconciled => simp [earlier] at found
    | _ => simp [earlier] at found

theorem Remembers.preserved (remembers : Remembers calls before) (changed : Changed before call after) :
    Remembers (calls ++ [call]) after where
  claimed := by
    intro given member key permit claim
    rcases mem_append.mp member with earlier | new
    · obtain ⟨durable, start, found, same⟩ := remembers.claimed given earlier key permit claim
      obtain ⟨later, present, kept, -⟩ := changed.keepsStarts key start found
      exact ⟨durable, later, present, kept.trans same⟩
    · obtain rfl := mem_singleton.mp new
      have granted := changed.granted claim
      refine ⟨?_, ⟨permit, .active⟩, granted.record, rfl⟩
      exact granted.first.elim id fun found => remembers.active key ⟨permit, .active⟩ found rfl
  prevented := by
    intro given member key absent
    rcases mem_append.mp member with earlier | new
    · obtain ⟨later, present, -, closed⟩ :=
        changed.keepsStarts key _ (remembers.prevented given earlier key absent)
      rw [present, closed (by simp)]
    · obtain rfl := mem_singleton.mp new
      exact changed.ruledOut absent
  active := fun _ _ found running => changed.active_durable remembers.active found running

theorem remembers_of_run (run : Trace.Run (MemoryRepository.Step sha256) newMemoryRepository calls repository) :
    Remembers calls repository := by
  refine run.traceInvariant ⟨by simp, by simp, ?_⟩ ?_
  · intro key start found
    simp [newMemoryRepository] at found
  · exact fun _ _ _ _ step remembers => remembers.preserved step.changed

/-- No attempt has both a permit and the answer that it was never started. -/
theorem Remembers.exclusive (remembers : Remembers calls repository) {claim other : Call}
    (member : claim ∈ calls) (granted : claim.startClaim = some (key, permit)) (known : other ∈ calls) :
    other.startPrevented ≠ some key := by
  intro absent
  obtain ⟨durable, start, found, rfl⟩ := remembers.claimed claim member key permit granted
  rw [remembers.prevented other known key absent, some.injEq] at found
  rw [← found] at durable
  exact absurd durable (by decide)

end Records

section Attempts

variable {effect next : Effect} {event : Event} {transition : Transition} {number : Nat}
variable {condition : AttemptRecord → Prop}

theorem Gateway.ValidAttempts.numbers {identity : EffectIdentity} {index : Nat}
    {attempts : List AttemptRecord} (valid : gateway.ValidAttempts identity index attempts) :
    attempts.map AttemptRecord.attempt = List.range' (index + 1) attempts.length := by
  induction attempts generalizing index with
  | nil => rfl
  | cons attempt rest ih =>
    rw [map_cons, valid.1.1, ih valid.2, length_cons, range'_succ]

/-- Two attempts of one number are the same. -/
theorem Gateway.ValidEffect.attempt_unique (valid : gateway.ValidEffect effect) {first second : AttemptRecord}
    (left : first ∈ effect.attempts) (right : second ∈ effect.attempts)
    (same : first.attempt = second.attempt) : first = second := by
  have nodup : (effect.attempts.map AttemptRecord.attempt).Nodup := by
    rw [valid.attempts.numbers]
    exact nodup_range'
  exact inj_on_of_nodup_map nodup left right same

theorem Gateway.ValidEffect.attempt_le (valid : gateway.ValidEffect effect) {attempt : AttemptRecord}
    (member : attempt ∈ effect.attempts) : attempt.attempt ≤ effect.attempts.length := by
  have listed : attempt.attempt ∈ effect.attempts.map AttemptRecord.attempt := mem_map_of_mem member
  rw [valid.attempts.numbers, mem_range'_1] at listed
  omega

theorem Effect.current_mem {attempt : AttemptRecord} (current : effect.currentAttempt = some attempt) :
    attempt ∈ effect.attempts :=
  mem_of_getLast? current

/-- The attempt of the number is recorded, and the condition holds of it. -/
def Effect.Records (effect : Effect) (number : Nat) (condition : AttemptRecord → Prop) : Prop :=
  ∃ attempt ∈ effect.attempts, attempt.attempt = number ∧ condition attempt

theorem Effect.Records.of_prefix {added : List AttemptRecord}
    (records : effect.Records number condition) (same : next.attempts = effect.attempts ++ added) :
    next.Records number condition := by
  obtain ⟨attempt, member, rest⟩ := records
  exact ⟨attempt, by simp [same, member], rest⟩

theorem Effect.Records.of_updated {attempt updated : AttemptRecord}
    (records : effect.Records number condition) (current : effect.currentAttempt = some attempt)
    (same : next.attempts = effect.attempts.dropLast ++ [updated])
    (numbered : updated.attempt = attempt.attempt) (kept : condition attempt → condition updated) :
    next.Records number condition := by
  obtain ⟨found, member, rfl, holds⟩ := records
  rw [effect.attempts_of_current current, mem_append, mem_singleton] at member
  rcases member with earlier | rfl
  · exact ⟨found, by simp [same, earlier], rfl, holds⟩
  · exact ⟨updated, by simp [same], numbered, kept holds⟩

/-- No move drops an attempt, and what no later report about an attempt undoes is kept. -/
theorem Moved.records (moved : Moved gateway effect event transition)
    (stable : ∀ attempt updated : AttemptRecord, updated.attempt = attempt.attempt →
      (attempt.negotiation ≠ .zero → updated.negotiation = attempt.negotiation) →
      condition attempt → condition updated)
    (records : effect.Records number condition) : transition.effect.Records number condition := by
  cases moved with
  | dispatched => exact records.of_prefix rfl
  | negotiated _ current _ first =>
    exact records.of_updated current rfl rfl (stable _ _ rfl fun given => absurd first given)
  | accepted _ current | streamed _ current | cancelUnknown _ current | recordCommitted _ current
  | resumed _ _ _ current | identified _ _ current | failedExternally _ _ _ current =>
    exact records.of_updated current rfl rfl (stable _ _ rfl fun _ => rfl)
  | @classified attempt failure reason next _ _ current outcome =>
    exact records.of_updated current outcome.attempts rfl (stable _ _ rfl fun _ => rfl)
  | _ =>
    exact records.of_prefix (append_nil _).symm

/-- An effect is being dispatched after the dispatch itself and after its negotiation only. -/
theorem Moved.dispatching (moved : Moved gateway effect event transition)
    (state : transition.effect.state = .dispatching) :
    transition.effect.attempts = effect.attempts ++ [.fresh (effect.attempts.length + 1)] ∧
        event.kind = .beginDispatch ∧ (effect.state = .admitted ∨ effect.state = .retryPending) ∨
      event.kind = .negotiationRecorded ∧ effect.state = .dispatching ∧
        transition.effect.latestAttempt.attempt = effect.latestAttempt.attempt := by
  cases moved with
  | dispatched kind before => exact .inl ⟨rfl, kind, before⟩
  | negotiated kind current before =>
    refine .inr ⟨kind, before, ?_⟩
    rw [latestAttempt_of_current current, Transition.quiet,
      latestAttempt_of_current (effect.currentAttempt_withAttempt _)]
  | classified _ _ _ outcome =>
    rcases outcome.states with other | other | other | other | other <;> simp [other] at state
  | @resumed attempt =>
    rcases effect.resume_state { attempt with providerRequestId := event.ledger.providerRequestId } with
      other | other | other <;> simp [other] at state
  | @identified _ _ _ _ before =>
    rcases before with other | other | other <;> simp [withAttempt, other] at state
  | @cancelUnknown attempt =>
    rcases (effect.classified attempt .unknown cancellationUnknownReason).held_state with
      other | other <;> simp [other] at state
  | abandoned =>
    simp only [Transition.quiet] at state
    split at state <;> simp at state
  | _ => simp at state

/-- The attempt is recorded, and the effect is not dispatching it. -/
structure Effect.Passed (effect : Effect) (number : Nat) : Prop where
  recorded : effect.Records number fun _ => True
  left : ¬ (effect.state = .dispatching ∧ effect.latestAttempt.attempt = number)

theorem Gateway.apply_records (ok : gateway.apply effect event = .ok transition)
    (stable : ∀ attempt updated : AttemptRecord, updated.attempt = attempt.attempt →
      (attempt.negotiation ≠ .zero → updated.negotiation = attempt.negotiation) →
      condition attempt → condition updated)
    (records : effect.Records number condition) : transition.effect.Records number condition := by
  obtain ⟨-, -, -, moved, move, -, rfl⟩ := gateway.apply_applied ok
  exact move.records stable records

theorem Gateway.apply_passed (ok : gateway.apply effect event = .ok transition)
    (passed : effect.Passed number) : transition.effect.Passed number := by
  refine ⟨gateway.apply_records ok (fun _ _ _ _ _ => trivial) passed.recorded, ?_⟩
  rintro ⟨state, latest⟩
  obtain ⟨validated, -, -, moved, move, -, rfl⟩ := gateway.apply_applied ok
  have valid := gateway.validateEffect_valid validated
  rcases move.dispatching state with ⟨attempts, -⟩ | ⟨-, before, same⟩
  · -- A new dispatch has a number beyond those recorded.
    obtain ⟨attempt, member, numbered, -⟩ := passed.recorded
    have bound := valid.attempt_le member
    have fresh : (moved.effect.counted (event.size effect)).latestAttempt.attempt = effect.attempts.length + 1 := by
      simp [latestAttempt, currentAttempt, counted, attempts, AttemptRecord.fresh]
    have beyond := fresh.symm.trans latest
    omega
  · exact passed.left ⟨before, same ▸ latest⟩

end Attempts

section Runs

variable {allowed : Effect → Event → Prop} {invocation : String} {effect : Effect} {number : Nat}

section

variable (run : Trace.Run (MemoryRepository.Step sha256) before calls after)
  (produced : ∀ call ∈ calls, call.Produced gateway allowed)
include run produced

/-- An attempt that the effect has left is not started any more. -/
theorem no_start_after_passed (stored : before.effects invocation = some effect) (passed : effect.Passed number) :
    ∀ claim ∈ calls, ∀ permit, claim.startClaim ≠ some (⟨invocation, number⟩, permit) := by
  intro claim member permit granted
  obtain ⟨front, back, rfl⟩ := append_of_mem member
  obtain ⟨middle, next, earlier, step, -⟩ := run.at
  obtain ⟨later, found, still⟩ := stored_of_run earlier
    (fun call listed => produced call (mem_append_left _ listed))
    (fun _ _ ⟨_, _, ok, same, _⟩ passed => same ▸ Gateway.apply_passed ok passed) stored passed
  obtain ⟨current, present, state, attempt, latest, numbered, -⟩ := (step.changed.granted granted).effect
  obtain rfl : later = current := by simpa [found] using present
  exact still.left ⟨state, by rw [latestAttempt_of_current latest, numbered]⟩

/-- An attempt with a permit has its negotiation recorded from then on. -/
theorem negotiated_after_start {claim : Call} (member : claim ∈ calls)
    (granted : claim.startClaim = some (⟨invocation, number⟩, permit)) :
    ∃ later, after.effects invocation = some later ∧
      later.Records number fun attempt => attempt.negotiation ≠ .zero := by
  obtain ⟨front, back, rfl⟩ := append_of_mem member
  obtain ⟨middle, next, -, step, later⟩ := run.at
  obtain ⟨current, present, -, attempt, latest, numbered, negotiated⟩ := (step.changed.granted granted).effect
  have whole : Trace.Run (Step sha256) middle (claim :: back) after := .cons step later
  refine stored_of_run whole (fun call listed => produced call (mem_append_right _ listed)) ?_ present
    ⟨attempt, current_mem latest, numbered, negotiated⟩
  rintro previous next ⟨event, transition, ok, rfl, -⟩ records
  refine gateway.apply_records ok ?_ records
  exact fun _ _ _ kept given => kept given ▸ given

end

/-- Provider starts in any interleaving of calls. -/
structure StartsExclusive (calls : List Call) : Prop where
  same : ∀ first ∈ calls, ∀ second ∈ calls, ∀ key left right, first.startClaim = some (key, left) →
    second.startClaim = some (key, right) → left = right
  prevented : ∀ past rest, calls = past ++ rest → ∀ call ∈ past, ∀ key, call.startPrevented = some key →
    ∀ claim ∈ rest, ∀ permit, claim.startClaim ≠ some (key, permit)

/-- Provider starts where the stored effects come from the machine. -/
structure StartsFenced (sha256 : Bytes → Digest) (gateway : Gateway) (calls : List Call) : Prop where
  left : ∀ past rest middle, calls = past ++ rest →
    Trace.Run (MemoryRepository.Step sha256) newMemoryRepository past middle →
    ∀ invocation effect number, middle.effects invocation = some effect → effect.Passed number →
    ∀ claim ∈ rest, ∀ permit, claim.startClaim ≠ some (⟨invocation, number⟩, permit)
  recovered : ∀ past call rest request, calls = past ++ call :: rest → call.commits = some request →
    ∀ event transition reason, gateway.Recovers past request.previous event →
    gateway.apply request.previous event = .ok transition → request.next = transition.effect →
    event.classification = some (.definitelyNotSent, reason) →
    ∀ claim ∈ calls, ∀ permit,
      claim.startClaim ≠ some (⟨request.previous.key, request.previous.latestAttempt.attempt⟩, permit)

theorem startsExclusive_of_run (run : Trace.Run (MemoryRepository.Step sha256) newMemoryRepository calls repository) :
    StartsExclusive calls := by
  have remembers := remembers_of_run run
  refine ⟨?_, ?_⟩
  · intro first known second member key left right granted again
    obtain ⟨-, start, found, rfl⟩ := remembers.claimed first known key left granted
    obtain ⟨-, other, present, rfl⟩ := remembers.claimed second member key right again
    obtain rfl : start = other := by simpa [found] using present
    rfl
  · rintro past rest rfl call known key absent claim member permit granted
    exact remembers.exclusive (mem_append_right past member) granted (mem_append_left rest known) absent

theorem Moved.current_of_failed {event : Event} {transition : Transition}
    (moved : Moved gateway effect event transition) (kind : event.kind = .dispatchFailed) :
    ∃ attempt, effect.currentAttempt = some attempt := by
  cases moved with
  | classified _ _ current => exact ⟨_, current⟩
  | recordCommitted commits =>
    rcases commits with ⟨other, -⟩ | ⟨other, -⟩ <;> simp [kind] at other
  | dispatched other | negotiated other | accepted other | streamed other | committed other
  | settled other | cancelledAtOnce other | cancelSent other | cancelConfirmed other
  | cancelUnknown other | resumed other | identified other | failedExternally other | confirmed other
  | abandoned other => simp [kind] at other

/-- An attempt that is classified as not sent is left behind. -/
theorem Gateway.apply_leaves {event : Event} {transition : Transition} {reason : String}
    (ok : gateway.apply effect event = .ok transition)
    (unsent : event.classification = some (.definitelyNotSent, reason)) :
    (∃ attempt, effect.currentAttempt = some attempt) ∧ transition.effect.Passed effect.latestAttempt.attempt := by
  obtain ⟨-, -, -, moved, move, -, rfl⟩ := gateway.apply_applied ok
  have kind : event.kind = .dispatchFailed := by
    rcases event.classification_cases unsent with ⟨kind, -⟩ | ⟨-, ⟨-, other, -⟩ | ⟨-, other, -⟩⟩
    · exact kind
    · simp at other
    · simp at other
  obtain ⟨attempt, current⟩ := move.current_of_failed kind
  refine ⟨⟨attempt, current⟩, ?_, ?_⟩
  · refine gateway.apply_records ok (fun _ _ _ _ _ => trivial) ?_
    exact ⟨attempt, current_mem current, by rw [latestAttempt_of_current current], trivial⟩
  · rintro ⟨state, -⟩
    rcases move.dispatching state with ⟨-, other, -⟩ | ⟨other, -⟩ <;> simp [kind] at other

theorem startsFenced_of_run (run : Trace.Run (MemoryRepository.Step sha256) newMemoryRepository calls repository)
    (produced : ∀ call ∈ calls, call.Produced gateway allowed) : StartsFenced sha256 gateway calls := by
  refine ⟨?_, ?_⟩
  · rintro past rest middle rfl reached invocation effect number stored passed
    obtain ⟨other, earlier, later⟩ := run.split
    obtain rfl : middle = other := run_deterministic reached earlier
    exact no_start_after_passed later (fun call listed => produced call (mem_append_right _ listed)) stored passed
  · rintro past call rest request rfl commits event transition reason recovers ok next unsent claim
      member permit granted
    have failure : event.failure = .definitelyNotSent := by
      rcases event.classification_cases unsent with ⟨-, failure, -⟩ | ⟨-, ⟨-, other, -⟩ | ⟨-, other, -⟩⟩
      · exact failure
      · simp at other
      · simp at other
    rcases recovers.notSent failure with ⟨-, absent⟩ | ⟨other, known, resolved⟩
    · -- The negotiation was never recorded, so no claim came before; after the commit none can.
      obtain ⟨⟨attempt, current⟩, passed⟩ := gateway.apply_leaves ok unsent
      obtain ⟨before, after, earlier, step, later⟩ := run.at
      obtain ⟨found, written⟩ := step.changed.commit_effects commits
      rcases mem_append.mp member with past | following
      · obtain ⟨known, present, other, listed, numbered, negotiated⟩ := negotiated_after_start earlier
          (fun call listed => produced call (mem_append_left _ listed)) past granted
        obtain rfl : request.previous = known := by simpa [found] using present
        obtain ⟨validated, -⟩ := gateway.apply_applied ok
        have same := (gateway.validateEffect_valid validated).attempt_unique listed
          (current_mem current) (by rw [numbered, latestAttempt_of_current current])
        rw [latestAttempt_of_current current, ← same] at absent
        exact negotiated absent
      · rcases mem_cons.mp following with rfl | after
        · rw [startClaim_of_commits commits] at granted
          simp at granted
        · have others : ∀ call ∈ rest, call.Produced gateway allowed :=
            fun call listed => produced call (by simp [listed])
          exact no_start_after_passed later others (next ▸ written) passed claim after permit granted
    · exact (remembers_of_run run).exclusive member granted (mem_append_left _ known) resolved

/-- In every interleaving, one attempt has one permit, and none once it was resolved as not started.
Where every committed effect comes from the machine, an attempt that the effect has left is never
started, and `Recover` never classifies a permitted attempt as not sent. -/
theorem providerStart_exclusive (run : Trace.Run (MemoryRepository.Step sha256) newMemoryRepository calls repository) :
    StartsExclusive calls ∧ ((∀ call ∈ calls, call.Produced gateway fun _ _ => True) →
      StartsFenced sha256 gateway calls) :=
  ⟨startsExclusive_of_run run, fun produced => startsFenced_of_run run produced⟩

section Sample

def startTool : ToolRegistration := sampleTool .safe 1 0

def startGateway : Gateway := sampleGateway (sampleBounds 64 4 64) startTool

/-- The sample effect after the first of these events: the dispatch, its negotiation, and the report
that it was not sent. -/
def startStage (count : Nat) : Effect :=
  (sampleRun (sampleBounds 64 4 64) startTool true
    ([.plain 1 .beginDispatch, { Event.plain 2 .negotiationRecorded with negotiation := sampleReceipt 1 true },
      failureReport 3 .definitelyNotSent].take count)).2

def startHash : Bytes → Digest := fun _ => 1

def startAuthorization : ToolAuthorizationPermit where
  proof := 1
  durable := true
  scope := sampleScope
  serverId := "s"
  toolName := "f"
  requestDigest := 1

def startDispatch : DispatchPermit where
  proof := 1
  durable := true
  scope := sampleScope
  invocationId := sampleScope.invocationId
  requestDigest := 1
  providerId := "p"
  attempt := 1
  effectRevision := 2
  authorization := startAuthorization

/-- A commit without permits and audit. -/
def plainCommit (previous next : Effect) : Operation :=
  .commit ⟨previous.revision, sampleScope, previous, next, none, none, none⟩

def dispatchOperations : List (Operation × Int) :=
  [(.admitEffect (startStage 0), 0),
    (.commitAndClaimDispatch ⟨1, sampleScope, startStage 0, startStage 1, startAuthorization⟩, 0),
    (plainCommit (startStage 1) (startStage 2), 0)]

/-- Two workers claim the start of the same attempt. -/
def twoClaims : List Call × MemoryRepository :=
  newMemoryRepository.executeAll startHash (dispatchOperations ++
    [(.claimProviderStart ⟨sampleScope, startStage 2, startDispatch, 10⟩, 1),
      (.claimProviderStart ⟨sampleScope, startStage 2, startDispatch, 10⟩, 2)])

theorem startStage_produced {count : Nat} (event : Event)
    (ok : Transition.effect <$> startGateway.apply (startStage count) event = .ok (startStage (count + 1))) :
    startGateway.Produces (fun _ _ => True) (startStage count) (startStage (count + 1)) := by
  rw [map_ok_iff] at ok
  obtain ⟨transition, ok, target⟩ := ok
  exact ⟨event, transition, ok, target, trivial⟩

theorem twoClaims_produced : ∀ call ∈ twoClaims.1, call.Produced startGateway fun _ _ => True := by
  refine fun call listed _ _ => executeAll_forall _ ?_ call listed
  simp only [dispatchOperations, cons_append, nil_append, forall_mem_cons]
  refine ⟨trivial, ?_, ?_, trivial, trivial, by simp⟩
  · exact startStage_produced (.plain 1 .beginDispatch) (by decide +kernel)
  · exact startStage_produced { Event.plain 2 .negotiationRecorded with negotiation := sampleReceipt 1 true }
      (by decide +kernel)

theorem providerStart_exclusive_twoClaims :
    (twoClaims.1.filterMap Call.startClaim).map Prod.fst = [⟨"inv_1", 1⟩, ⟨"inv_1", 1⟩] ∧
      StartsExclusive twoClaims.1 ∧ StartsFenced startHash startGateway twoClaims.1 :=
  have exclusive := providerStart_exclusive (newMemoryRepository.run_of_executeAll startHash _)
  ⟨by decide +kernel, exclusive.1, exclusive.2 twoClaims_produced⟩

/-- The attempt is reported as not sent, and then a commit that the machine never makes puts the
effect back. -/
def writtenBack : List Call × MemoryRepository :=
  newMemoryRepository.executeAll startHash (dispatchOperations ++ [(plainCommit (startStage 2) (startStage 3), 0),
      (plainCommit (startStage 3) { startStage 2 with revision := 5 }, 0),
      (.claimProviderStart ⟨sampleScope, { startStage 2 with revision := 5 }, startDispatch, 10⟩, 1)])

/-- The permit that the last call returns. -/
def latePermit : ProviderStartPermit :=
  ((writtenBack.1.filterMap Call.startClaim).map Prod.snd).headD default

/-- Where commits are arbitrary, an attempt may be started after the effect has left it. -/
theorem passed_attempt_started :
    Trace.Run (MemoryRepository.Step startHash) newMemoryRepository writtenBack.1 writtenBack.2 ∧
      ∃ past rest middle effect claim, writtenBack.1 = past ++ rest ∧
        Trace.Run (MemoryRepository.Step startHash) newMemoryRepository past middle ∧
        middle.effects "inv_1" = some effect ∧ effect.Passed 1 ∧ claim ∈ rest ∧
        claim.startClaim = some (⟨"inv_1", 1⟩, latePermit) := by
  refine ⟨newMemoryRepository.run_of_executeAll startHash _, ?_⟩
  have reached := newMemoryRepository.run_of_executeAll startHash
    (dispatchOperations ++ [(plainCommit (startStage 2) (startStage 3), 0)])
  have passed : (startStage 3).Passed 1 :=
    ⟨⟨(startStage 3).latestAttempt, by decide +kernel, by decide +kernel, trivial⟩, by decide +kernel⟩
  have granted : (⟨"inv_1", 1⟩, latePermit) ∈ (writtenBack.1.drop 4).filterMap startClaim := by
    decide +kernel
  obtain ⟨claim, member, granted⟩ := mem_filterMap.mp granted
  refine ⟨_, writtenBack.1.drop 4, _, startStage 3, claim, ?_, reached, by decide +kernel, passed, member, granted⟩
  decide +kernel

end Sample

end Runs

end Circulusd.Mcp
