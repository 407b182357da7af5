import Circulusd.Host.Storage
import Circulusd.Session.Runs

/-
The replay of public events from the archived pages and the hot journal.
-/

namespace Circulusd.Session

open Checked Host Protocol Trace Function List Option

def sessionPublicEventReplayMaxEvents : Nat := 256
def sessionHistoryEventPageSize : Nat := 16

structure SessionPublicSnapshot where
  sessionId : String
  activeTurnId : Option String
  turnStatus : Option ActiveTurnStatus
  lastEventSequence : Nat

structure SessionPublicEventReplay where
  snapshot : SessionPublicSnapshot
  events : List SessionPublicEvent

/-- The events carry the numbers from the given one on. -/
def Contiguous (first : Nat) (events : List SessionPublicEvent) : Prop :=
  events.map (·.sequence) = List.range' first events.length
deriving Decidable

def replaySessionPublicEvents (codec : Codec) (state : SessionAggregateState) (afterSequence limit : Nat)
    (archivedEvents : List SessionPublicEvent) : Checked SessionPublicEventReplay := do
  assertSessionInvariants codec state
  validatedInteger afterSequence "afterSequence" 0
  validatedInteger limit "limit" 1
  sessionErrorIf (state.publicEventSequence < afterSequence) .invalidArgument
    "afterSequence is ahead of the public event cursor"
  sessionErrorIf (sessionPublicEventReplayMaxEvents < limit) .invalidArgument
    ("limit must not exceed " ++ toString sessionPublicEventReplayMaxEvents)
  let publicActiveTurn := state.activeTurn.filter (fun turn => publiclyAdmitted state turn.turnId)
  let through := publicEventThrough state
  let archivedCount := min limit (through - afterSequence)
  sessionErrorIf (archivedEvents.length ≠ archivedCount ∨ ¬ Contiguous (afterSequence + 1) archivedEvents ∨
      ∃ event ∈ archivedEvents, through < event.sequence)
    .failedPrecondition "public replay requires its authenticated contiguous archive page"
  let hotStart := afterSequence - through
  return {
    snapshot := {
      sessionId := state.sessionId
      activeTurnId := publicActiveTurn.map (·.turnId)
      turnStatus := publicActiveTurn.map (·.status)
      lastEventSequence := state.publicEventSequence }
    events := archivedEvents ++ (state.publicEvents.drop hotStart).take (limit - archivedCount) }

structure EventPage where
  pageNumber : Nat
  events : List SessionPublicEvent
deriving DecidableEq

/-- The `public-events` entries of the history index and the rows behind them. -/
structure EventStore where
  index : Nat → Option Digest
  rows : Digest → Option EventPage

def emptyEventStore : EventStore := ⟨fun _ => none, fun _ => none⟩

def corrupt (message : String) : HostContractError := ⟨.corruptState, "Session history: " ++ message⟩

def corruptIf (condition : Prop) [Decidable condition] (message : String) : Hosted Unit :=
  refuseIf condition (corrupt message)

def eventPage (row : EventPage) (pageNumber : Nat) : Hosted EventPage := do
  corruptIf (row.pageNumber ≠ pageNumber ∨ row.events.length < 1 ∨ sessionHistoryEventPageSize < row.events.length ∨
      ¬ Contiguous (pageNumber * sessionHistoryEventPageSize + 1) row.events)
    "event page is malformed"
  return row

def EventStore.readRow (store : EventStore) (digest : Digest) : Hosted EventPage :=
  require (store.rows digest) (corrupt "indexed row header is missing or invalid")

/-- The events that the page of the watermark already holds. -/
def EventStore.priorEvents (store : EventStore) (through : Nat) : Hosted (List SessionPublicEvent) :=
  let pageNumber := through / sessionHistoryEventPageSize
  let previousDigest := store.index pageNumber
  if through % sessionHistoryEventPageSize ≠ 0 then do
    let digest ← require previousDigest (corrupt "partial event page is missing")
    let previous ← store.readRow digest
    let page ← eventPage previous pageNumber
    corruptIf (page.events.length ≠ through % sessionHistoryEventPageSize) "event page does not match its watermark"
    return page.events
  else do
    corruptIf (previousDigest ≠ none) "new event page already exists"
    return []

section Archive

variable (digestOf : EventPage → Digest) (fits : EventPage → Bool)

/-- A replaced page leaves its row; a page row has exactly one index owner. -/
def EventStore.replacePage (store : EventStore) (page : EventPage) : EventStore :=
  let digest := digestOf page
  let written := update store.rows digest (some page)
  { index := update store.index page.pageNumber (some digest)
    rows := match store.index page.pageNumber with
      | none => written
      | some previousDigest =>
        if previousDigest ≠ digest then update written previousDigest none else written }

def EventStore.appendPage (store : EventStore) (events : List SessionPublicEvent) (through : Nat) :
    Hosted EventStore := do
  let prior ← store.priorEvents through
  corruptIf (¬ Contiguous (through + 1) events) "archive events are not a contiguous prefix"
  let page : EventPage := ⟨through / sessionHistoryEventPageSize, prior ++ events⟩
  hostErrorIf (fits page = false) .invalidAggregateOutput "archive record exceeds its bounded encoding"
  return store.replacePage digestOf page

/-- The events that still fit on the page of the watermark. -/
def pageRoom (through : Nat) : Nat := sessionHistoryEventPageSize - through % sessionHistoryEventPageSize

theorem pageRoom_pos (through : Nat) : 0 < pageRoom through := by
  have := Nat.mod_lt through (show 0 < sessionHistoryEventPageSize by decide)
  unfold pageRoom
  omega

def EventStore.appendEvents (store : EventStore) (events : List SessionPublicEvent) (through : Nat) :
    Hosted EventStore :=
  if events = [] then .ok store
  else do
    let taken := events.take (pageRoom through)
    let next ← store.appendPage digestOf fits taken through
    next.appendEvents (events.drop (pageRoom through)) (through + taken.length)
termination_by events.length
decreasing_by
  rename_i nonempty
  have positive := pageRoom_pos through
  have filled := List.length_pos_iff.mpr nonempty
  rw [List.length_drop]
  omega

end Archive

/-- The last number that the page of a number holds. -/
def pageEnd (sequence : Nat) : Nat := ((sequence - 1) / sessionHistoryEventPageSize + 1) * sessionHistoryEventPageSize

theorem le_pageEnd (sequence : Nat) : sequence ≤ pageEnd sequence := by
  unfold pageEnd sessionHistoryEventPageSize
  omega

def EventStore.readPages (store : EventStore) (last sequence : Nat) : Hosted (List SessionPublicEvent) :=
  if sequence ≤ last then do
    let pageNumber := (sequence - 1) / sessionHistoryEventPageSize
    let digest ← require (store.index pageNumber) (corrupt "archived public event page is missing")
    let row ← store.readRow digest
    let page ← eventPage row pageNumber
    let stop := min last (pageEnd sequence)
    let found ← (List.range' sequence (stop + 1 - sequence)).mapM (fun number =>
      require (page.events[(number - 1) % sessionHistoryEventPageSize]?) (corrupt "archived public event is missing"))
    let rest ← store.readPages last (stop + 1)
    return found ++ rest
  else .ok []
termination_by last + 1 - sequence
decreasing_by
  have reached := le_pageEnd sequence
  omega

/-- The pure replay reports an invalid query, so the store answers it with nothing. -/
def EventStore.events (store : EventStore) (state : SessionAggregateState) (afterSequence limit : Nat) :
    Hosted (List SessionPublicEvent) :=
  if ¬ IsSafeInteger 0 afterSequence ∨ ¬ IsSafeInteger 1 limit ∨ 256 < limit then .ok []
  else store.readPages (min (publicEventThrough state) (afterSequence + limit)) (afterSequence + 1)

/-- The page with the given number of a whole journal. -/
def pageAt (events : List SessionPublicEvent) (pageNumber : Nat) : EventPage :=
  ⟨pageNumber, (events.drop (pageNumber * sessionHistoryEventPageSize)).take sessionHistoryEventPageSize⟩

/-- The store holds exactly the pages of the archived events. -/
structure EventStore.Holds (digestOf : EventPage → Digest) (store : EventStore) (events : List SessionPublicEvent) :
    Prop where
  index : ∀ pageNumber, store.index pageNumber =
    if pageNumber * sessionHistoryEventPageSize < events.length then some (digestOf (pageAt events pageNumber)) else none
  rows : ∀ pageNumber, pageNumber * sessionHistoryEventPageSize < events.length →
    store.rows (digestOf (pageAt events pageNumber)) = some (pageAt events pageNumber)

/-- The digest separates all pages that the archive of the journal writes on its way. -/
def CollisionFree (digestOf : EventPage → Digest) (events : List SessionPublicEvent) : Prop :=
  ∀ left right, left <+: events → right <+: events → ∀ first second,
    first * sessionHistoryEventPageSize < left.length → second * sessionHistoryEventPageSize < right.length →
    digestOf (pageAt left first) = digestOf (pageAt right second) → pageAt left first = pageAt right second

theorem CollisionFree.mono {digestOf : EventPage → Digest} {earlier events : List SessionPublicEvent}
    (free : CollisionFree digestOf events) (start : earlier <+: events) : CollisionFree digestOf earlier :=
  fun left right leftStart rightStart => free left right (leftStart.trans start) (rightStart.trans start)

section Pages

variable {digestOf : EventPage → Digest} {fits : EventPage → Bool} {store next : EventStore}
  {events added : List SessionPublicEvent}

theorem EventStore.replacePage_rows_self (page : EventPage) :
    (store.replacePage digestOf page).rows (digestOf page) = some page := by
  unfold EventStore.replacePage
  cases store.index page.pageNumber with
  | none => exact update_self ..
  | some previous =>
    by_cases differs : previous ≠ digestOf page
    · simp only [if_pos differs, update_of_ne (Ne.symm differs), update_self]
    · simp only [if_neg differs, update_self]

/-- A replacement touches the new row and the row that its index entry owned. -/
theorem EventStore.replacePage_rows_other (page : EventPage) (digest : Digest) (new : digest ≠ digestOf page)
    (owned : store.index page.pageNumber ≠ some digest) :
    (store.replacePage digestOf page).rows digest = store.rows digest := by
  unfold EventStore.replacePage
  cases previous : store.index page.pageNumber with
  | none => exact update_of_ne new ..
  | some previousDigest =>
    have other : digest ≠ previousDigest := fun same => owned (by rw [previous, same])
    by_cases differs : previousDigest ≠ digestOf page
    · simp only [if_pos differs, update_of_ne other, update_of_ne new]
    · simp only [if_neg differs, update_of_ne new]

/-- A page before the one of the watermark is full and stays. -/
theorem pageAt_append_before (pageNumber : Nat) (full : (pageNumber + 1) * sessionHistoryEventPageSize ≤ events.length) :
    pageAt (events ++ added) pageNumber = pageAt events pageNumber := by
  have enough : sessionHistoryEventPageSize ≤ (events.drop (pageNumber * sessionHistoryEventPageSize)).length := by
    rw [length_drop]
    unfold sessionHistoryEventPageSize at *
    omega
  unfold pageAt
  rw [drop_append_of_le_length (by unfold sessionHistoryEventPageSize at *; omega),
    take_append_of_le_length enough]

/-- The page of the watermark receives what is appended. -/
theorem pageAt_append_last (room : added.length ≤ pageRoom events.length) :
    pageAt (events ++ added) (events.length / sessionHistoryEventPageSize) =
      ⟨events.length / sessionHistoryEventPageSize,
        events.drop (events.length / sessionHistoryEventPageSize * sessionHistoryEventPageSize) ++ added⟩ := by
  unfold pageAt
  rw [drop_append_of_le_length (by unfold sessionHistoryEventPageSize; omega), take_of_length_le]
  rw [length_append, length_drop]
  unfold pageRoom sessionHistoryEventPageSize at *
  omega

theorem eventPage_ok_iff (row page : EventPage) (pageNumber : Nat) :
    eventPage row pageNumber = .ok page ↔ row = page ∧ row.pageNumber = pageNumber ∧ 1 ≤ row.events.length ∧
      row.events.length ≤ sessionHistoryEventPageSize ∧
      Contiguous (pageNumber * sessionHistoryEventPageSize + 1) row.events := by
  simp only [eventPage, corruptIf, steps_ok, not_or, not_lt]
  tauto

/-- What the page of the watermark holds is the end of the archived journal. -/
theorem EventStore.Holds.priorEvents_ok (holds : store.Holds digestOf events) {prior : List SessionPublicEvent}
    (ok : store.priorEvents events.length = .ok prior) :
    prior = events.drop (events.length / sessionHistoryEventPageSize * sessionHistoryEventPageSize) := by
  unfold EventStore.priorEvents at ok
  dsimp only at ok
  split at ok
  · next partly =>
      have inside : events.length / sessionHistoryEventPageSize * sessionHistoryEventPageSize < events.length := by
        unfold sessionHistoryEventPageSize at *
        omega
      simp only [holds.index, if_pos inside, require, ok_bind, EventStore.readRow, holds.rows _ inside,
        steps_ok, eventPage_ok_iff] at ok
      obtain ⟨_, ⟨rfl, -⟩, -, rfl⟩ := ok
      have last : pageAt (events ++ []) _ = _ := pageAt_append_last (Nat.zero_le _)
      simp only [append_nil] at last
      rw [last]
  · next whole =>
      simp only [steps_ok] at ok
      obtain ⟨-, rfl⟩ := ok
      rw [eq_comm, drop_eq_nil_iff]
      unfold sessionHistoryEventPageSize at *
      omega

/-- One page more keeps the pages in step with the journal. -/
theorem EventStore.Holds.appendPage (free : CollisionFree digestOf (events ++ added))
    (holds : store.Holds digestOf events) (nonempty : added ≠ []) (room : added.length ≤ pageRoom events.length)
    (ok : store.appendPage digestOf fits added events.length = .ok next) : next.Holds digestOf (events ++ added) := by
  simp only [EventStore.appendPage, steps_ok] at ok
  obtain ⟨prior, read, -, -, rfl⟩ := ok
  obtain rfl := holds.priorEvents_ok read
  rw [← pageAt_append_last room]
  set last := events.length / sessionHistoryEventPageSize with lastNumber
  have filled := length_pos_iff.mpr nonempty
  have number : (pageAt (events ++ added) last).pageNumber = last := rfl
  -- Pages before the last one are full and pages after it are empty, before and after.
  have cases : ∀ pageNumber, pageNumber ≠ last → (pageNumber * sessionHistoryEventPageSize < (events ++ added).length ↔
        pageNumber * sessionHistoryEventPageSize < events.length) ∧
      (pageNumber * sessionHistoryEventPageSize < events.length →
        pageAt (events ++ added) pageNumber = pageAt events pageNumber) := by
    intro pageNumber other
    rw [length_append]
    unfold pageRoom sessionHistoryEventPageSize at *
    refine ⟨by omega, fun inside => pageAt_append_before pageNumber ?_⟩
    unfold sessionHistoryEventPageSize
    omega
  have inside : last * sessionHistoryEventPageSize < (events ++ added).length := by
    rw [length_append]
    unfold sessionHistoryEventPageSize at *
    omega
  refine ⟨fun pageNumber => ?_, fun pageNumber present => ?_⟩
  · by_cases same : pageNumber = last
    · rw [same, if_pos inside]
      exact update_self ..
    · simp only [EventStore.replacePage, number, update_of_ne same, holds.index, (cases pageNumber same).1]
      split
      · next old => rw [(cases pageNumber same).2 old]
      · rfl
  · by_cases same : pageNumber = last
    · rw [same]
      exact EventStore.replacePage_rows_self _
    · have old := (cases pageNumber same).1.mp present
      -- The page with another number keeps its row, whichever row goes.
      have apart : ∀ written, written <+: events ++ added → last * sessionHistoryEventPageSize < written.length →
          digestOf (pageAt events pageNumber) ≠ digestOf (pageAt written last) := by
        intro written start present equal
        have pages := free events written (prefix_append ..) start pageNumber last old present equal
        exact same (congrArg EventPage.pageNumber pages)
      rw [(cases pageNumber same).2 old,
        EventStore.replacePage_rows_other _ _ (apart _ prefix_rfl inside), holds.rows pageNumber old]
      rw [number, holds.index]
      split
      · next present =>
          intro equal
          exact apart events (prefix_append ..) present (Option.some.inj equal).symm
      · exact some_ne_none _ |>.symm

/-- The archive of a batch continues the pages. -/
theorem EventStore.Holds.appendEvents (free : CollisionFree digestOf (events ++ added))
    (holds : store.Holds digestOf events) (ok : store.appendEvents digestOf fits added events.length = .ok next) :
    next.Holds digestOf (events ++ added) := by
  induction size : added.length using Nat.strong_induction_on generalizing store events added with
  | _ size ih =>
    unfold EventStore.appendEvents at ok
    split at ok
    · next empty =>
        cases ok
        simpa [empty] using holds
    · next nonempty =>
        have positive := pageRoom_pos events.length
        have filled := length_pos_iff.mpr nonempty
        simp only [bind_ok] at ok
        obtain ⟨middle, first, rest⟩ := ok
        have whole : events ++ added.take (pageRoom events.length) ++ added.drop (pageRoom events.length) =
            events ++ added := by rw [append_assoc, take_append_drop]
        rw [← whole] at free ⊢
        have page := holds.appendPage (free.mono (prefix_append ..)) (by simp [nonempty]; omega)
          (length_take_le ..) first
        rw [← length_append] at rest
        exact ih _ (by rw [← size, length_drop]; omega) free page rest rfl

theorem Contiguous.slice {first : Nat} (contiguous : Contiguous first events) (skipped count : Nat) :
    Contiguous (first + skipped) ((events.drop skipped).take count) := by
  unfold Contiguous at *
  rw [map_take, map_drop, contiguous]
  exact ext_getElem (by simp) (by simp)

/-- A number finds its event on the page that it belongs to. -/
theorem pageAt_getElem? (number : Nat) :
    (pageAt events (number / sessionHistoryEventPageSize)).events[number % sessionHistoryEventPageSize]? =
      events[number]? := by
  have inside := Nat.mod_lt number (show 0 < sessionHistoryEventPageSize by decide)
  rw [pageAt, getElem?_take_of_lt inside, getElem?_drop, Nat.div_add_mod']

/-- Reading numbers up to the watermark returns their events. -/
theorem EventStore.Holds.readPages (holds : store.Holds digestOf events) (contiguous : Contiguous 1 events)
    (last sequence : Nat) (archived : last ≤ events.length) (positive : 1 ≤ sequence) :
    store.readPages last sequence = .ok ((events.drop (sequence - 1)).take (last + 1 - sequence)) := by
  induction size : last + 1 - sequence using Nat.strong_induction_on generalizing sequence with
  | _ size ih =>
    unfold EventStore.readPages
    split
    · next present =>
        set pageNumber := (sequence - 1) / sessionHistoryEventPageSize with number
        have inside : pageNumber * sessionHistoryEventPageSize < events.length := by
          unfold sessionHistoryEventPageSize at *
          omega
        have page : eventPage (pageAt events pageNumber) pageNumber = .ok (pageAt events pageNumber) := by
          rw [eventPage_ok_iff]
          refine ⟨rfl, rfl, ?_, length_take_le .., ?_⟩
          · rw [pageAt, length_take, length_drop]
            unfold sessionHistoryEventPageSize at *
            omega
          · rw [Nat.add_comm]
            exact contiguous.slice _ _
        set stop := min last (pageEnd sequence) with stopped
        have reached := le_pageEnd sequence
        have found : (List.range' sequence (stop + 1 - sequence)).mapM (fun number =>
            require ((pageAt events pageNumber).events[(number - 1) % sessionHistoryEventPageSize]?)
              (corrupt "archived public event is missing")) =
            .ok ((events.drop (sequence - 1)).take (stop + 1 - sequence)) := by
          rw [mapM_ok_iff, forall₂_iff_get]
          refine ⟨by simp; omega, fun offset inRange inEvents => ?_⟩
          have before : offset < stop + 1 - sequence := by simpa using inRange
          have samePage : pageNumber = (sequence + offset - 1) / sessionHistoryEventPageSize := by
            unfold pageEnd sessionHistoryEventPageSize at *
            omega
          simp only [get_eq_getElem, getElem_range', Nat.one_mul, require_ok, samePage, pageAt_getElem?,
            getElem_take, getElem_drop]
          rw [getElem?_eq_some_iff]
          exact ⟨by omega, by congr 1; omega⟩
        have rest := ih (last + 1 - (stop + 1)) (by omega) (stop + 1) (by omega) rfl
        simp only [holds.index, if_pos inside, require, ok_bind, EventStore.readRow, holds.rows _ inside, page]
        simp only [require] at found
        rw [found, ok_bind, rest, ok_bind]
        have split : last + 1 - sequence = (stop + 1 - sequence) + (last - stop) := by omega
        have shift : stop + 1 - 1 = sequence - 1 + (stop + 1 - sequence) := by omega
        rw [← size, split, take_add, drop_drop, shift, Nat.add_sub_add_right]
        rfl
    · next absent =>
        have none : last + 1 - sequence = 0 := by omega
        simp [← size, none]

end Pages

section Replay

variable (codec : Codec) (digestOf : EventPage → Digest) (fits : EventPage → Bool)

/-- A committed application archives the events of its delta in the same transaction. -/
structure ArchivingStep (before : World × EventStore) (application : Application) (after : World × EventStore) :
    Prop where
  step : Step codec before.1 application after.1
  archived : before.2.appendEvents digestOf fits (application.result.archiveDelta.getD emptyArchive).publicEvents
    (publicEventThrough before.1.state) = .ok after.2

/-- The watermark of a valid session counts its archived events, and its cursor is a safe integer. -/
theorem World.Numbered.through {codec : Codec} {world : World} (numbered : world.Numbered)
    (valid : validateSessionState codec world.state = .ok ()) :
    publicEventThrough world.state = world.archive.publicEvents.length ∧
      world.publicEvents.length ≤ maxSafeInteger := by
  simp only [validateSessionState, assertSessionInvariants, assertSessionIdentity, assertPublicEvents, steps_ok,
    validatedInteger_ok_iff, sessionErrorIf_ok] at valid
  obtain ⟨⟨-, -, -, -, ⟨-, -, -, -, -, -, -, -, -, -, safe, -⟩, -, -, -, -, -, -, -, ⟨cursor, -⟩, -⟩, -⟩ := valid
  have total := numbered.cursor
  refine ⟨?_, total ▸ safe.2⟩
  rw [World.publicEvents, length_append] at total
  omega

/-- What a run keeps between the session and its archived pages. -/
structure InStep (state : World × EventStore) : Prop where
  valid : validateSessionState codec state.1.state = .ok ()
  numbered : state.1.Numbered
  holds : CollisionFree digestOf state.1.publicEvents → state.2.Holds digestOf state.1.archive.publicEvents

variable {codec digestOf fits}

theorem ArchivingStep.inStep {before after : World × EventStore} {application : Application}
    (step : ArchivingStep codec digestOf fits before application after) (kept : InStep codec digestOf before) :
    InStep codec digestOf after := by
  obtain ⟨step, archived⟩ := step
  obtain ⟨numbered, grown⟩ := step.numbered kept.numbered
  refine ⟨step.valid, numbered, fun free => ?_⟩
  rw [(kept.numbered.through kept.valid).1] at archived
  have moved : after.1.archive.publicEvents =
      before.1.archive.publicEvents ++ (application.result.archiveDelta.getD emptyArchive).publicEvents := by
    rw [step.moved]
    rfl
  rw [moved]
  refine (kept.holds (free.mono grown)).appendEvents ?_ archived
  rw [← moved]
  exact free.mono (prefix_append ..)

/-- The replay of a query inside the journal returns the events after its cursor. -/
theorem InStep.replay {world : World} {store : EventStore} (kept : InStep codec digestOf (world, store))
    (free : CollisionFree digestOf world.publicEvents) (afterSequence limit : Nat)
    (bounded : afterSequence ≤ world.publicEvents.length) (positive : 1 ≤ limit) (allowed : limit ≤ sessionPublicEventReplayMaxEvents) :
    ∃ archived, store.events world.state afterSequence limit = .ok archived ∧
      ∃ replay, replaySessionPublicEvents codec world.state afterSequence limit archived = .ok replay ∧
        replay.events = (world.publicEvents.drop afterSequence).take limit := by
  obtain ⟨valid, numbered, holds⟩ := kept
  dsimp only at valid numbered holds
  have holds := holds free
  obtain ⟨through, safe⟩ := numbered.through valid
  have contiguous : Contiguous 1 world.archive.publicEvents := by
    have whole : Contiguous 1 world.publicEvents := numbered.sequences
    simpa [World.publicEvents] using whole.slice 0 world.archive.publicEvents.length
  have total : world.publicEvents.length = world.archive.publicEvents.length + world.state.publicEvents.length :=
    length_append
  have cursor := numbered.cursor
  unfold sessionPublicEventReplayMaxEvents at allowed
  have large : 256 ≤ maxSafeInteger := by decide
  set archived := (world.archive.publicEvents.drop afterSequence).take limit with page
  have count : archived.length = min limit (world.archive.publicEvents.length - afterSequence) := by simp [page]
  have read : store.events world.state afterSequence limit = .ok archived := by
    rw [EventStore.events, if_neg (by unfold IsSafeInteger; omega),
      holds.readPages contiguous _ _ (through ▸ Nat.min_le_left ..) (by omega), through]
    rw [page, Nat.add_sub_cancel, Except.ok.injEq, take_eq_take_iff, length_drop]
    omega
  have invariants : assertSessionInvariants codec world.state = .ok () := by
    simp only [validateSessionState, steps_ok] at valid
    exact valid.1
  have inside : Contiguous (afterSequence + 1) archived := by
    rw [Nat.add_comm]
    exact contiguous.slice afterSequence limit
  have beneath : ∀ event ∈ archived, event.sequence ≤ world.archive.publicEvents.length := by
    intro event member
    have listed := mem_map_of_mem (f := (·.sequence)) (mem_of_mem_drop (mem_of_mem_take member))
    rw [contiguous] at listed
    have bound := (mem_range'_1.mp listed).2
    omega
  refine ⟨archived, read, ?_⟩
  simp only [replaySessionPublicEvents, invariants, ok_bind, steps_ok, validatedInteger_ok_iff, sessionErrorIf_ok]
  refine ⟨_, ⟨⟨Nat.zero_le _, by omega⟩, ⟨positive, by omega⟩, by omega, ?_, ?_, rfl⟩, ?_⟩
  · unfold sessionPublicEventReplayMaxEvents
    omega
  · rw [through]
    simpa [count, inside] using beneath
  · simp only [through, World.publicEvents, drop_append, take_append, length_drop, page]
    congr 2
    omega

/-- The archived pages and the hot journal together replay exactly the journal of the session. -/
theorem publicEventReplay_exact (codec : Codec) (digestOf : EventPage → Digest)
    (fits : EventPage → Bool) (input : CreateSessionStateInput)
    (initial : SessionAggregateState) (created : createSessionState codec input = .ok initial)
    (applications : List Application) (world : World) (store : EventStore)
    (run : Run (ArchivingStep codec digestOf fits) (⟨initial, emptyArchive⟩, emptyEventStore) applications
      (world, store)) (free : CollisionFree digestOf world.publicEvents) :
    Contiguous 1 world.publicEvents ∧
      (∀ later application, ArchivingStep codec digestOf fits (world, store) application later →
        world.publicEvents <+: later.1.publicEvents) ∧
      (∀ afterSequence limit, afterSequence ≤ world.publicEvents.length → 1 ≤ limit →
        limit ≤ sessionPublicEventReplayMaxEvents →
        ∃ archived, store.events world.state afterSequence limit = .ok archived ∧
          ∃ replay, replaySessionPublicEvents codec world.state afterSequence limit archived = .ok replay ∧
            replay.events = (world.publicEvents.drop afterSequence).take limit) ∧
      ∀ afterSequence limit archived, world.publicEvents.length < afterSequence →
        ∃ failure, replaySessionPublicEvents codec world.state afterSequence limit archived = .error failure := by
  have kept : InStep codec digestOf (world, store) := by
    refine run.invariant ?_ fun _ _ _ step kept => step.inStep kept
    obtain ⟨rfl, valid⟩ := createSessionState_ok created
    exact ⟨valid, ⟨rfl, rfl⟩, fun _ => ⟨fun _ => rfl, fun _ inside => absurd inside (Nat.not_lt_zero _)⟩⟩
  refine ⟨kept.numbered.sequences, fun later application step => (step.step.numbered kept.numbered).2,
    kept.replay free, fun afterSequence limit archived ahead => ?_⟩
  cases outcome : replaySessionPublicEvents codec world.state afterSequence limit archived with
  | error failure => exact ⟨failure, rfl⟩
  | ok replay =>
    have cursor : world.state.publicEventSequence = world.publicEvents.length := kept.numbered.cursor
    simp only [replaySessionPublicEvents, steps_ok, sessionErrorIf_ok, not_lt] at outcome
    omega

/-- The store after the batches of some applications. -/
def EventStore.follow (digestOf : EventPage → Digest) (fits : EventPage → Bool) (world : World) (store : EventStore) :
    List Application → Hosted EventStore
  | [] => .ok store
  | application :: rest => do
    let next ← store.appendEvents digestOf fits (application.result.archiveDelta.getD emptyArchive).publicEvents
      (publicEventThrough world.state)
    next.follow digestOf fits (world.applied application.result) rest

theorem Run.archiving {world last : World} {applications : List Application} {store final : EventStore}
    (run : Run (Step codec) world applications last)
    (followed : store.follow digestOf fits world applications = .ok final) :
    Run (ArchivingStep codec digestOf fits) (world, store) applications (last, final) := by
  induction run generalizing store with
  | nil =>
    cases followed
    exact .nil _
  | cons step _ ih =>
    simp only [EventStore.follow, steps_ok] at followed
    obtain ⟨next, appended, later⟩ := followed
    rw [← step.moved] at later
    exact .cons ⟨step, appended⟩ (ih later)

/-- The pages of one journal differ in their number or their length. -/
def sampleDigestOf (page : EventPage) : Digest := .ofNat 256 (page.pageNumber * 17 + page.events.length)

theorem sampleDigestOf_collisionFree {events : List SessionPublicEvent} (few : events.length ≤ 2 ^ 64) :
    CollisionFree sampleDigestOf events := by
  intro left right leftStart rightStart first second leftInside rightInside equal
  have leftLength := leftStart.length_le
  have rightLength := rightStart.length_le
  have leftPage : (pageAt left first).events.length ≤ 16 := length_take_le ..
  have rightPage : (pageAt right second).events.length ≤ 16 := length_take_le ..
  have numbers := congrArg BitVec.toNat equal
  simp only [sampleDigestOf, BitVec.toNat_ofNat, pageAt] at numbers
  simp only [pageAt] at leftPage rightPage
  unfold sessionHistoryEventPageSize at *
  rw [Nat.mod_eq_of_lt (by omega), Nat.mod_eq_of_lt (by omega)] at numbers
  obtain rfl : first = second := by omega
  have shorter := prefix_of_prefix_length_le ((leftStart.drop (first * 16)).take 16) ((rightStart.drop (first * 16)).take 16)
    (by omega)
  exact congrArg (EventPage.mk first) (shorter.eq_of_length (by omega))

/-- Eleven of the twenty events are archived, and the replay of ten reads six of them from their page. -/
theorem publicEventReplay_exact_sample :
    ∃ initial applications world store, createSessionState referenceCodec sampleInput = .ok initial ∧
      Run (ArchivingStep referenceCodec sampleDigestOf fun _ => true) (⟨initial, emptyArchive⟩, emptyEventStore)
        applications (world, store) ∧
      world.archive.publicEvents.length = 11 ∧ world.publicEvents.length = 20 ∧
      ∃ archived replay, store.events world.state 5 10 = .ok archived ∧
        replaySessionPublicEvents referenceCodec world.state 5 10 archived = .ok replay ∧
        replay.events = (world.publicEvents.drop 5).take 10 := by
  obtain ⟨applications, world, run, holds⟩ := World.exists_play referenceCodec ⟨initialState sampleInput, emptyArchive⟩
    archivingCommands (fun applications world => (emptyEventStore.follow sampleDigestOf (fun _ => true)
        ⟨initialState sampleInput, emptyArchive⟩ applications).isOk &&
      world.archive.publicEvents.length = 11 && world.publicEvents.length = 20) (by decide +kernel)
  simp only [Bool.and_eq_true, decide_eq_true_eq] at holds
  obtain ⟨⟨followed, archived⟩, total⟩ := holds
  cases outcome : emptyEventStore.follow sampleDigestOf (fun _ => true) ⟨initialState sampleInput, emptyArchive⟩
    applications with
  | error failure => simp [outcome, Except.isOk, Except.toBool] at followed
  | ok store =>
    have archiving := Run.archiving run outcome
    obtain ⟨read, events, replay, replayed, exact⟩ := (publicEventReplay_exact referenceCodec _ _ sampleInput _
      sampleInput_created applications world store archiving (sampleDigestOf_collisionFree (by omega))).2.2.1 5 10
      (by omega) (by decide) (by decide)
    exact ⟨_, applications, world, store, sampleInput_created, archiving, archived, total, read, replay, events, replayed,
      exact⟩

end Replay

end Circulusd.Session
