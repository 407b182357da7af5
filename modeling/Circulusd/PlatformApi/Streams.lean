import Circulusd.PlatformApi.Store

/-
A run only extends a session: its events are numbered without a gap, and each channel follows them
until it is closed.
-/

namespace Circulusd.PlatformApi

open Checked KeyValue Platform Function List Option

/-- The sequences of the events grow by one from the first. -/
def Numbered (first : Nat) (events : List Event) : Prop :=
  ∀ index event, events[index]? = some event → event.sequence = first + index

namespace MemorySession

/-- What a session keeps through every call, given how many streams were opened. Before the counter of the
subscribers wraps, every channel has a number that it has passed. -/
structure Sound (opened : Nat) (session : MemorySession) : Prop where
  sequences : Numbered 1 session.events
  last : session.snapshot.lastDurableSequence = session.events.length
  counted : session.nextSubscriberId.toNat ≤ opened
  numbers : opened < 2 ^ 64 → ∀ id channel, session.channels id = some channel → id ≤ session.nextSubscriberId

/-- A later state of a session with the events appended in between. -/
structure Continues (distinct : Prop) (added : List Event) (before after : MemorySession) : Prop where
  events : after.events = before.events ++ added
  receipts : ∀ id receipt, before.eventReceipts id = some receipt → after.eventReceipts id = some receipt
  channels : distinct → ∀ id channel, before.channels id = some channel →
    ∃ next, after.channels id = some next ∧ channel.Continues (·.durable) added next

section Sessions

variable {before middle after session : MemorySession} {first second added : List Event} {distinct weaker : Prop}
  {opened more : Nat}

theorem Sound.mono (sound : session.Sound opened) (grown : opened ≤ more) : session.Sound more where
  sequences := sound.sequences
  last := sound.last
  counted := sound.counted.trans grown
  numbers below := sound.numbers (grown.trans_lt below)

theorem Continues.mono (continues : before.Continues weaker added after) (given : distinct → weaker) :
    before.Continues distinct added after where
  events := continues.events
  receipts := continues.receipts
  channels holds := continues.channels (given holds)

/-- What two steps deliver comes one after the other. -/
theorem Continues.trans (earlier : before.Continues distinct first middle)
    (later : middle.Continues distinct second after) : before.Continues distinct (first ++ second) after where
  events := by rw [later.events, earlier.events, append_assoc]
  receipts id receipt known := later.receipts id receipt (earlier.receipts id receipt known)
  channels holds id channel known := by
    obtain ⟨between, there, continues⟩ := earlier.channels holds id channel known
    obtain ⟨next, found, follows⟩ := later.channels holds id between there
    exact ⟨next, found, continues.trans follows⟩

/-- Only the fields that readers and channels depend on matter. -/
theorem Continues.of_same (events : after.events = before.events)
    (receipts : after.eventReceipts = before.eventReceipts) (channels : after.channels = before.channels) :
    before.Continues distinct [] after where
  events := by simp [events]
  receipts id receipt known := by rwa [receipts]
  channels _ id channel known := ⟨channel, by rwa [channels], .refl channel⟩

theorem Sound.eachChannel (sound : session.Sound opened) (change : UInt64 → Channel Event → Channel Event) :
    (session.eachChannel change).Sound opened where
  sequences := sound.sequences
  last := sound.last
  counted := sound.counted
  numbers below id channel known := by
    obtain ⟨prior, there, -⟩ := map_eq_some_iff.mp known
    exact sound.numbers below id prior there

theorem Continues.eachChannel {change : UInt64 → Channel Event → Channel Event}
    (events : session.events = before.events ++ added)
    (receipts : ∀ id receipt, before.eventReceipts id = some receipt → session.eventReceipts id = some receipt)
    (channels : session.channels = before.channels)
    (each : ∀ id (channel : Channel Event), channel.Continues (·.durable) added (change id channel)) :
    before.Continues distinct added (session.eachChannel change) where
  events := events
  receipts := receipts
  channels _ id channel known := ⟨change id channel, by simp [MemorySession.eachChannel, channels, known], each id channel⟩

/-- While the counter does not wrap, the next number is above those given out. -/
theorem Sound.lt_next (sound : session.Sound opened) (below : opened + 1 < 2 ^ 64) {id : UInt64}
    (passed : id ≤ session.nextSubscriberId) : id < session.nextSubscriberId + 1 := by
  have counted := sound.counted
  rw [UInt64.le_iff_toNat_le] at passed
  rw [UInt64.lt_iff_toNat_lt, UInt64.toNat_add, UInt64.toNat_one, Nat.mod_eq_of_lt (by omega)]
  omega

/-- A new subscriber is one more opening. -/
theorem Sound.subscribe (sound : session.Sound opened) : session.subscribe.Sound (opened + 1) where
  sequences := sound.sequences
  last := sound.last
  counted := by
    have counted := sound.counted
    rw [MemorySession.subscribe, UInt64.toNat_add, UInt64.toNat_one]
    exact (Nat.mod_le ..).trans (Nat.succ_le_succ counted)
  numbers below id channel known := by
    rcases update_eq_some known with ⟨rfl, -⟩ | ⟨-, there⟩
    · exact UInt64.le_refl _
    · exact UInt64.le_of_lt (sound.lt_next below (sound.numbers (Nat.lt_of_succ_lt below) id channel there))

/-- A new subscriber has a new number, so it takes no one's place. -/
theorem Sound.continues_subscribe (sound : session.Sound opened) :
    session.Continues (opened + 1 < 2 ^ 64) [] session.subscribe where
  events := by simp [MemorySession.subscribe]
  receipts _ _ known := known
  channels below id channel known := by
    have passed := sound.lt_next below (sound.numbers (Nat.lt_of_succ_lt below) id channel known)
    exact ⟨channel, (update_of_ne (UInt64.ne_of_lt passed) _ _).trans known, .refl channel⟩

theorem Sound.create (sound : session.Sound opened) (command : CreateTurnCommand) :
    (session.create command).Sound opened where
  sequences := sound.sequences
  last := by
    unfold MemorySession.create
    dsimp only
    split <;> exact sound.last
  counted := sound.counted
  numbers := sound.numbers

theorem Sound.record (sound : session.Sound opened) (command : AppendEventCommand) (turn : Turn) {event : Event}
    (sequence : event.sequence = session.events.length + 1) : (session.record command turn event).Sound opened where
  sequences index found known := by
    rw [MemorySession.record, getElem?_append] at known
    split at known
    next => exact sound.sequences index found known
    next beyond =>
      simp only [getElem?_singleton, ite_none_right_eq_some, some.injEq] at known
      obtain ⟨position, rfl⟩ := known
      omega
  last := by simp [MemorySession.record, sequence]
  counted := sound.counted
  numbers := sound.numbers

/-- A command without a receipt adds its event and its receipt. -/
theorem Continues.record {command : AppendEventCommand} {turn : Turn} {event : Event}
    (fresh : session.eventReceipts command.commandId = none) (durable : event.durable = true) :
    session.Continues distinct [event] ((session.record command turn event).publishLocked event) := by
  refine .eachChannel rfl (fun id receipt known => ?_) rfl fun id channel => ?_
  · have other : id ≠ command.commandId := by
      rintro rfl
      simp [fresh] at known
    exact (update_of_ne other _ _).trans known
  · simpa [durable] using channel.continues_offer (·.durable) 64 event

/-- A front part of the events after a cursor is numbered from the cursor on. -/
theorem Sound.numbered (sound : session.Sound opened) {cursor : Nat} {events : List Event}
    (front : events <+: session.events.drop cursor) : Numbered (cursor + 1) events := by
  intro index event known
  obtain ⟨rest, whole⟩ := front
  have within := (List.getElem?_eq_some_iff.mp known).1
  have there : (session.events.drop cursor)[index]? = some event := by rwa [← whole, List.getElem?_append_left within]
  rw [List.getElem?_drop] at there
  have := sound.sequences _ event there
  omega

end Sessions

end MemorySession

namespace MemoryStore

def Sound (opened : Nat) (store : MemoryStore) : Prop :=
  ∀ id session, store.sessions id = some session → session.Sound opened

/-- A later state of the store, after so many openings in all. -/
structure Leads (opened : Nat) (before after : MemoryStore) : Prop where
  sound : after.Sound opened
  continues : ∀ id session, before.sessions id = some session →
    ∃ next added, after.sessions id = some next ∧ session.Continues (opened < 2 ^ 64) added next

section Steps

variable {store before middle after : MemoryStore} {parse : Kind → String → Bool} {session next : MemorySession}
  {turn : Turn} {event : Event} {command : AppendEventCommand} {query : ReplayQuery} {stream : EventStream}
  {existing : Bool} {sessionId : String} {opened more : Nat}

theorem Sound.leads (sound : store.Sound opened) (grown : opened ≤ more) : store.Leads more store where
  sound id session known := (sound id session known).mono grown
  continues _ session known := ⟨session, [], known, .of_same rfl rfl rfl⟩

/-- Two runs after each other are one. -/
theorem Leads.trans (earlier : before.Leads opened middle) (grown : opened ≤ more) (later : middle.Leads more after) :
    before.Leads more after where
  sound := later.sound
  continues id session known := by
    obtain ⟨between, first, there, continues⟩ := earlier.continues id session known
    obtain ⟨next, second, found, follows⟩ := later.continues id between there
    exact ⟨next, first ++ second, found, (continues.mono grown.trans_lt).trans follows⟩

/-- A call changes one session, which may be new. -/
theorem Sound.put (sound : store.Sound opened) (grown : opened ≤ more) (whole : next.Sound more)
    (continues : ∀ session, store.sessions sessionId = some session →
      ∃ added, session.Continues (more < 2 ^ 64) added next) :
    store.Leads more (store.put sessionId next) where
  sound id session known := by
    rcases update_eq_some known with ⟨-, rfl⟩ | ⟨-, there⟩
    · exact whole
    · exact (sound id session there).mono grown
  continues id session known := by
    by_cases same : id = sessionId
    · subst same
      obtain ⟨added, follows⟩ := continues session known
      exact ⟨next, added, update_self .., follows⟩
    · exact ⟨session, [], (update_of_ne same _ _).trans known, .of_same rfl rfl rfl⟩

theorem Sound.putOver {added : List Event} (sound : store.Sound opened) (grown : opened ≤ more)
    (known : store.sessions sessionId = some session) (whole : next.Sound more)
    (continues : session.Continues (more < 2 ^ 64) added next) : store.Leads more (store.put sessionId next) := by
  refine sound.put grown whole fun other found => ⟨added, ?_⟩
  cases known.symm.trans found
  exact continues

/-- Channels change and no event is appended. -/
theorem Sound.putEach (sound : store.Sound opened) (known : store.sessions sessionId = some session)
    {change : UInt64 → Channel Event → Channel Event}
    (each : ∀ id (channel : Channel Event), channel.Continues (·.durable) [] (change id channel)) :
    store.Leads opened (store.put sessionId (session.eachChannel change)) :=
  sound.putOver le_rfl known ((sound _ _ known).eachChannel change)
    (.eachChannel (append_nil _).symm (fun _ _ there => there) rfl each)

theorem authorizedSession_known {authority : EventAuthority}
    (ok : store.authorizedSession authority = .ok (session, turn)) :
    store.sessions authority.scope.sessionId = some session := by
  simp only [authorizedSession, steps_ok] at ok
  obtain ⟨found, known, -, -, -, -, -, rfl, -⟩ := ok
  exact known

theorem readableSession_known (ok : store.readableSession query = .ok session) :
    store.sessions query.sessionId = some session := by
  simp only [readableSession, steps_ok] at ok
  obtain ⟨found, known, -, rfl⟩ := ok
  exact known

/-- What a successful append did, for a new command and for a repeated one. -/
theorem appendDurableEvent_ok (ok : store.appendDurableEvent command = .ok (after, event, existing)) :
    ∃ session turn, store.authorizedSession command.authority = .ok (session, turn) ∧
      (session.eventReceipts command.commandId = some ⟨command.commandDigest, event⟩ ∧ existing = true ∧ after = store ∨
        session.eventReceipts command.commandId = none ∧ existing = false ∧
          event = ⟨session.events.length + 1, command.authority.scope.turnId, command.type, command.payload, true⟩ ∧
          after = store.put command.authority.scope.sessionId
            ((session.record command turn event).publishLocked event)) := by
  simp only [appendDurableEvent, bind_ok] at ok
  obtain ⟨⟨session, turn⟩, authorized, ok⟩ := ok
  refine ⟨session, turn, authorized, ?_⟩
  split at ok <;> simp only [steps_ok] at ok
  next receipt found =>
    obtain ⟨same, rfl, rfl, rfl⟩ := ok
    exact .inl ⟨by rw [found, ← same], rfl, rfl⟩
  next absent =>
    obtain ⟨-, -, rfl, rfl, rfl⟩ := ok
    exact .inr ⟨absent, rfl, rfl, rfl⟩

theorem rotateAuthorizationGeneration_ok {tenantId subjectId : String} {expected following : Nat}
    (ok : store.rotateAuthorizationGeneration parse tenantId subjectId sessionId expected following = .ok after) :
    ∃ session, store.sessions sessionId = some session ∧ after = store.put sessionId (session.rotate following) := by
  simp only [rotateAuthorizationGeneration, steps_ok] at ok
  obtain ⟨-, session, known, -, -, rfl⟩ := ok
  exact ⟨session, known, rfl⟩

section Calls

variable (sound : store.Sound opened)
include sound

theorem registerSession_leads {registration : SessionRegistration}
    (ok : store.registerSession parse registration = .ok after) : store.Leads opened after := by
  simp only [registerSession, steps_ok] at ok
  obtain ⟨-, ok⟩ := ok
  split at ok <;> simp only [steps_ok] at ok
  next =>
    obtain ⟨-, rfl⟩ := ok
    exact sound.leads le_rfl
  next absent =>
    subst ok
    exact sound.put le_rfl ⟨by simp [newSession, Numbered], rfl, Nat.zero_le _, by simp [newSession]⟩
      fun _ known => by simp [absent] at known

theorem createTurn_leads {command : CreateTurnCommand} (ok : store.createTurn command = .ok (after, turn, existing)) :
    store.Leads opened after := by
  simp only [createTurn, steps_ok] at ok
  obtain ⟨session, known, -, -, ok⟩ := ok
  split at ok <;> simp only [steps_ok] at ok
  next =>
    obtain ⟨-, rfl, -⟩ := ok
    exact sound.leads le_rfl
  next =>
    obtain ⟨-, -, rfl, -⟩ := ok
    -- The table of all turns plays no part in what the sessions hold.
    have leads := sound.putOver le_rfl known ((sound _ _ known).create command) (.of_same rfl rfl rfl)
    exact ⟨leads.sound, leads.continues⟩

theorem appendDurableEvent_leads (ok : store.appendDurableEvent command = .ok (after, event, existing)) :
    store.Leads opened after := by
  obtain ⟨session, turn, authorized, ⟨-, -, rfl⟩ | ⟨fresh, -, made, rfl⟩⟩ := appendDurableEvent_ok ok
  · exact sound.leads le_rfl
  · have known := authorizedSession_known authorized
    have numbered : event.sequence = session.events.length + 1 := by rw [made]
    exact sound.putOver le_rfl known (((sound _ _ known).record command turn numbered).eachChannel _)
      (.record fresh (by rw [made]))

theorem publishEphemeralEvent_leads {authority : EventAuthority}
    (ok : store.publishEphemeralEvent authority event = .ok after) : store.Leads opened after := by
  simp only [publishEphemeralEvent, steps_ok, not_or] at ok
  obtain ⟨⟨session, turn⟩, authorized, ⟨passing, -⟩, rfl⟩ := ok
  refine sound.putEach (authorizedSession_known authorized) fun _ channel => ?_
  simpa [passing] using channel.continues_offer (·.durable) 64 event

theorem openEventStream_leads (ok : store.openEventStream query = .ok (after, stream)) :
    store.Leads (opened + 1) after := by
  simp only [openEventStream, bind_ok] at ok
  obtain ⟨session, readable, replay, -, ok⟩ := ok
  split at ok <;> obtain ⟨rfl, -⟩ := pair_ok ok
  · have known := readableSession_known readable
    exact sound.putOver (Nat.le_succ _) known (sound _ _ known).subscribe (sound _ _ known).continues_subscribe
  · exact sound.leads (Nat.le_succ _)

theorem onChannel_leads {subscriberId : UInt64} {change : Channel Event → Channel Event}
    (each : ∀ channel : Channel Event, channel.Continues (·.durable) [] (change channel)) :
    store.Leads opened (store.onChannel sessionId subscriberId change) := by
  unfold onChannel
  split
  next => exact sound.leads le_rfl
  next session known =>
    refine sound.putEach known fun id channel => ?_
    split
    · exact each channel
    · exact .refl channel

theorem rotateAuthorizationGeneration_leads {tenantId subjectId : String} {expected following : Nat}
    (ok : store.rotateAuthorizationGeneration parse tenantId subjectId sessionId expected following = .ok after) :
    store.Leads opened after := by
  obtain ⟨session, known, rfl⟩ := rotateAuthorizationGeneration_ok ok
  have whole := (sound _ _ known).eachChannel fun _ => .close
  exact sound.putOver le_rfl known ⟨whole.sequences, whole.last, whole.counted, whole.numbers⟩
    (.eachChannel (append_nil _).symm (fun _ _ there => there) rfl fun _ _ => .of_sent_eq rfl fun _ => rfl)

omit sound in
theorem resume_holds {Answer : Type} (holds : MemoryStore → Prop) (same : holds store) {answer : Except Failure Answer}
    {next : Answer → MemoryStore} (each : ∀ value, answer = .ok value → holds (next value)) :
    holds (store.resume answer next) := by
  unfold resume
  split
  next value => exact each value rfl
  next => exact same

/-- One call keeps the store sound and only extends its sessions. -/
theorem apply_leads (call : Call) : store.Leads (opened + call.openings) (store.apply parse call) := by
  have same : store.Leads (opened + call.openings) store := sound.leads (Nat.le_add_right ..)
  cases call with
  | registerSession => exact resume_holds _ same fun _ ok => registerSession_leads sound ok
  | createTurn => exact resume_holds _ same fun _ ok => createTurn_leads sound ok
  | appendDurableEvent => exact resume_holds _ same fun _ ok => appendDurableEvent_leads sound ok
  | publishEphemeralEvent => exact resume_holds _ same fun _ ok => publishEphemeralEvent_leads sound ok
  | replayEvents => exact resume_holds _ same fun _ _ => same
  | openEventStream => exact resume_holds _ same fun _ ok => openEventStream_leads sound ok
  | close => exact onChannel_leads sound fun _ => .of_sent_eq rfl fun _ => rfl
  | receive => exact onChannel_leads sound Channel.continues_receive
  | rotateAuthorizationGeneration =>
    exact resume_holds _ same fun _ ok => rotateAuthorizationGeneration_leads sound ok

/-- A run leads on from any sound store. -/
theorem run_leads (calls : List Call) :
    store.Leads (opened + (calls.map Call.openings).sum) (store.run parse calls) := by
  induction calls generalizing store opened with
  | nil => exact sound.leads le_rfl
  | cons call rest ih =>
    have first : store.Leads (opened + call.openings) (store.apply parse call) := apply_leads sound call
    rw [map_cons, sum_cons, ← Nat.add_assoc]
    exact first.trans (Nat.le_add_right ..) (ih first.sound)

end Calls

/-- Every store that is reached is sound. -/
theorem run_sound (calls : List Call) : (newMemoryStore.run parse calls).Sound (calls.map Call.openings).sum := by
  have empty : newMemoryStore.Sound 0 := fun _ _ known => absurd known (by simp [newMemoryStore])
  simpa using (run_leads empty calls).sound

end Steps

/-- The channel of a subscriber. -/
def channel (store : MemoryStore) (sessionId : String) (subscriberId : UInt64) : Option (Channel Event) :=
  (store.sessions sessionId).bind (·.channels subscriberId)

/-- The channel is closed and was sent nothing more. -/
def Ended (store : MemoryStore) (sessionId : String) (subscriberId : UInt64) (channel : Channel Event) : Prop :=
  ∃ next, store.channel sessionId subscriberId = some next ∧ next.closed = true ∧ next.sent = channel.sent

section Streams

variable {store changed after : MemoryStore} {session : MemorySession} {query : ReplayQuery} {replay : EventReplay}
  {stream : EventStream} {sessionId : String} {subscriberId : UInt64} {line : Channel Event} {command : AppendEventCommand}
  {event : Event} {count : Nat}

theorem channel_eq (known : store.sessions sessionId = some session) :
    store.channel sessionId subscriberId = session.channels subscriberId := by
  rw [channel, known, bind_some]

theorem Leads.channel_continues (leads : store.Leads count after) (below : count < 2 ^ 64)
    (there : store.channel sessionId subscriberId = some line) :
    ∃ next added, after.channel sessionId subscriberId = some next ∧ line.Continues (·.durable) added next := by
  obtain ⟨session, known, member⟩ := bind_eq_some_iff.mp there
  obtain ⟨later, added, found, continues⟩ := leads.continues sessionId session known
  obtain ⟨next, present, follows⟩ := continues.channels below subscriberId line member
  exact ⟨next, added, (channel_eq found).trans present, follows⟩

/-- A closed channel stays closed. -/
theorem Leads.ended (leads : store.Leads count after) (below : count < 2 ^ 64) {channel : Channel Event}
    (there : store.channel sessionId subscriberId = some line) (closed : line.closed = true)
    (same : line.sent = channel.sent) : after.Ended sessionId subscriberId channel := by
  obtain ⟨next, added, found, continues⟩ := leads.channel_continues below there
  obtain ⟨still, kept⟩ := continues.closed_sent closed
  exact ⟨next, found, still, kept.trans same⟩

theorem lastReplayed_eq (replay : EventReplay) (numbered : Numbered (query.afterSequence + 1) replay.events) :
    lastReplayed query replay = query.afterSequence + replay.events.length := by
  unfold lastReplayed
  split
  next event found =>
    have last := numbered _ event (getLast?_eq_getElem? ▸ found)
    have nonempty : replay.events ≠ [] := by
      intro empty
      simp [empty] at found
    have := length_pos_iff.mpr nonempty
    omega
  next absent => simp [getLast?_eq_none_iff.mp absent]

/-- A replay that reaches the last event is all that follows its cursor. -/
theorem replayLocked_caughtUp (sound : session.Sound count) (ok : session.replayLocked query = .ok replay)
    (reached : lastReplayed query replay = replay.snapshot.lastDurableSequence) :
    query.afterSequence ≤ session.events.length ∧ replay.events = session.events.drop query.afterSequence := by
  simp only [MemorySession.replayLocked, steps_ok, not_lt] at ok
  obtain ⟨-, within, -, rfl⟩ := ok
  have front := take_prefix query.limit.toNat (session.events.drop query.afterSequence)
  have count := lastReplayed_eq ⟨session.snapshot, _⟩ (sound.numbered front)
  rw [reached] at count
  dsimp only at count
  rw [sound.last] at count
  refine ⟨within, front.eq_of_length ?_⟩
  rw [length_drop]
  omega

/-- What a caught-up stream gave and its channel delivered has no gap. -/
theorem openEventStream_follows {earlier : Nat} (sound : store.Sound earlier)
    (ok : store.openEventStream query = .ok (changed, stream)) (caughtUp : stream.caughtUp = true)
    (leads : changed.Leads count after) (below : count < 2 ^ 64) :
    ∃ subscriber channel, stream.subscription = some subscriber ∧
      after.channel query.sessionId subscriber = some channel ∧
      Numbered (query.afterSequence + 1) (stream.replay.events ++ channel.received.filter (·.durable)) := by
  simp only [openEventStream, bind_ok] at ok
  obtain ⟨session, readable, replay, replayed, ok⟩ := ok
  split at ok <;> obtain ⟨rfl, rfl⟩ := pair_ok ok
  next reached =>
    have known := readableSession_known readable
    obtain ⟨within, whole⟩ := replayLocked_caughtUp (sound _ _ known) replayed reached
    obtain ⟨final, added, found, continues⟩ := leads.continues _ _ (update_self ..)
    obtain ⟨channel, present, more, sent, -, front, -⟩ := continues.channels below _ _ (update_self ..)
    refine ⟨_, channel, rfl, (channel_eq found).trans present, (leads.sound _ _ found).numbered ?_⟩
    have delivered : channel.received.filter (·.durable) <+: added := by
      refine List.IsPrefix.trans ?_ front
      rw [Channel.received, sent]
      exact List.IsPrefix.filter _ <| take_prefix _ more
    rw [whole, continues.events, MemorySession.subscribe, drop_append_of_le_length within]
    exact (prefix_append_right_inj _).mpr delivered
  next => exact absurd caughtUp (by simp)

/-- An open channel is sent the event or ends. -/
theorem appendDurableEvent_reaches (ok : store.appendDurableEvent command = .ok (changed, event, false))
    (there : store.channel command.authority.scope.sessionId subscriberId = some line) (opened : line.closed = false)
    (leads : changed.Leads count after) (below : count < 2 ^ 64) :
    (∃ next, after.channel command.authority.scope.sessionId subscriberId = some next ∧
      line.sent ++ [event] <+: next.sent) ∨ after.Ended command.authority.scope.sessionId subscriberId line := by
  obtain ⟨session, turn, authorized, ⟨-, impossible, -⟩ | ⟨-, -, made, rfl⟩⟩ := appendDurableEvent_ok ok
  · simp at impossible
  rw [channel_eq (authorizedSession_known authorized)] at there
  have offered : (store.put command.authority.scope.sessionId
      ((session.record command turn event).publishLocked event)).channel command.authority.scope.sessionId subscriberId =
        some (line.offer 64 (·.durable) event) := by
    rw [channel_eq (update_self ..)]
    simp [MemorySession.publishLocked, MemorySession.eachChannel, MemorySession.record, there]
  have durable : event.durable = true := by rw [made]
  rcases Channel.offer_required (·.durable) 64 durable opened with sent | ⟨shut, same⟩
  · obtain ⟨next, added, found, more, extended, -⟩ := leads.channel_continues below offered
    exact .inl ⟨next, found, more, by rw [extended, sent]⟩
  · exact .inr (leads.ended below offered shut same)

theorem rotateAuthorizationGeneration_ends {parse : Kind → String → Bool} {tenantId subjectId : String}
    {expected following : Nat}
    (ok : store.rotateAuthorizationGeneration parse tenantId subjectId sessionId expected following = .ok changed)
    (there : store.channel sessionId subscriberId = some line) (leads : changed.Leads count after)
    (below : count < 2 ^ 64) :
    after.Ended sessionId subscriberId line := by
  obtain ⟨session, known, rfl⟩ := rotateAuthorizationGeneration_ok ok
  rw [channel_eq known] at there
  have shut : (store.put sessionId (session.rotate following)).channel sessionId subscriberId = some line.close := by
    rw [channel_eq (update_self ..)]
    simp [MemorySession.rotate, MemorySession.eachChannel, there]
  exact leads.ended below shut rfl rfl

/-- The receipt of a command stands in every later state. -/
theorem appendDurableEvent_receipt {existing : Bool}
    (ok : store.appendDurableEvent command = .ok (changed, event, existing)) (leads : changed.Leads count after) :
    ∃ session, after.sessions command.authority.scope.sessionId = some session ∧
      session.eventReceipts command.commandId = some ⟨command.commandDigest, event⟩ := by
  obtain ⟨session, turn, authorized, ⟨found, -, rfl⟩ | ⟨-, -, -, rfl⟩⟩ := appendDurableEvent_ok ok
  · obtain ⟨next, added, known, continues⟩ := leads.continues _ _ (authorizedSession_known authorized)
    exact ⟨next, known, continues.receipts _ _ found⟩
  · obtain ⟨next, added, known, continues⟩ := leads.continues _ _ (update_self ..)
    exact ⟨next, known, continues.receipts _ _ (update_self ..)⟩

/-- A command with a receipt is answered from it. -/
theorem appendDurableEvent_repeated {receipt : EventReceipt}
    (known : store.sessions command.authority.scope.sessionId = some session)
    (found : session.eventReceipts command.commandId = some receipt) {answer : MemorySession × Turn}
    (authorized : store.authorizedSession command.authority = .ok answer) :
    store.appendDurableEvent command =
      if command.commandDigest = receipt.commandDigest then .ok (store, receipt.event, true)
      else .error .idempotencyConflict := by
  obtain rfl : answer.1 = session := Option.some.inj ((authorizedSession_known authorized).symm.trans known)
  simp only [appendDurableEvent, authorized, ok_bind, found, refuseIf, ne_eq, ite_not, eq_comm]
  split <;> rfl

end Streams

end MemoryStore

open MemoryStore

/-- Whatever calls came before and come after: the events of a session are numbered from one, and a repeated
command appends nothing and is answered from the receipt. As long as fewer than `2 ^ 64` streams are opened,
so that no two subscribers have one number, a caught-up stream and its subscription give the events after the
cursor without a gap, and a subscriber that misses an event, and every subscriber at a rotation, is closed and
is sent nothing any more. -/
theorem event_streams_follow (parse : Kind → String → Bool) (earlier later : List Call) (store : MemoryStore)
    (reached : store = newMemoryStore.run parse earlier) :
    (∀ sessionId session, store.sessions sessionId = some session → Numbered 1 session.events) ∧
    (((earlier ++ later).map Call.openings).sum + 1 < 2 ^ 64 →
      (∀ query opened stream, store.openEventStream query = .ok (opened, stream) → stream.caughtUp = true →
        ∃ subscriber channel, stream.subscription = some subscriber ∧
          (opened.run parse later).channel query.sessionId subscriber = some channel ∧
          Numbered (query.afterSequence + 1) (stream.replay.events ++ channel.received.filter (·.durable))) ∧
      (∀ command appended event, store.appendDurableEvent command = .ok (appended, event, false) →
        ∀ subscriber channel, store.channel command.authority.scope.sessionId subscriber = some channel →
          channel.closed = false →
          (∃ next, (appended.run parse later).channel command.authority.scope.sessionId subscriber = some next ∧
            channel.sent ++ [event] <+: next.sent) ∨
          (appended.run parse later).Ended command.authority.scope.sessionId subscriber channel) ∧
      ∀ tenantId subjectId sessionId expected following rotated,
        store.rotateAuthorizationGeneration parse tenantId subjectId sessionId expected following = .ok rotated →
        ∀ subscriber channel, store.channel sessionId subscriber = some channel →
          (rotated.run parse later).Ended sessionId subscriber channel) ∧
    ∀ command appended event existing, store.appendDurableEvent command = .ok (appended, event, existing) →
      ∀ repeated : AppendEventCommand, repeated.commandId = command.commandId →
        repeated.authority.scope.sessionId = command.authority.scope.sessionId →
        ∀ final, final = appended.run parse later → final.apply parse (.appendDurableEvent repeated) = final ∧
          ∀ answer, final.authorizedSession repeated.authority = .ok answer →
            final.appendDurableEvent repeated =
              if repeated.commandDigest = command.commandDigest then .ok (final, event, true)
              else .error .idempotencyConflict := by
  have sound : store.Sound (earlier.map Call.openings).sum := reached ▸ run_sound earlier
  refine ⟨fun sessionId session known => (sound sessionId session known).sequences, fun few => ⟨?_, ?_, ?_⟩, ?_⟩
  · intro query opened stream ok caughtUp
    rw [map_append, sum_append] at few
    exact openEventStream_follows sound ok caughtUp (run_leads (openEventStream_leads sound ok).sound later) (by omega)
  · intro command appended event ok subscriber channel there isOpen
    rw [map_append, sum_append] at few
    exact appendDurableEvent_reaches ok there isOpen (run_leads (appendDurableEvent_leads sound ok).sound later)
      (by omega)
  · intro tenantId subjectId sessionId expected following rotated ok subscriber channel there
    rw [map_append, sum_append] at few
    exact rotateAuthorizationGeneration_ends ok there
      (run_leads (rotateAuthorizationGeneration_leads sound ok).sound later) (by omega)
  · rintro command appended event existing ok repeated sameCommand sameSession final rfl
    obtain ⟨session, known, receipt⟩ :=
      appendDurableEvent_receipt ok (run_leads (appendDurableEvent_leads sound ok).sound later)
    rw [← sameSession] at known
    rw [← sameCommand] at receipt
    refine ⟨resume_holds (· = _) rfl fun value accepted => ?_, fun answer authorized =>
      appendDurableEvent_repeated known receipt authorized⟩
    obtain ⟨found, turn, authorized, -⟩ := appendDurableEvent_ok accepted
    rw [appendDurableEvent_repeated known receipt authorized] at accepted
    split at accepted
    · rw [← Except.ok.inj accepted]
    · simp at accepted

def sampleAuthority : EventAuthority := ⟨⟨"tenant", "user", "session", "turn", "revision", "workspace"⟩, 1, 1⟩

def sampleCommand (commandDigest : String) : AppendEventCommand :=
  ⟨sampleAuthority, "command", commandDigest, 0, .turnAccepted, "payload", .active⟩

def samplePermit (operation : Operation) : AuthorizationPermit := ⟨operation, ⟨"tenant", "user"⟩, "session", 1, 1⟩

/-- A session with one queued turn. -/
def sampleCalls : List Call :=
  [.registerSession ⟨"tenant", "user", "session", "revision", "workspace", 1, 1⟩,
    .createTurn ⟨"tenant", "user", "session", "key", "request", ⟨"turn", "tenant", "user", "session", "request", .queued⟩,
      samplePermit .createTurn⟩]

def sampleStore : MemoryStore := newMemoryStore.run (fun _ _ => true) sampleCalls

def sampleQuery : ReplayQuery := ⟨"tenant", "user", "session", 0, 1, samplePermit .readEvents⟩

theorem event_streams_follow_sample :
    ∃ opened stream, sampleStore.openEventStream sampleQuery = .ok (opened, stream) ∧
      ∃ subscriber channel, stream.subscription = some subscriber ∧
        (opened.run (fun _ _ => true) [.appendDurableEvent (sampleCommand "digest"), .receive "session" 1]).channel
          "session" subscriber = some channel ∧
        Numbered 1 (stream.replay.events ++ channel.received.filter (·.durable)) :=
  ⟨_, _, rfl, ((event_streams_follow (fun _ _ => true) sampleCalls _ sampleStore rfl).2.1 (by decide)).1
    sampleQuery _ _ rfl rfl⟩

/-- A repeated command with another digest is refused and does not return the event. -/
theorem repeated_command_conflicts :
    (sampleStore.appendDurableEvent (sampleCommand "digest")).map (·.2) =
        .ok (⟨1, "turn", .turnAccepted, "payload", true⟩, false) ∧
      ((sampleStore.apply (fun _ _ => true) (.appendDurableEvent (sampleCommand "digest"))).appendDurableEvent
        (sampleCommand "other")).map (·.2) = .error .idempotencyConflict := by
  decide

end Circulusd.PlatformApi
