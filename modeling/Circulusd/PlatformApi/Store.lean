import Circulusd.Library.Channel
import Circulusd.Library.Checked
import Circulusd.Library.Store
import Circulusd.Platform.Identity

/-
The in-memory repository of the platform API: turns, durable events with their receipts, replay and
subscriptions. Its lock makes every call one step.
-/

namespace Circulusd.PlatformApi

open Checked Platform Function

inductive Failure where
  | invalidRequest
  | accessDenied
  | sessionNotFound
  | invalidCursor
  | staleAuthority
  | turnNotFound
  | invalidTransition
  | idempotencyConflict
  | sequenceConflict
  -- The panic of the runtime on a slice out of bounds.
  | sliceBounds
deriving DecidableEq

/-- The type is a text in the source, so a value may be none of the named ones. -/
inductive TurnStatus where
  | queued
  | active
  | needsConfirmation
  | completed
  | failed
  | aborted
  | other (text : String)
deriving DecidableEq

inductive EventType where
  | turnAccepted
  | modelEffectPrepared
  | modelSettled
  | toolEffectPrepared
  | toolExternallyCommit
  | toolSettled
  | turnNeedsConfirmation
  | turnCompleted
  | turnFailed
  | turnAborted
  | modelDelta
  | toolStdout
  | toolStderr
  | toolLeaseWaiting
  | other (text : String)
deriving DecidableEq

inductive Operation where
  | createTurn
  | readEvents
  | other (text : String)
deriving DecidableEq

/-- Where an event belongs. -/
structure Scope where
  tenantId : String
  userId : String
  sessionId : String
  turnId : String
  runtimeRevision : String
  workspaceId : String

/-- A scope is good for one generation of placement and authorization. -/
structure EventAuthority where
  scope : Scope
  placementGeneration : Nat
  authorizationGeneration : Nat

structure Principal where
  tenantId : String
  subjectId : String

/-- Of the proof only that it is not zero is checked here. -/
structure AuthorizationPermit where
  operation : Operation
  principal : Principal
  sessionId : String
  authorizationGeneration : Nat
  proof : BitVec 256

structure Turn where
  id : String
  tenantId : String
  subjectId : String
  sessionId : String
  requestDigest : String
  status : TurnStatus
deriving DecidableEq

structure Event where
  sequence : Nat
  turnId : String
  type : EventType
  payload : String
  durable : Bool
deriving DecidableEq

/-- What a reader sees besides the events. -/
structure SessionSnapshot where
  sessionId : String
  activeTurnId : String
  turnStatus : TurnStatus
  lastDurableSequence : Nat

structure SessionRegistration where
  tenantId : String
  subjectId : String
  sessionId : String
  runtimeRevision : String
  workspaceId : String
  placementGeneration : Nat
  authorizationGeneration : Nat
deriving DecidableEq

structure CreateTurnCommand where
  tenantId : String
  subjectId : String
  sessionId : String
  keyDigest : String
  requestDigest : String
  proposedTurn : Turn
  authorization : AuthorizationPermit

/-- The caller names the sequence it saw last. -/
structure AppendEventCommand where
  authority : EventAuthority
  commandId : String
  commandDigest : String
  expectedSequence : Nat
  type : EventType
  payload : String
  turnStatus : TurnStatus

structure ReplayQuery where
  tenantId : String
  subjectId : String
  sessionId : String
  afterSequence : Nat
  limit : Int
  authorization : AuthorizationPermit

structure EventReplay where
  snapshot : SessionSnapshot
  events : List Event

/-- The subscription is named by its subscriber. -/
structure EventStream where
  replay : EventReplay
  caughtUp : Bool
  subscription : Option UInt64

/-- The turn that a key has made. -/
structure CreationReceipt where
  requestDigest : String
  turn : Turn

/-- The event that a command has made. -/
structure EventReceipt where
  commandDigest : String
  event : Event

/-- The source closes a channel whenever it removes a subscriber, so the subscribers are the open
channels among all that were made. -/
structure MemorySession where
  registration : SessionRegistration
  turns : KeyValue.Store String Turn
  creationReceipts : KeyValue.Store String CreationReceipt
  eventReceipts : KeyValue.Store String EventReceipt
  events : List Event
  snapshot : SessionSnapshot
  channels : KeyValue.Store UInt64 (Channel Event)
  nextSubscriberId : UInt64

/-- A turn id belongs to one session of the store. -/
structure MemoryStore where
  sessions : KeyValue.Store String MemorySession
  turns : KeyValue.Store String String

def newMemoryStore : MemoryStore := ⟨fun _ => none, fun _ => none⟩

def newSession (registration : SessionRegistration) : MemorySession where
  registration := registration
  turns _ := none
  creationReceipts _ := none
  eventReceipts _ := none
  events := []
  snapshot := ⟨registration.sessionId, "", .other "", 0⟩
  channels _ := none
  nextSubscriberId := 0

def MemoryStore.put (store : MemoryStore) (sessionId : String) (session : MemorySession) : MemoryStore :=
  { store with sessions := update store.sessions sessionId (some session) }

def maximumSharedInteger : Nat := 9007199254740991

/-! ### Checks -/

/-- Events that are published and not kept. -/
def validEphemeralEvent : EventType → Bool
  | .modelDelta | .toolStdout | .toolStderr | .toolLeaseWaiting => true
  | _ => false

/-- An event fixes the status that comes with it. -/
def validateStatusForEvent (event : EventType) (status : TurnStatus) : Except Failure Unit :=
  let wanted := match event with
    | .turnNeedsConfirmation => .needsConfirmation
    | .turnCompleted => .completed
    | .turnFailed => .failed
    | .turnAborted => .aborted
    | _ => .active
  refuseIf (status ≠ wanted) .invalidTransition

/-- A turn that has ended takes no event. -/
def validateTurnTransition (current next : TurnStatus) (event : EventType) : Except Failure Unit := do
  validateStatusForEvent event next
  match current with
  | .queued => refuseIf (¬ (event = .turnAccepted ∧ next = .active)) .invalidTransition
  | .active =>
    refuseIf (next ∉ [.active, .needsConfirmation, .completed, .failed, .aborted]) .invalidTransition
  | .needsConfirmation => refuseIf (next ∉ [.active, .completed, .failed, .aborted]) .invalidTransition
  | _ => .error .invalidTransition

def MemorySession.AuthorizedFor (session : MemorySession) (permit : AuthorizationPermit) (operation : Operation) :
    Prop :=
  permit.operation = operation ∧ permit.principal.tenantId = session.registration.tenantId ∧
    permit.principal.subjectId = session.registration.subjectId ∧
    permit.sessionId = session.registration.sessionId ∧
    permit.authorizationGeneration = session.registration.authorizationGeneration ∧ permit.proof ≠ 0
deriving Decidable

/-- The turn is the one that the callers read again. -/
def MemoryStore.authorizedSession (store : MemoryStore) (authority : EventAuthority) :
    Except Failure (MemorySession × Turn) := do
  let scope := authority.scope
  let session ← require (store.sessions scope.sessionId) .sessionNotFound
  let registration := session.registration
  refuseIf (registration.tenantId ≠ scope.tenantId ∨ registration.subjectId ≠ scope.userId ∨
    registration.runtimeRevision ≠ scope.runtimeRevision ∨ registration.workspaceId ≠ scope.workspaceId) .accessDenied
  refuseIf (registration.placementGeneration ≠ authority.placementGeneration ∨
    registration.authorizationGeneration ≠ authority.authorizationGeneration) .staleAuthority
  let turn ← require (session.turns scope.turnId) .turnNotFound
  refuseIf (turn.subjectId ≠ scope.userId ∨ turn.tenantId ≠ scope.tenantId ∨ turn.sessionId ≠ scope.sessionId)
    .accessDenied
  return (session, turn)

/-! ### Sessions and turns -/

section Parse

variable (parse : Kind → String → Bool)

/-- A second registration must be the same. -/
def MemoryStore.registerSession (store : MemoryStore) (registration : SessionRegistration) :
    Except Failure MemoryStore := do
  refuseIf (¬ (parse .tenant registration.tenantId ∧ parse .subject registration.subjectId ∧
    parse .session registration.sessionId ∧ parse .runtimeRevision registration.runtimeRevision ∧
    parse .workspace registration.workspaceId) ∨ registration.placementGeneration = 0 ∨
    registration.authorizationGeneration = 0) .invalidRequest
  match store.sessions registration.sessionId with
  | some existing =>
    refuseIf (existing.registration ≠ registration) .invalidTransition
    return store
  | none => return store.put registration.sessionId (newSession registration)

def CreateTurnCommand.receiptKey (command : CreateTurnCommand) : String := command.subjectId ++ "\x00" ++ command.keyDigest

def MemorySession.create (session : MemorySession) (command : CreateTurnCommand) : MemorySession :=
  let turn := command.proposedTurn
  { session with
    turns := update session.turns turn.id (some turn)
    creationReceipts := update session.creationReceipts command.receiptKey (some ⟨command.requestDigest, turn⟩)
    snapshot :=
      if session.snapshot.activeTurnId = "" then
        { session.snapshot with activeTurnId := turn.id, turnStatus := turn.status }
      else session.snapshot }

/-- The flag tells whether the turn was there before. -/
def MemoryStore.createTurn (store : MemoryStore) (command : CreateTurnCommand) :
    Except Failure (MemoryStore × Turn × Bool) := do
  let session ← require (store.sessions command.sessionId) .sessionNotFound
  refuseIf (session.registration.tenantId ≠ command.tenantId ∨ session.registration.subjectId ≠ command.subjectId)
    .accessDenied
  refuseIf (¬ session.AuthorizedFor command.authorization .createTurn) .accessDenied
  match session.creationReceipts command.receiptKey with
  | some receipt =>
    refuseIf (receipt.requestDigest ≠ command.requestDigest) .idempotencyConflict
    return (store, receipt.turn, true)
  | none =>
    let turn := command.proposedTurn
    refuseIf ((store.turns turn.id).any (· ≠ command.sessionId)) .idempotencyConflict
    refuseIf (session.turns turn.id).isSome .idempotencyConflict
    let created := store.put command.sessionId (session.create command)
    return ({ created with turns := update store.turns turn.id (some command.sessionId) }, turn, false)

/-! ### Events -/

def MemorySession.eachChannel (session : MemorySession) (change : UInt64 → Channel Event → Channel Event) : MemorySession :=
  { session with channels := fun id => (session.channels id).map (change id) }

/-- A full channel drops the event, and is closed if it was durable. -/
def MemorySession.publishLocked (session : MemorySession) (event : Event) : MemorySession :=
  session.eachChannel fun _ => Channel.offer 64 (·.durable) event

/-- The session after a new durable event, before it is published. -/
def MemorySession.record (session : MemorySession) (command : AppendEventCommand) (turn : Turn) (event : Event) :
    MemorySession :=
  { session with
    turns := update session.turns turn.id (some { turn with status := command.turnStatus })
    events := session.events ++ [event]
    eventReceipts := update session.eventReceipts command.commandId (some ⟨command.commandDigest, event⟩)
    snapshot := ⟨session.snapshot.sessionId, turn.id, command.turnStatus, event.sequence⟩ }

/-- A known command is answered with its event again. -/
def MemoryStore.appendDurableEvent (store : MemoryStore) (command : AppendEventCommand) :
    Except Failure (MemoryStore × Event × Bool) := do
  let scope := command.authority.scope
  let (session, turn) ← store.authorizedSession command.authority
  match session.eventReceipts command.commandId with
  | some receipt =>
    refuseIf (receipt.commandDigest ≠ command.commandDigest) .idempotencyConflict
    return (store, receipt.event, true)
  | none =>
    refuseIf (command.expectedSequence ≠ session.events.length) .sequenceConflict
    validateTurnTransition turn.status command.turnStatus command.type
    let event : Event := ⟨session.events.length + 1, scope.turnId, command.type, command.payload, true⟩
    return (store.put scope.sessionId ((session.record command turn event).publishLocked event), event, false)

def MemoryStore.publishEphemeralEvent (store : MemoryStore) (authority : EventAuthority) (event : Event) :
    Except Failure MemoryStore := do
  let (session, _) ← store.authorizedSession authority
  refuseIf (event.durable ∨ event.sequence ≠ 0 ∨ event.turnId ≠ authority.scope.turnId ∨
    validEphemeralEvent event.type = false ∨ event.payload = "") .invalidRequest
  return store.put authority.scope.sessionId (session.publishLocked event)

/-! ### Replay and subscriptions -/

/-- The end of the slice is an `int` sum that may wrap to a negative number. -/
def MemorySession.replayLocked (session : MemorySession) (query : ReplayQuery) : Except Failure EventReplay := do
  refuseIf (query.limit < 1) .invalidRequest
  refuseIf (session.events.length < query.afterSequence) .invalidCursor
  refuseIf (maxInt64 < query.afterSequence + query.limit) .sliceBounds
  return ⟨session.snapshot, (session.events.drop query.afterSequence).take query.limit.toNat⟩

/-- What both readers check first. -/
def MemoryStore.readableSession (store : MemoryStore) (query : ReplayQuery) : Except Failure MemorySession := do
  let session ← require (store.sessions query.sessionId) .sessionNotFound
  refuseIf (session.registration.tenantId ≠ query.tenantId ∨ session.registration.subjectId ≠ query.subjectId ∨
    ¬ session.AuthorizedFor query.authorization .readEvents) .accessDenied
  return session

def MemoryStore.replayEvents (store : MemoryStore) (query : ReplayQuery) : Except Failure EventReplay := do
  let session ← store.readableSession query
  session.replayLocked query

/-- The counter may wrap around. -/
def MemorySession.subscribe (session : MemorySession) : MemorySession :=
  { session with
    nextSubscriberId := session.nextSubscriberId + 1
    channels := update session.channels (session.nextSubscriberId + 1) (some .new) }

/-- Where the reader stands after the replay. -/
def lastReplayed (query : ReplayQuery) (replay : EventReplay) : Nat :=
  match replay.events.getLast? with
  | some event => event.sequence
  | none => query.afterSequence

/-- Only a reader that has caught up is subscribed. -/
def MemoryStore.openEventStream (store : MemoryStore) (query : ReplayQuery) :
    Except Failure (MemoryStore × EventStream) := do
  let session ← store.readableSession query
  let replay ← session.replayLocked query
  if lastReplayed query replay = replay.snapshot.lastDurableSequence then
    return (store.put query.sessionId session.subscribe, ⟨replay, true, some (session.nextSubscriberId + 1)⟩)
  else return (store, ⟨replay, false, none⟩)

/-- One channel changes, if it is there. -/
def MemoryStore.onChannel (store : MemoryStore) (sessionId : String) (subscriberId : UInt64)
    (change : Channel Event → Channel Event) : MemoryStore :=
  match store.sessions sessionId with
  | none => store
  | some session =>
    store.put sessionId (session.eachChannel fun id => if id = subscriberId then change else fun same => same)

/-- `memorySubscription.Close`. -/
def MemoryStore.close (store : MemoryStore) (sessionId : String) (subscriberId : UInt64) : MemoryStore :=
  store.onChannel sessionId subscriberId .close

/-- The reader of a subscription takes the next event. -/
def MemoryStore.receive (store : MemoryStore) (sessionId : String) (subscriberId : UInt64) : MemoryStore :=
  store.onChannel sessionId subscriberId .receive

/-- A new generation ends every stream. -/
def MemorySession.rotate (session : MemorySession) (next : Nat) : MemorySession :=
  { session with registration.authorizationGeneration := next }.eachChannel fun _ => .close

def MemoryStore.rotateAuthorizationGeneration (store : MemoryStore) (tenantId subjectId sessionId : String)
    (expected next : Nat) : Except Failure MemoryStore := do
  refuseIf (¬ (parse .tenant tenantId ∧ parse .subject subjectId ∧ parse .session sessionId) ∨ expected = 0 ∨
    next ≤ expected ∨ maximumSharedInteger < next) .invalidRequest
  let session ← require (store.sessions sessionId) .sessionNotFound
  refuseIf (session.registration.tenantId ≠ tenantId ∨ session.registration.subjectId ≠ subjectId) .accessDenied
  refuseIf (session.registration.authorizationGeneration ≠ expected) .staleAuthority
  return store.put sessionId (session.rotate next)

/-! ### Runs -/

/-- The calls of the repository and of its readers. -/
inductive Call where
  | registerSession (registration : SessionRegistration)
  | createTurn (command : CreateTurnCommand)
  | appendDurableEvent (command : AppendEventCommand)
  | publishEphemeralEvent (authority : EventAuthority) (event : Event)
  | replayEvents (query : ReplayQuery)
  | openEventStream (query : ReplayQuery)
  | close (sessionId : String) (subscriberId : UInt64)
  | receive (sessionId : String) (subscriberId : UInt64)
  | rotateAuthorizationGeneration (tenantId subjectId sessionId : String) (expected next : Nat)

/-- Only the opening of a stream takes a number for a subscriber. -/
def Call.openings : Call → Nat
  | .openEventStream _ => 1
  | _ => 0

/-- A failed call leaves the store as it was. -/
def MemoryStore.resume {Answer : Type} (store : MemoryStore) (answer : Except Failure Answer)
    (next : Answer → MemoryStore) : MemoryStore :=
  match answer with
  | .ok value => next value
  | .error _ => store

def MemoryStore.apply (store : MemoryStore) : Call → MemoryStore
  | .registerSession registration => store.resume (store.registerSession parse registration) id
  | .createTurn command => store.resume (store.createTurn command) (·.1)
  | .appendDurableEvent command => store.resume (store.appendDurableEvent command) (·.1)
  | .publishEphemeralEvent authority event => store.resume (store.publishEphemeralEvent authority event) id
  | .replayEvents query => store.resume (store.replayEvents query) fun _ => store
  | .openEventStream query => store.resume (store.openEventStream query) (·.1)
  | .close sessionId subscriberId => store.close sessionId subscriberId
  | .receive sessionId subscriberId => store.receive sessionId subscriberId
  | .rotateAuthorizationGeneration tenantId subjectId sessionId expected next =>
    store.resume (store.rotateAuthorizationGeneration parse tenantId subjectId sessionId expected next) id

/-- The calls of all clients in the order in which they take the lock. -/
def MemoryStore.run (store : MemoryStore) (calls : List Call) : MemoryStore := calls.foldl (·.apply parse) store

end Parse

end Circulusd.PlatformApi
