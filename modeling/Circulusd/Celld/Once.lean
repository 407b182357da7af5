import Circulusd.Celld.World
import Circulusd.Library.Store

/-
Each command takes effect once: what the logs of the objects are in every world that the hosts reach.
-/

namespace Circulusd.Celld

open Dialogue KeyValue Protocol Trace Function List

section Histories

/-- A command that the aggregate applied, with its result. -/
structure Application where
  commandId : String
  command : Bytes
  result : ApplyResult
deriving DecidableEq

def Application.write (platform : Platform) (application : Application) : ReceiptWrite :=
  ⟨application.commandId, ⟨platform.sha256 application.command, application.result.response,
    application.result.capabilityClaims⟩⟩

variable (platform : Platform) (aggregate : Bytes → Bytes → ApplyResult → Prop)

/-- The commits of an object apply the aggregate to one command after another. A commit for a command that
was applied before changes nothing but the revision. -/
inductive Executes : Log → Bytes → List Application → Prop where
  | empty : Executes [] [] []
  | apply {log : Log} {state : Bytes} {history : List Application} {entry : Entry} {result : ApplyResult}
      (before : Executes log state history)
      (fresh : ∀ old ∈ history, old.commandId ≠ entry.request.commandId)
      (applied : aggregate state entry.request.command result)
      (written : entry.commit.stateWritten = true) (next : entry.commit.state = result.nextState)
      (receipts : entry.commit.receipts =
        [Application.write platform ⟨entry.request.commandId, entry.request.command, result⟩]) :
      Executes (log ++ [entry]) result.nextState (history ++ [⟨entry.request.commandId, entry.request.command, result⟩])
  | replay {log : Log} {state : Bytes} {history : List Application} {entry : Entry} {old : Application}
      (before : Executes log state history) (known : old ∈ history)
      (same : old.commandId = entry.request.commandId)
      (digest : platform.sha256 old.command = platform.sha256 entry.request.command)
      (unwritten : entry.commit.stateWritten = false) (receipts : entry.commit.receipts = []) :
      Executes (log ++ [entry]) state history

variable {platform aggregate} {log : Log} {state : Bytes} {history : List Application}

theorem Log.state_concat (log : Log) (entry : Entry) :
    Log.state (log ++ [entry]) = if entry.commit.stateWritten then entry.commit.state else log.state := by
  simp [Log.state]

theorem Log.receipts_concat (log : Log) (entry : Entry) :
    Log.receipts (log ++ [entry]) = log.receipts ++ entry.commit.receipts := by
  simp [Log.receipts]

section

variable (executes : Executes platform aggregate log state history)
include executes

theorem Executes.state_eq : log.state = state := by
  induction executes with
  | empty => rfl
  | apply before fresh applied written next receipts ih => rw [Log.state_concat, written, if_pos rfl, next]
  | replay before known same digest unwritten receipts ih =>
    rw [Log.state_concat, unwritten, if_neg Bool.false_ne_true, ih]

theorem Executes.receipts_eq : log.receipts = history.map (Application.write platform) := by
  induction executes with
  | empty => rfl
  | apply before fresh applied written next receipts ih => rw [Log.receipts_concat, ih, receipts, map_append]; rfl
  | replay before known same digest unwritten receipts ih =>
    rw [Log.receipts_concat, ih, receipts, append_nil]

/-- No command id is applied twice. -/
theorem Executes.nodup : (history.map (·.commandId)).Nodup := by
  induction executes with
  | empty => exact .nil
  | apply before fresh applied written next receipts ih =>
    rw [map_append, nodup_append]
    refine ⟨ih, by simp, fun id member other last => ?_⟩
    obtain ⟨old, known, rfl⟩ := mem_map.mp member
    obtain rfl := mem_singleton.mp last
    exact fresh old known
  | replay before known same digest unwritten receipts ih => exact ih

/-- Every commit is one for a command of the history. -/
theorem Executes.known : ∀ entry ∈ log, ∃ old ∈ history, old.commandId = entry.request.commandId ∧
      platform.sha256 old.command = platform.sha256 entry.request.command := by
  induction executes with
  | empty => simp
  | apply before fresh applied written next receipts ih =>
    intro entry member
    rcases mem_append.mp member with earlier | last
    · obtain ⟨old, known, same⟩ := ih entry earlier
      exact ⟨old, mem_append_left _ known, same⟩
    · obtain rfl := mem_singleton.mp last
      exact ⟨_, mem_append_right _ (mem_singleton_self _), rfl, rfl⟩
  | replay before known same digest unwritten receipts ih =>
    intro entry member
    rcases mem_append.mp member with earlier | last
    · exact ih entry earlier
    · obtain rfl := mem_singleton.mp last
      exact ⟨_, known, same, digest⟩

/-- An earlier log has an earlier history. -/
theorem Executes.prefix {first : Log} (initial : first <+: log) :
    ∃ older, older <+: history ∧ Executes platform aggregate first first.state older := by
  induction executes with
  | empty =>
    obtain rfl := prefix_nil.mp initial
    exact ⟨[], prefix_rfl, .empty⟩
  | apply before fresh applied written next receipts ih =>
    rcases prefix_concat_iff.mp initial with rfl | shorter
    · have all := Executes.apply before fresh applied written next receipts
      exact ⟨_, prefix_rfl, all.state_eq ▸ all⟩
    · obtain ⟨older, early, executed⟩ := ih shorter
      exact ⟨older, early.trans (prefix_append _ _), executed⟩
  | replay before known same digest unwritten receipts ih =>
    rcases prefix_concat_iff.mp initial with rfl | shorter
    · have all := Executes.replay before known same digest unwritten receipts
      exact ⟨_, prefix_rfl, all.state_eq ▸ all⟩
    · exact ih shorter

theorem Executes.application {write : ReceiptWrite} (stored : write ∈ log.receipts) :
    ∃ old ∈ history, old.write platform = write := by
  rw [executes.receipts_eq] at stored
  exact mem_map.mp stored

end

end Histories

section Commits

variable {platform : Platform} {aggregate : Bytes → Bytes → ApplyResult → Prop} {log : Log} {store : Store}
  {request : Request} {past : Past} {commit : CommitRequest} {receipt : StoredReceipt}
variable {objectId commandId : String}

/-- Logs of one length in one log are equal. -/
theorem Log.same_of_revision {first second whole : Log} (one : first <+: whole) (two : second <+: whole)
    (length : first.length = second.length) : first = second := by
  rw [prefix_iff_eq_take.mp one, prefix_iff_eq_take.mp two, length]

theorem Log.lookup_found (found : (log.lookup platform objectId commandId).found = true) :
    ⟨commandId, (log.lookup platform objectId commandId).receipt⟩ ∈ log.receipts := by
  unfold Log.lookup at found ⊢
  split at found
  case h_2 => contradiction
  case h_1 write same =>
    have id := find?_some same
    obtain rfl := of_decide_eq_true id
    exact mem_of_find?_eq_some same

theorem Log.lookup_missing (missing : (log.lookup platform objectId commandId).found = false) :
    ∀ write ∈ log.receipts, write.commandId ≠ commandId := by
  unfold Log.lookup at missing
  split at missing
  case h_1 => contradiction
  case h_2 absent => simpa using absent

theorem Log.same_of_snapshot {objectId other : String} {first second : Log} (one : first <+: store.logs objectId)
    (two : second <+: store.logs other)
    (same : (first.snapshot platform objectId).toSnapshotRef = (second.snapshot platform other).toSnapshotRef) :
    objectId = other ∧ first = second := by
  have object : objectId = other := congrArg SnapshotRef.objectId same
  have length : first.length = second.length := congrArg SnapshotRef.revision same
  subst object
  exact ⟨rfl, Log.same_of_revision one two length⟩

theorem Prepared.digest (prepared : Prepared platform request past commit receipt) :
    receipt.commandDigest = platform.sha256 request.command := by
  cases prepared with
  | replayed object read found same unwritten empty => exact same
  | applied => rfl

theorem Prepared.object (prepared : Prepared platform request past commit receipt) :
    commit.snapshot.objectId = request.objectId := by
  cases prepared <;> assumption

variable (truth : ∀ exchange ∈ past, Truthful platform aggregate store exchange)
include truth

/-- A receipt that was read at the snapshot of a log is what the log has. -/
theorem read_at_snapshot {snapshot : SnapshotRef} {response : ReceiptResult}
    (initial : log <+: store.logs objectId) (pinned : snapshot = (log.snapshot platform objectId).toSnapshotRef)
    (read : (⟨.readReceipt ⟨snapshot, commandId⟩, .ok response⟩ : Exchange Answer) ∈ past) :
    response = log.lookup platform objectId commandId := by
  obtain ⟨other, earlier, place, same, rfl⟩ := truth _ read
  obtain ⟨rfl, rfl⟩ := Log.same_of_snapshot place initial (same.symm.trans pinned)
  rfl

/-- What a call prepared at the current snapshot is a step of the history. -/
theorem Prepared.executes (prepared : Prepared platform request past commit receipt) {state : Bytes}
    {history : List Application} (caller : Nat)
    (executed : Executes platform aggregate (store.logs request.objectId) state history)
    (current : commit.snapshot = ((store.logs request.objectId).snapshot platform request.objectId).toSnapshotRef) :
    ∃ next later, Executes platform aggregate (store.logs request.objectId ++ [⟨caller, request, commit⟩]) next later := by
  cases prepared with
  | replayed object read found same unwritten empty =>
    rw [read_at_snapshot truth prefix_rfl current read] at found same
    obtain ⟨old, known, write⟩ := executed.application (Log.lookup_found found)
    have digest := congrArg (·.receipt.commandDigest) write
    exact ⟨_, _, .replay executed known (congrArg (·.commandId) write) (digest.trans same) unwritten empty⟩
  | @applied snapshot response applied object read pinned readReceipt missing asked written next receipts =>
    rw [read_at_snapshot truth prefix_rfl current readReceipt] at missing
    obtain ⟨earlier, initial, rfl⟩ := truth _ read
    obtain ⟨-, same⟩ := Log.same_of_snapshot initial prefix_rfl (pinned.symm.trans current)
    have applies : aggregate (Log.state earlier) request.command applied := truth _ asked
    have here : Log.state earlier = state := by
      rw [same]
      exact executed.state_eq
    rw [here] at applies
    refine ⟨_, _, .apply executed (fun old known => ?_) applies written next receipts⟩
    have absent := Log.lookup_missing missing
    rw [executed.receipts_eq] at absent
    exact absent _ (mem_map_of_mem known)

/-- The receipt of a commit is stored with it, or was stored before. -/
theorem Prepared.stored (prepared : Prepared platform request past commit receipt) {entry : Entry}
    (present : log ++ [entry] <+: store.logs request.objectId) (same : entry.commit = commit)
    (current : commit.snapshot = (log.snapshot platform request.objectId).toSnapshotRef) :
    ⟨request.commandId, receipt⟩ ∈ Log.receipts (log ++ [entry]) := by
  rw [Log.receipts_concat, same]
  cases prepared with
  | replayed object read found digest unwritten empty =>
    have response := read_at_snapshot truth ((prefix_append _ _).trans present) current read
    rw [response] at found ⊢
    exact mem_append_left _ (Log.lookup_found found)
  | applied object read pinned readReceipt missing asked written next receipts =>
    rw [receipts]
    exact mem_append_right _ (mem_singleton_self _)

/-- The receipt of a successful commit is among those of its revision. -/
theorem Committed.stored {revision : Nat} (committed : Committed platform request past receipt revision) :
    revision ≤ (store.logs request.objectId).length ∧ receipt.commandDigest = platform.sha256 request.command ∧
      ⟨request.commandId, receipt⟩ ∈ Log.receipts ((store.logs request.objectId).take revision) := by
  obtain ⟨commit, result, asked, prepared, rfl⟩ := committed
  obtain ⟨log, entry, present, same, current⟩ := truth _ asked
  rw [prepared.object] at present current
  have length : commit.snapshot.revision + 1 = (log ++ [entry]).length := by
    rw [current, length_append]
    rfl
  refine ⟨length ▸ present.length_le, prepared.digest, ?_⟩
  rw [length, ← prefix_iff_eq_take.mp present]
  exact prepared.stored truth present same current

end Commits

section Worlds

variable (platform : Platform) (aggregate : Bytes → Bytes → ApplyResult → Prop)

/-- What is true of a call in a world: it heard the truth, and its program keeps to its guard. -/
structure Call.Sound (store : Store) (call : Call) : Prop where
  truth : ∀ exchange ∈ call.past, Truthful platform aggregate store exchange
  holds : call.program.Holds (Guarded platform call.request) (Finished platform call.request) call.past

structure World.Sound (world : World) : Prop where
  executes : ∀ objectId, ∃ state history, Executes platform aggregate (world.store.logs objectId) state history
  durable : ∀ objectId, world.store.durable objectId ≤ (world.store.logs objectId).length
  calls : ∀ caller call, world.calls caller = some call → call.Sound platform aggregate world.store
  owned : ∀ objectId, ∀ entry ∈ world.store.logs objectId, ∃ call, world.calls entry.caller = some call ∧
    call.request = entry.request ∧ call.request.objectId = objectId ∧ ¬ Settled call.past
  single : ∀ objectId, ((world.store.logs objectId).map (·.caller)).Nodup

variable {platform aggregate} {world next : World} {event : Event}

theorem Call.Sound.mono {store later : Store} {call : Call} (sound : call.Sound platform aggregate store)
    (before : store.Before later) : call.Sound platform aggregate later :=
  ⟨fun exchange member => (sound.truth exchange member).mono before, sound.holds⟩

theorem World.sound_initial : World.initial.Sound platform aggregate where
  executes _ := ⟨_, _, .empty⟩
  durable _ := le_rfl
  calls _ _ := nofun
  owned _ _ := nofun
  single _ := .nil

/-- A call that has asked once more is no more settled than before. -/
theorem Settled.before {past more : Past} (settled : Settled (past ++ more)) : Settled past :=
  fun request answer member => settled request answer (mem_append_left _ member)

section Turns

variable {store later : Store} {caller : Nat} {request : Request} {question : Question} {answer : Answer question}
  (served : Answers platform aggregate caller request store question answer later)
include served

/-- Only a commit at the current snapshot changes a log. -/
theorem Answers.logs_cases : later.logs = store.logs ∨ ∃ commit response,
    (⟨question, answer⟩ : Exchange Answer) = ⟨.compareAndCommit commit, response⟩ ∧ commit.snapshot =
        ((store.logs commit.snapshot.objectId).snapshot platform commit.snapshot.objectId).toSnapshotRef ∧
      (∀ error, response = .error error → error.is .snapshotConflict = false) ∧
      later = store.append commit.snapshot.objectId ⟨caller, request, commit⟩ := by
  cases served with
  | commit current immutable indefinite => exact .inr ⟨_, _, rfl, current, indefinite, rfl⟩
  | _ => exact .inl rfl

theorem Answers.durable_le (durable : ∀ objectId, store.durable objectId ≤ (store.logs objectId).length)
    (objectId : String) : later.durable objectId ≤ (later.logs objectId).length := by
  cases served with
  | commit => exact (durable objectId).trans ((store.before_append _ _).logs objectId).length_le
  | barrier response reached kept present =>
    simp only [update_apply]
    split
    case isTrue same => rwa [same]
    case isFalse => exact durable objectId
  | _ => exact durable objectId

end Turns

section Steps

variable {caller : Nat} {call : Call} {question : Question} {answer : Answer question}

/-- The call after an answer. -/
def Call.heard (call : Call) (question : Question) (answer : Answer question)
    (next : Answer question → Program Question Answer (Except Error Result)) : Call :=
  { call with past := call.past ++ [⟨question, answer⟩], program := next answer }

theorem Call.Sound.heard {store : Store} {call : Call} (sound : call.Sound platform aggregate store)
    {next : Answer question → Program Question Answer (Except Error Result)} (asks : call.program = .ask question next)
    (truthful : Truthful platform aggregate store ⟨question, answer⟩) :
    (call.heard question answer next).Sound platform aggregate store := by
  have holds := sound.holds
  rw [asks] at holds
  refine ⟨fun exchange member => ?_, holds.2 answer⟩
  rcases mem_append.mp member with earlier | last
  · exact sound.truth exchange earlier
  · obtain rfl := mem_singleton.mp last
    exact truthful

/-- A commit that takes effect is the first one of its call, and a step of the history of its object. -/
theorem World.Sound.commit (sound : world.Sound platform aggregate) (running : world.calls caller = some call)
    {commit : CommitRequest} {next : Answer (.compareAndCommit commit) → Program Question Answer (Except Error Result)}
    (asks : call.program = .ask (.compareAndCommit commit) next) :
    commit.snapshot.objectId = call.request.objectId ∧ Settled call.past ∧
      (commit.snapshot = ((world.store.logs commit.snapshot.objectId).snapshot platform
        commit.snapshot.objectId).toSnapshotRef → ∃ state history, Executes platform aggregate
        (world.store.logs commit.snapshot.objectId ++ [⟨caller, call.request, commit⟩]) state history) := by
  have callSound := sound.calls caller call running
  have holds := callSound.holds
  rw [asks] at holds
  obtain ⟨settled, receipt, prepared⟩ := holds.1
  refine ⟨prepared.object, settled, ?_⟩
  rw [prepared.object]
  intro current
  obtain ⟨state, history, executed⟩ := sound.executes call.request.objectId
  exact prepared.executes callSound.truth caller executed current

theorem World.Sound.turn (sound : world.Sound platform aggregate) (running : world.calls caller = some call)
    {next : Answer question → Program Question Answer (Except Error Result)} {store : Store}
    (asks : call.program = .ask question next)
    (served : Answers platform aggregate caller call.request world.store question answer store) :
    World.Sound platform aggregate ⟨store, update world.calls caller (some (call.heard question answer next))⟩ := by
  have before := served.before
  have callers : ∀ other kept, world.calls other = some kept → ¬ Settled kept.past →
      ∃ later, update world.calls caller (some (call.heard question answer next)) other = some later ∧
        later.request = kept.request ∧ ¬ Settled later.past := by
    intro other kept found unsettled
    by_cases same : other = caller
    · subst same
      cases running.symm.trans found
      exact ⟨_, update_self .., rfl, fun settled => unsettled settled.before⟩
    · exact ⟨kept, by rw [update_of_ne same, found], rfl, unsettled⟩
  have calls : ∀ other kept, update world.calls caller (some (call.heard question answer next)) other = some kept →
        kept.Sound platform aggregate store := by
    intro other kept found
    obtain ⟨rfl, rfl⟩ | ⟨-, found⟩ := update_eq_some found
    · exact ((sound.calls other call running).mono before).heard asks served.truthful
    · exact (sound.calls other kept found).mono before
  rcases served.logs_cases with kept | ⟨commit, response, exchange, current, indefinite, rfl⟩
  · refine ⟨?_, served.durable_le sound.durable, calls, ?_, ?_⟩
    · rw [kept]
      exact sound.executes
    · rw [kept]
      intro objectId entry member
      obtain ⟨owner, found, request, object, unsettled⟩ := sound.owned objectId entry member
      obtain ⟨later, updated, same, unsettled⟩ := callers _ owner found unsettled
      exact ⟨later, updated, same.trans request, same ▸ object, unsettled⟩
    · rw [kept]
      exact sound.single
  · cases exchange
    obtain ⟨object, settled, executes⟩ := sound.commit running asks
    have unsettled : ¬ Settled (call.heard (.compareAndCommit commit) response next).past := by
      intro all
      obtain ⟨error, same, conflict⟩ := all commit response (by simp [Call.heard])
      rw [indefinite error same] at conflict
      contradiction
    refine ⟨fun objectId => ?_, served.durable_le sound.durable, calls, fun objectId entry member => ?_,
      fun objectId => ?_⟩
    · by_cases same : objectId = commit.snapshot.objectId
      · subst same
        simpa [Store.append] using executes current
      · simpa [Store.append, update_of_ne same] using sound.executes objectId
    · have split : entry ∈ world.store.logs objectId ∨
          objectId = commit.snapshot.objectId ∧ entry = ⟨caller, call.request, commit⟩ := by
        by_cases same : objectId = commit.snapshot.objectId
        · subst same
          simpa [Store.append] using member
        · exact .inl (by simpa [Store.append, update_of_ne same] using member)
      rcases split with earlier | ⟨rfl, rfl⟩
      · obtain ⟨owner, found, request, object, unsettled⟩ := sound.owned objectId entry earlier
        obtain ⟨later, updated, same, unsettled⟩ := callers _ owner found unsettled
        exact ⟨later, updated, same.trans request, same ▸ object, unsettled⟩
      · exact ⟨_, update_self .., rfl, object.symm, unsettled⟩
    · by_cases same : objectId = commit.snapshot.objectId
      · subst same
        simp only [Store.append, update_self, map_append, map_cons, map_nil]
        refine nodup_append.mpr ⟨sound.single _, by simp, fun other member last final => ?_⟩
        obtain rfl := mem_singleton.mp final
        obtain ⟨entry, logged, rfl⟩ := mem_map.mp member
        rintro same
        obtain ⟨owner, found, -, -, unsettled⟩ := sound.owned _ entry logged
        rw [same, running] at found
        cases found
        exact unsettled settled
      · simpa [Store.append, update_of_ne same] using sound.single objectId

theorem World.Sound.step (sound : world.Sound platform aggregate) (step : Step platform aggregate world event next) :
    next.Sound platform aggregate := by
  cases step with
  | turn running asks served => exact sound.turn running asks served
  | @begin caller host request free =>
    refine ⟨sound.executes, sound.durable, fun other kept found => ?_, fun objectId entry member => ?_, sound.single⟩
    · obtain ⟨-, rfl⟩ | ⟨-, found⟩ := update_eq_some found
      · exact ⟨nofun, call_holds platform host request⟩
      · exact sound.calls other kept found
    · obtain ⟨owner, found, request, object, unsettled⟩ := sound.owned objectId entry member
      have other : entry.caller ≠ caller := by
        intro same
        rw [same, free] at found
        contradiction
      refine ⟨owner, ?_, request, object, unsettled⟩
      dsimp only
      rw [update_of_ne other, found]

theorem sound_of_run {events : List Event} (run : Run (Step platform aggregate) .initial events world) :
    world.Sound platform aggregate :=
  run.invariant World.sound_initial fun _ _ _ step sound => sound.step step

end Steps

end Worlds

section Once

variable (platform : Platform) (aggregate : Bytes → Bytes → ApplyResult → Prop)
variable {history : List Application}

def Collides (hash : Bytes → Digest) (first second : Bytes) : Prop :=
  first ≠ second ∧ hash first = hash second

/-- A result is that of an application of its command, and its permits are sealed from the claims of the
application. -/
structure Call.Reports (call : Call) (result : Result) (application : Application) : Prop where
  commandId : application.commandId = call.request.commandId
  commandDigest : result.commandDigest = platform.sha256 application.command
  response : result.response = application.result.response
  permits : SealedFrom platform call.request call.past 0 application.result.capabilityClaims result.permits

/-- What it is to execute each command once, with the applications of each object. -/
structure ExactlyOnce (world : World) (history : String → List Application) : Prop where
  executes : ∀ objectId, Executes platform aggregate (world.store.logs objectId) (world.store.logs objectId).state
    (history objectId)
  once : ∀ objectId, ((history objectId).map (·.commandId)).Nodup
  results : ∀ first second one two, ∀ firstCall secondCall : Call,
    world.calls first = some firstCall → world.calls second = some secondCall →
    firstCall.program = .done (.ok one) → secondCall.program = .done (.ok two) →
    firstCall.request.objectId = secondCall.request.objectId →
    firstCall.request.commandId = secondCall.request.commandId →
    ∃ application ∈ history firstCall.request.objectId,
      firstCall.Reports platform one application ∧ secondCall.Reports platform two application
  commands : ∀ objectId, ∀ entry ∈ world.store.logs objectId, ∃ application ∈ history objectId,
    application.commandId = entry.request.commandId ∧ (application.command = entry.request.command ∨
      Collides platform.sha256 application.command entry.request.command)
  owned : ∀ objectId, ∀ entry ∈ world.store.logs objectId, entry.request.objectId = objectId ∧
    ∃ call, world.calls entry.caller = some call ∧ call.request = entry.request
  single : ∀ objectId, ((world.store.logs objectId).map (·.caller)).Nodup
  failures : ∀ caller error, ∀ call : Call, world.calls caller = some call → call.program = .done (.error error) →
    Settled call.past → ∀ objectId, ∀ entry ∈ world.store.logs objectId, entry.caller ≠ caller
  seals : ∀ caller binding claims next, ∀ call : Call, world.calls caller = some call →
    call.program = .ask (.seal binding claims) next → ∃ log state older application,
      log = (world.store.logs binding.objectId).take (world.store.durable binding.objectId) ∧
      Executes platform aggregate log state older ∧ older <+: history binding.objectId ∧ application ∈ older ∧
      application.commandId = binding.commandId ∧
      application.result.capabilityClaims[binding.claimIndex]? = some claims

variable {platform aggregate} {world : World}

/-- The applications of an object with one command id are one application. -/
theorem application_unique (once : (history.map (·.commandId)).Nodup)
    {first second : Application} (one : first ∈ history) (two : second ∈ history)
    (same : first.commandId = second.commandId) : first = second :=
  inj_on_of_nodup_map once one two same

theorem reports_of_done (sound : world.Sound platform aggregate) {caller : Nat} {call : Call} {result : Result}
    {state : Bytes} (running : world.calls caller = some call) (done : call.program = .done (.ok result))
    (executed : Executes platform aggregate (world.store.logs call.request.objectId) state history) :
    ∃ application ∈ history, call.Reports platform result application := by
  have callSound := sound.calls caller call running
  have holds := callSound.holds
  rw [done] at holds
  obtain ⟨receipt, revision, confirmed, digest, response, -, sealed⟩ := holds result rfl
  obtain ⟨-, sameDigest, stored⟩ := confirmed.1.stored callSound.truth
  obtain ⟨older, initial, executes⟩ := executed.prefix <| take_prefix revision _
  obtain ⟨application, known, write⟩ := executes.application stored
  have written : (application.write platform).receipt = receipt := congrArg ReceiptWrite.receipt write
  refine ⟨application, initial.subset known, congrArg ReceiptWrite.commandId write, ?_, ?_, ?_⟩
  · rw [digest, ← sameDigest, ← written]
    rfl
  · rw [response, ← written]
    rfl
  · rw [← written] at sealed
    exact sealed

theorem sealed_durable (sound : world.Sound platform aggregate) {caller : Nat} {call : Call} {binding : PermitBinding}
    {claims : RawCapabilityClaims}
    {next : Answer (.seal binding claims) → Program Question Answer (Except Error Result)} {state : Bytes}
    (running : world.calls caller = some call) (asks : call.program = .ask (.seal binding claims) next)
    (executed : Executes platform aggregate (world.store.logs binding.objectId) state history) :
    ∃ log state older application,
      log = (world.store.logs binding.objectId).take (world.store.durable binding.objectId) ∧
      Executes platform aggregate log state older ∧ older <+: history ∧ application ∈ older ∧
      application.commandId = binding.commandId ∧
      application.result.capabilityClaims[binding.claimIndex]? = some claims := by
  have callSound := sound.calls caller call running
  have holds := callSound.holds
  rw [asks] at holds
  obtain ⟨receipt, revision, ⟨committed, marker, response, barrier⟩, object, command, -, claimed⟩ := holds.1
  obtain ⟨-, -, stored⟩ := committed.stored callSound.truth
  have durable : revision ≤ world.store.durable call.request.objectId := callSound.truth _ barrier
  rw [object] at executed ⊢
  obtain ⟨older, initial, executes⟩ := executed.prefix <| take_prefix (world.store.durable call.request.objectId) _
  obtain ⟨oldest, early, first⟩ := executes.prefix (take_prefix_take_left durable)
  obtain ⟨application, known, write⟩ := first.application stored
  have written : (application.write platform).receipt = receipt := congrArg ReceiptWrite.receipt write
  refine ⟨_, _, older, application, rfl, executes, initial, early.subset known, ?_, ?_⟩
  · rw [command]
    exact congrArg ReceiptWrite.commandId write
  · rw [← written] at claimed
    exact claimed

end Once

section Runs

variable {platform : Platform} {aggregate : Bytes → Bytes → ApplyResult → Prop}

/-- Answers to one call, one after another. -/
inductive Served (platform : Platform) (aggregate : Bytes → Bytes → ApplyResult → Prop) (caller : Nat)
    (request : Request) : Store → Past → Store → Prop where
  | nil (store : Store) : Served platform aggregate caller request store [] store
  | cons {store middle last : Store} {question : Question} {answer : Answer question} {rest : Past}
      (head : Answers platform aggregate caller request store question answer middle)
      (tail : Served platform aggregate caller request middle rest last) :
      Served platform aggregate caller request store (⟨question, answer⟩ :: rest) last

/-- A call that hears its answers makes a run. -/
theorem run_of_resume {store last : Store} {calls : Nat → Option Call} {caller : Nat} {call : Call} {heard : Past}
    {program : Program Question Answer (Except Error Result)} (running : calls caller = some call)
    (served : Served platform aggregate caller call.request store heard last)
    (resumed : call.program.resume heard = some program) :
    Run (Step platform aggregate) ⟨store, calls⟩ (heard.map (.turn caller))
      ⟨last, update calls caller (some { call with past := call.past ++ heard, program })⟩ := by
  obtain ⟨request, same⟩ : ∃ request, request = call.request := ⟨_, rfl⟩
  rw [← same] at served
  induction served generalizing calls call with
  | nil store =>
    rw [Program.resume] at resumed
    cases resumed
    rw [append_nil, ← running, update_eq_self]
    exact .nil _
  | @cons store middle last question answer rest head tail ih =>
    subst same
    obtain ⟨host, request, past, asking⟩ := call
    cases asking with
    | done result => contradiction
    | ask asked next =>
      by_cases same : question = asked
      · subst same
        rw [Program.resume, dif_pos rfl] at resumed
        have final := @ih _ ⟨host, request, past ++ [⟨question, answer⟩], next answer⟩
          (update_self caller _ calls) resumed rfl
        rw [update_idem, append_assoc] at final
        exact .cons (.turn running rfl head) final
      · rw [Program.resume, dif_neg same] at resumed
        contradiction

/-- A new call that hears its answers makes a run. -/
theorem run_of_call {world : World} {last : Store} {caller : Nat} {host : Host} {request : Request} {heard : Past}
    {program : Program Question Answer (Except Error Result)} (free : world.calls caller = none)
    (served : Served platform aggregate caller request world.store heard last)
    (resumed : (host.call platform request).resume heard = some program) :
    Run (Step platform aggregate) world (.begin caller host request :: heard.map (.turn caller))
      ⟨last, update world.calls caller (some ⟨host, request, heard, program⟩)⟩ := by
  have running : update world.calls caller (some ⟨host, request, [], host.call platform request⟩) caller = some _ :=
    update_self ..
  have run := run_of_resume running served resumed
  rw [update_idem] at run
  exact .cons (.begin host request free) run

end Runs

section Sample

/-- A platform that tells the inputs of the sample apart. -/
def samplePlatform : Platform where
  normalizer := .identity
  sha256 bytes := BitVec.ofNat 256 (bytes.foldl (fun sum byte => 257 * sum + byte.toNat + 1) 0)
  commitDigest snapshot _ state receipts :=
    some (BitVec.ofNat 256 (100 * snapshot.revision + 10 * state.length + receipts.length))

def sampleHost : Host where
  storage := ⟨⟨9, 9, 9, 9, 9, 9, 90⟩, 1⟩
  limits := ⟨9, 9, 9, 9, 9⟩
  faultInjector := false

def sampleRequest : Request := ⟨"o", "c", [1]⟩

def sampleApplied : ApplyResult := ⟨[7], [8], [⟨"k", [9]⟩]⟩

/-- The aggregate knows one command, on the empty state. -/
def SampleAggregate (state command : Bytes) (result : ApplyResult) : Prop :=
  state = [] ∧ command = [1] ∧ result = sampleApplied

def sampleReceipt : StoredReceipt := ⟨2, [8], [⟨"k", [9]⟩]⟩

def sampleCommit : CommitRequest := ⟨⟨"o", false, 0, 0⟩, true, [7], [⟨"c", sampleReceipt⟩], 11⟩

/-- A commit that passed its barrier. -/
def Store.commit (store : Store) (caller revision : Nat) (commit : CommitRequest) : Store :=
  { store.append "o" ⟨caller, sampleRequest, commit⟩ with durable := update store.durable "o" revision }

def sampleStore : Store := World.initial.store.commit 0 1 sampleCommit

def calm : Exchange Answer := ⟨.check .contextErr, none⟩

/-- What a call asks before its transaction. -/
def sampleOpening : Past :=
  [calm, ⟨.check (.validateCommand [1]), none⟩, calm, ⟨.check .openBinding, none⟩, calm]

def sampleBarrier (revision : Nat) : Past :=
  [calm, calm, ⟨.check .openBinding, none⟩, ⟨.randomMarker, .ok [5]⟩, calm,
    ⟨.confirmBarrier ⟨⟨"o", revision⟩, [5]⟩, .ok ⟨⟨"o", revision⟩, [5], revision, 1⟩⟩, calm]

/-- The call commits, passes the barrier, and gets an empty permit. -/
def sampleHeard : Past :=
  sampleOpening ++ [⟨.readSnapshot "o", .ok ⟨⟨"o", false, 0, 0⟩, []⟩⟩, calm, calm,
    ⟨.check (.validateState []), none⟩, ⟨.check (.authorize [] [1]), none⟩, calm,
    ⟨.readReceipt ⟨⟨"o", false, 0, 0⟩, "c"⟩, .ok ⟨⟨"o", false, 0, 0⟩, "c", false, .zero⟩⟩, calm,
    ⟨.apply [] [1], .ok sampleApplied⟩, ⟨.check (.validateState [7]), none⟩, calm, calm, calm, calm,
    ⟨.compareAndCommit sampleCommit, .ok ⟨⟨"o", true, 1, 8⟩, 11, ⟨"o", 1⟩⟩⟩] ++ sampleBarrier 1 ++
    [⟨.seal ⟨"o", "c", 2, 0⟩ ⟨"k", [9]⟩, .ok []⟩]

def retryCommit (revision : Nat) : CommitRequest :=
  ⟨⟨"o", true, revision, 8⟩, false, [], [], BitVec.ofNat 256 (100 * revision)⟩

/-- A retry finds the receipt, and its permit is sealed. -/
def retryHeard (revision : Nat) : Past :=
  sampleOpening ++ [⟨.readSnapshot "o", .ok ⟨⟨"o", true, revision, 8⟩, [7]⟩⟩, calm, calm,
    ⟨.check (.validateState [7]), none⟩, ⟨.check (.authorize [7] [1]), none⟩, calm,
    ⟨.readReceipt ⟨⟨"o", true, revision, 8⟩, "c"⟩, .ok ⟨⟨"o", true, revision, 8⟩, "c", true, sampleReceipt⟩⟩,
    calm, calm, calm, ⟨.compareAndCommit (retryCommit revision),
      .ok ⟨⟨"o", true, revision + 1, 8⟩, BitVec.ofNat 256 (100 * revision), ⟨"o", revision + 1⟩⟩⟩] ++
    sampleBarrier (revision + 1) ++ [⟨.seal ⟨"o", "c", 2, 0⟩ ⟨"k", [9]⟩, .ok [6]⟩]

theorem sample_served :
    Served samplePlatform SampleAggregate 0 sampleRequest World.initial.store sampleHeard sampleStore := by
  have calm : ∀ {store : Store} {check : Check}, Answers samplePlatform SampleAggregate 0 sampleRequest store
      (.check check) none store := .check _ _
  refine .cons calm <| .cons calm <| .cons calm <| .cons calm <| .cons calm <| .cons (.readSnapshot "o") <|
    .cons calm <| .cons calm <| .cons calm <| .cons calm <| .cons calm <|
    .cons (.readReceipt "o" "c" (Nat.zero_le _)) <| .cons calm <| .cons (.apply ⟨rfl, rfl, rfl⟩) <| .cons calm <|
    .cons calm <| .cons calm <| .cons calm <| .cons calm <| .cons (.commit rfl ?_ nofun) <| .cons calm <|
    .cons calm <| .cons calm <| .cons (.randomMarker _) <| .cons calm <| .cons (.barrier _ ?_ ?_ ?_) <|
    .cons calm <| .cons (.seal _ _ _) <| .nil _
  · exact fun _ _ _ => nofun
  all_goals decide

/-- A retry on a log whose state and receipts are those of the first commit. -/
theorem retry_served {store : Store} {caller revision : Nat}
    (snapshot : (store.logs "o").snapshot samplePlatform "o" = ⟨⟨"o", true, revision, 8⟩, [7]⟩)
    (receipts : (store.logs "o").receipts = [⟨"c", sampleReceipt⟩]) (durable : store.durable "o" ≤ revision + 1) :
    Served samplePlatform SampleAggregate caller sampleRequest store (retryHeard revision)
      (store.commit caller (revision + 1) (retryCommit revision)) := by
  have calm : ∀ {store : Store} {check : Check}, Answers samplePlatform SampleAggregate caller sampleRequest store
      (.check check) none store := .check _ _
  have length : (store.logs "o").length = revision := congrArg (fun found : Snapshot => found.revision) snapshot
  have read : Answers samplePlatform SampleAggregate caller sampleRequest store (.readSnapshot "o")
      (.ok ⟨⟨"o", true, revision, 8⟩, [7]⟩) store := snapshot ▸ .readSnapshot "o"
  have found : Answers samplePlatform SampleAggregate caller sampleRequest store
      (.readReceipt ⟨⟨"o", true, revision, 8⟩, "c"⟩) (.ok ⟨⟨"o", true, revision, 8⟩, "c", true, sampleReceipt⟩) store := by
    have whole : (store.logs "o").take revision = store.logs "o" := by rw [← length, take_length]
    have looked : (store.logs "o").lookup samplePlatform "o" "c" =
        ⟨⟨"o", true, revision, 8⟩, "c", true, sampleReceipt⟩ := by
      simp [Log.lookup, receipts, snapshot]
    have answered : Answers samplePlatform SampleAggregate caller sampleRequest store _ _ store :=
      .readReceipt "o" "c" length.ge
    rwa [whole, looked, snapshot] at answered
  refine .cons calm <| .cons calm <| .cons calm <| .cons calm <| .cons calm <| .cons read <|
    .cons calm <| .cons calm <| .cons calm <| .cons calm <| .cons calm <| .cons found <| .cons calm <|
    .cons calm <| .cons calm <| .cons (.commit ?_ nofun nofun) <| .cons calm <|
    .cons calm <| .cons calm <| .cons (.randomMarker _) <| .cons calm <| .cons (.barrier _ le_rfl durable ?_) <|
    .cons calm <| .cons (.seal _ _ _) <| .nil _
  · exact congrArg Snapshot.toSnapshotRef snapshot.symm
  · simp [Store.append, retryCommit, length]

def sampleResult (revision : Nat) : Result := ⟨2, [8], [[6]], revision, true, true⟩

/-- The first call commits and fails; its two retries return. -/
theorem sample_run : ∃ events failed first second, Run (Step samplePlatform SampleAggregate) .initial events
      ⟨(sampleStore.commit 1 2 (retryCommit 1)).commit 2 3 (retryCommit 2),
        update (update (update World.initial.calls 0 (some ⟨sampleHost, sampleRequest, sampleHeard, failed⟩)) 1
          (some ⟨sampleHost, sampleRequest, retryHeard 1, first⟩)) 2
          (some ⟨sampleHost, sampleRequest, retryHeard 2, second⟩)⟩ ∧
    failed = .done (.error Sentinel.invalidPermit.error) ∧ first = .done (.ok (sampleResult 2)) ∧
    second = .done (.ok (sampleResult 3)) := by
  obtain ⟨failed, resumed, failedResult⟩ : ∃ program,
      (sampleHost.call samplePlatform sampleRequest).resume sampleHeard = some program ∧
        program.result? = some (.error Sentinel.invalidPermit.error) := ⟨_, rfl, rfl⟩
  obtain ⟨first, firstResumed, firstResult⟩ : ∃ program,
      (sampleHost.call samplePlatform sampleRequest).resume (retryHeard 1) = some program ∧
        program.result? = some (.ok (sampleResult 2)) := ⟨_, rfl, rfl⟩
  obtain ⟨second, secondResumed, secondResult⟩ : ∃ program,
      (sampleHost.call samplePlatform sampleRequest).resume (retryHeard 2) = some program ∧
        program.result? = some (.ok (sampleResult 3)) := ⟨_, rfl, rfl⟩
  have one : Served samplePlatform SampleAggregate 1 sampleRequest sampleStore (retryHeard 1) _ :=
    retry_served rfl rfl (by decide)
  have two : Served samplePlatform SampleAggregate 2 sampleRequest (sampleStore.commit 1 2 (retryCommit 1))
      (retryHeard 2) _ := retry_served rfl rfl (by decide)
  have run := ((run_of_call rfl sample_served resumed).append (run_of_call rfl one firstResumed)).append
    (run_of_call rfl two secondResumed)
  exact ⟨_, failed, first, second, run, Program.result?_eq_some failedResult, Program.result?_eq_some firstResult,
    Program.result?_eq_some secondResult⟩

end Sample

section Theorem

/-- Every world that the hosts reach has executed each command once. -/
theorem exactly_once {platform : Platform} {aggregate : Bytes → Bytes → ApplyResult → Prop} {world : World}
    {events : List Event} (run : Run (Step platform aggregate) .initial events world) :
    ∃ history, ExactlyOnce platform aggregate world history := by
  have sound := sound_of_run run
  choose states history executed using sound.executes
  refine ⟨history, fun objectId => (executed objectId).state_eq ▸ executed objectId,
    fun objectId => (executed objectId).nodup, ?_, fun objectId entry member => ?_, fun objectId entry member => ?_,
    sound.single, ?_, fun caller binding claims next call running asks => ?_⟩
  · intro first second one two firstCall secondCall firstRuns secondRuns firstDone secondDone object command
    obtain ⟨application, known, reported⟩ := reports_of_done sound firstRuns firstDone (executed _)
    obtain ⟨other, also, alike⟩ := reports_of_done sound secondRuns secondDone (executed _)
    rw [← object] at also
    have same : other = application := by
      refine application_unique (executed _).nodup also known ?_
      rw [alike.commandId, reported.commandId, command]
    exact ⟨application, known, reported, same ▸ alike⟩
  · obtain ⟨old, known, same, digest⟩ := (executed objectId).known entry member
    refine ⟨old, known, same, ?_⟩
    by_cases equal : old.command = entry.request.command
    · exact .inl equal
    · exact .inr ⟨equal, digest⟩
  · obtain ⟨call, running, request, object, -⟩ := sound.owned objectId entry member
    exact ⟨request ▸ object, call, running, request⟩
  · rintro caller error call running - settled objectId entry member rfl
    obtain ⟨owner, found, -, -, unsettled⟩ := sound.owned objectId entry member
    cases running.symm.trans found
    exact unsettled settled
  · exact sealed_durable sound running asks (executed _)

/-- A call that committed and failed, and two retries that returned: all three are one application. -/
theorem exactly_once_sample : ∃ events world history first second,
    Run (Step samplePlatform SampleAggregate) .initial events world ∧
      ExactlyOnce samplePlatform SampleAggregate world history ∧ (world.store.logs "o").length = 3 ∧
      world.calls 1 = some first ∧ world.calls 2 = some second ∧
      ∃ application ∈ history "o", first.Reports samplePlatform (sampleResult 2) application ∧
        second.Reports samplePlatform (sampleResult 3) application := by
  obtain ⟨events, failed, first, second, run, -, one, two⟩ := sample_run
  obtain ⟨history, once⟩ := exactly_once run
  exact ⟨events, _, history, _, _, run, once, rfl, rfl, rfl, once.results 1 2 _ _ _ _ rfl rfl one two rfl rfl⟩

/-- A call whose commit and barrier succeeded may return an error: its sealer returned an empty permit, and
the state of the object has changed. -/
theorem failed_call_changes_state : ∃ events world call,
    Run (Step samplePlatform SampleAggregate) .initial events world ∧ world.calls 0 = some call ∧
      call.program = .done (.error Sentinel.invalidPermit.error) ∧
      (∃ commit result, (⟨.compareAndCommit commit, .ok result⟩ : Exchange Answer) ∈ call.past) ∧
      (∃ barrier response, (⟨.confirmBarrier barrier, .ok response⟩ : Exchange Answer) ∈ call.past) ∧
      (World.initial.store.logs "o").state = [] ∧ (world.store.logs "o").state = [7] := by
  obtain ⟨events, failed, first, second, run, done, -⟩ := sample_run
  refine ⟨events, _, ⟨sampleHost, sampleRequest, sampleHeard, failed⟩, run, rfl, done,
    ⟨sampleCommit, ⟨⟨"o", true, 1, 8⟩, 11, ⟨"o", 1⟩⟩, ?_⟩, ⟨⟨⟨"o", 1⟩, [5]⟩, ⟨⟨"o", 1⟩, [5], 1, 1⟩, ?_⟩, rfl, rfl⟩
  · simp [sampleHeard]
  · simp [sampleHeard, sampleBarrier]

end Theorem

end Circulusd.Celld
