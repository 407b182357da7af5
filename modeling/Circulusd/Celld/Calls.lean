import Circulusd.Celld.Host

/-
What a single call has heard before it commits, seals and returns, whatever its environment answers.
-/

namespace Circulusd.Celld

open Dialogue Protocol Script List

abbrev Past := List (Exchange Answer)

section Growth

variable {past later : Past}

/-- Questions other than those that the guards speak of. -/
def Question.Quiet : Question → Prop
  | .compareAndCommit _ | .seal .. => False
  | _ => True

/-- The call has only asked quiet questions since. -/
def Grows (past later : Past) : Prop :=
  ∃ more, later = past ++ more ∧ ∀ exchange ∈ more, exchange.1.Quiet

theorem Grows.refl (past : Past) : Grows past past := ⟨[], by simp, by simp⟩

theorem Grows.trans {first second third : Past} (one : Grows first second) (two : Grows second third) :
    Grows first third := by
  obtain ⟨front, rfl, quietFront⟩ := one
  obtain ⟨back, rfl, quietBack⟩ := two
  refine ⟨front ++ back, by rw [append_assoc], fun exchange member => ?_⟩
  exact (mem_append.mp member).elim (quietFront exchange) (quietBack exchange)

theorem Grows.step (grows : Grows past later) (question : Question) (quiet : question.Quiet)
    (answer : Answer question) : Grows past (later ++ [⟨question, answer⟩]) :=
  grows.trans ⟨[⟨question, answer⟩], rfl, by simpa using quiet⟩

theorem Grows.subset (grows : Grows past later) : past ⊆ later := by
  obtain ⟨more, rfl, -⟩ := grows
  exact subset_append_left past more

/-- Every commit that was asked for met a snapshot conflict. -/
def Settled (past : Past) : Prop :=
  ∀ request answer, (⟨.compareAndCommit request, answer⟩ : Exchange Answer) ∈ past →
    ∃ error, answer = .error error ∧ error.is .snapshotConflict = true

theorem Settled.grows (settled : Settled past) (grows : Grows past later) : Settled later := by
  obtain ⟨more, rfl, quiet⟩ := grows
  intro request answer member
  rcases mem_append.mp member with before | after
  · exact settled request answer before
  · exact (quiet _ after).elim

theorem Settled.conflict {past : Past} (settled : Settled past) {request : CommitRequest} {error : Error}
    (conflict : error.is .snapshotConflict = true) :
    Settled (past ++ [⟨.compareAndCommit request, .error error⟩]) := by
  intro other answer member
  rcases mem_append.mp member with before | last
  · exact settled other answer before
  · cases mem_singleton.mp last
    exact ⟨error, rfl, conflict⟩

end Growth

section Quiet

variable {guard : Past → Question → Prop} (free : ∀ past question, question.Quiet → guard past question)
  {frame : Frame} {past : Past} {α β : Type}

/-- The script asks quiet questions only and leaves the variables as they are. -/
def Calm (guard : Past → Question → Prop) (script : Code α) : Prop :=
  ∀ frame past, script.Holds guard (fun later _ state => Grows past later ∧ state = frame) frame past

/-- What comes after a calm script starts where it started, with a longer past. -/
theorem Calm.then {script : Code α} (calm : Calm guard script) {next : α → Code β}
    {condition : Past → Except Error β → Frame → Prop}
    (failed : ∀ later error, Grows past later → condition later (.error error) frame)
    (passed : ∀ later value, Grows past later → (next value).Holds guard condition frame later) :
    Script.Holds guard condition (script >>= next) frame past := by
  rw [holds_bind]
  refine (calm frame past).mono fun later outcome state grown => ?_
  obtain ⟨grows, rfl⟩ := grown
  cases outcome with
  | error error => exact failed later error grows
  | ok value => exact passed later value grows

theorem calm_fail (error : Error) : Calm guard (Script.fail error : Code α) :=
  fun _ past => ⟨Grows.refl past, rfl⟩

theorem calm_pure (value : α) : Calm guard (pure value : Code α) :=
  fun _ past => ⟨Grows.refl past, rfl⟩

theorem calm_get : Calm guard (Script.get : Code Frame) :=
  fun _ past => ⟨Grows.refl past, rfl⟩

theorem calm_refuseIf (condition : Prop) [Decidable condition] (error : Error) :
    Calm guard (Script.refuseIf condition error : Code Unit) := by
  unfold refuseIf
  split
  · exact calm_fail error
  · exact calm_pure ()

theorem Calm.bind {script : Code α} (calm : Calm guard script) {next : α → Code β}
    (others : ∀ value, Calm guard (next value)) : Calm guard (script >>= next) := by
  intro frame past
  refine calm.then (fun later error grows => ⟨grows, rfl⟩) fun later value grows => ?_
  exact (others value frame later).mono fun last outcome state grown => ⟨grows.trans grown.1, grown.2⟩

include free

theorem calm_ask (question : Question) (quiet : question.Quiet) :
    Calm guard (Script.ask question : Code (Answer question)) :=
  fun _ past => ⟨free past question quiet, fun answer => ⟨(Grows.refl past).step question quiet answer, rfl⟩⟩

theorem calm_check (question : Check) : Calm guard (check question) := by
  refine (calm_ask free (.check question) trivial).bind fun answer => ?_
  cases answer with
  | some error => exact calm_fail error
  | none => exact calm_pure ()

theorem calm_nativeError (error : Error) : Calm guard (nativeError error) := by
  refine (calm_ask free (.check .contextErr) trivial).bind fun answer => ?_
  cases answer with
  | some found => exact calm_pure found
  | none =>
    dsimp only
    split <;> exact calm_pure _

theorem calm_inject (host : Host) (point : FaultPoint) : Calm guard (host.inject point) := by
  unfold Host.inject
  split
  · exact calm_check free _
  · exact calm_pure ()

theorem calm_txReady : Calm guard txReady := by
  refine (calm_check free .contextErr).bind fun _ => calm_get.bind fun frame => ?_
  split
  · exact calm_fail _
  · exact calm_pure ()

theorem calm_storageReady : Calm guard storageReady :=
  (calm_check free .contextErr).bind fun _ => calm_check free .openBinding

end Quiet

section Transactions

variable {guard : Past → Question → Prop} (free : ∀ past question, question.Quiet → guard past question)
  {frame : Frame} {past : Past} (platform : Platform) (bounds : Bounds) {commandId : String}

theorem txRefuseIf_then {α : Type} {refused : Prop} [Decidable refused] {error : Error} {next : Unit → Code α}
    {condition : Past → Except Error α → Frame → Prop} (failed : ∀ state, condition past (.error error) state)
    (passed : ¬ refused → (next ()).Holds guard condition frame past) :
    Script.Holds guard condition (txRefuseIf refused error >>= next) frame past := by
  rw [holds_bind]
  unfold txRefuseIf
  split
  case isTrue => exact failed _
  case isFalse ok => exact passed ok

/-- A command that the transaction has read is not read again. -/
theorem lookup_cached_then {α : Type} {read : ReceiptRead} {next : ReceiptRead → Code α}
    {condition : Past → Except Error α → Frame → Prop} (cached : frame.tx.reads.lookup commandId = some read)
    (passed : (next read).Holds guard condition frame past) :
    Script.Holds guard condition (lookup platform bounds commandId >>= next) frame past := by
  rw [holds_bind]
  refine get_then ?_
  rw [cached]
  exact passed

include free

theorem readState_spec (unwritten : frame.tx.stateWritten = false) :
    Script.Holds guard (fun later outcome state => Grows past later ∧ state = frame ∧
      ∀ value, outcome = .ok value → value = frame.tx.state) readState frame past := by
  refine (calm_txReady free).then (fun later error grows => ⟨grows, rfl, nofun⟩) fun later _ grows => ?_
  refine ⟨grows, rfl, fun value same => ?_⟩
  rw [unwritten] at same
  exact (Except.ok.inj same).symm

/-- The receipt was read at the snapshot of the transaction, which keeps what it read. -/
def Frame.Reads (frame : Frame) (commandId : String) (later : Past) (read : ReceiptRead) (state : Frame) : Prop :=
  (∃ response, (⟨.readReceipt ⟨frame.tx.snapshot, commandId⟩, .ok response⟩ : Exchange Answer) ∈ later ∧
    read = ⟨response.receipt, response.found⟩) ∧
  state = { frame with tx := { frame.tx with
    reads := (commandId, read) :: frame.tx.reads, footprint := state.tx.footprint } }

theorem lookup_spec (unread : frame.tx.reads = []) :
    Script.Holds guard (fun later outcome state => Grows past later ∧ ∀ read, outcome = .ok read →
      frame.Reads commandId later read state) (lookup platform bounds commandId) frame past := by
  have refl := Grows.refl past
  have missing : frame.tx.reads.lookup commandId = none := by rw [unread, lookup_nil]
  refine get_then ?_
  rw [missing]
  refine txRefuseIf_then (fun state => ⟨refl, nofun⟩) fun _ => ask_then (free _ _ trivial) fun answer => ?_
  have asked := refl.step (.readReceipt ⟨frame.tx.snapshot, commandId⟩) trivial answer
  cases answer with
  | error error =>
    refine (calm_nativeError free error).then (fun later _ grows => ⟨asked.trans grows, nofun⟩) fun later shown grows => ?_
    exact ⟨asked.trans grows, nofun⟩
  | ok response =>
    refine (calm_ask free (.check .contextErr) trivial).then (fun later _ grows => ⟨asked.trans grows, nofun⟩)
      fun later context grows => ?_
    have grown := asked.trans grows
    cases context with
    | some error => exact ⟨grown, nofun⟩
    | none =>
      refine txRefuseIf_then (fun state => ⟨grown, nofun⟩) fun _ => ?_
      refine txRefuseIf_then (fun state => ⟨grown, nofun⟩) fun _ => ?_
      refine txRefuseIf_then (fun state => ⟨grown, nofun⟩) fun _ => ?_
      refine txRefuseIf_then (fun state => ⟨grown, nofun⟩) fun _ => ?_
      refine ⟨grown, fun read same => ?_⟩
      cases same
      exact ⟨⟨response, grows.subset (by simp), rfl⟩, rfl⟩

theorem lookupReceipt_spec (unread : frame.tx.reads = []) (unwritten : frame.tx.writes = []) :
    Script.Holds guard (fun later outcome state => Grows past later ∧ ∀ read, outcome = .ok read →
      frame.Reads commandId later read state) (lookupReceipt platform bounds commandId) frame past := by
  refine (calm_txReady free).then (fun later _ grows => ⟨grows, nofun⟩) fun later _ grows => ?_
  have unstaged : frame.tx.writes.lookup commandId = none := by rw [unwritten, lookup_nil]
  refine txRefuseIf_then (fun state => ⟨grows, nofun⟩) fun _ => get_then ?_
  rw [unstaged]
  exact (lookup_spec free platform bounds unread).mono fun last outcome state spec => ⟨grows.trans spec.1, spec.2⟩

theorem writeState_spec {state : Bytes} :
    Script.Holds guard (fun later outcome after => Grows past later ∧ (outcome = .ok () →
      after = { frame with tx := { frame.tx with
        stagedState := state, stateWritten := true, footprint := after.tx.footprint } }))
      (writeState bounds state) frame past := by
  refine (calm_txReady free).then (fun later _ grows => ⟨grows, nofun⟩) fun later _ grows => ?_
  refine txRefuseIf_then (fun state => ⟨grows, nofun⟩) fun _ => get_then ?_
  refine txRefuseIf_then (fun state => ⟨grows, nofun⟩) fun _ => ?_
  exact ⟨grows, fun _ => rfl⟩

/-- A receipt is staged when the transaction has read that there is none. -/
theorem writeReceipt_spec {receipt missing : StoredReceipt} (unwritten : frame.tx.writes = [])
    (read : frame.tx.reads.lookup commandId = some ⟨missing, false⟩) :
    Script.Holds guard (fun later outcome after => Grows past later ∧ (outcome = .ok () →
      after = { frame with tx := { frame.tx with
        writes := [(commandId, receipt)], footprint := after.tx.footprint } }))
      (writeReceipt platform bounds commandId receipt) frame past := by
  refine (calm_txReady free).then (fun later _ grows => ⟨grows, nofun⟩) fun later _ grows => ?_
  refine txRefuseIf_then (fun state => ⟨grows, nofun⟩) fun _ => ?_
  split
  case h_1 error _ => exact ⟨grows, nofun⟩
  case h_2 =>
    have unstaged : frame.tx.writes.lookup commandId = none := by rw [unwritten, lookup_nil]
    refine get_then ?_
    rw [unstaged]
    refine lookup_cached_then platform bounds read ?_
    refine get_then ?_
    refine txRefuseIf_then (fun state => ⟨grows, nofun⟩) fun _ => ?_
    refine txRefuseIf_then (fun state => ⟨grows, nofun⟩) fun _ => ⟨grows, fun _ => ?_⟩
    rw [← unwritten]

end Transactions

section Callback

/-- What a call has heard when its callback succeeds: either the receipt of its command is there, or it is
not and the aggregate gave the state and the receipt that are staged now. -/
inductive Staged (platform : Platform) (request : Request) (snapshot : Snapshot) (past : Past) (frame : Frame) :
    Prop where
  | replayed {response : ReceiptResult}
      (read : (⟨.readReceipt ⟨snapshot.toSnapshotRef, request.commandId⟩, .ok response⟩ : Exchange Answer) ∈ past)
      (found : response.found = true) (same : response.receipt.commandDigest = platform.sha256 request.command)
      (receipt : frame.receipt = response.receipt) (unwritten : frame.tx.stateWritten = false)
      (empty : frame.tx.writes = [])
  | applied {response : ReceiptResult} {applied : ApplyResult}
      (read : (⟨.readReceipt ⟨snapshot.toSnapshotRef, request.commandId⟩, .ok response⟩ : Exchange Answer) ∈ past)
      (missing : response.found = false)
      (asked : (⟨.apply snapshot.state request.command, .ok applied⟩ : Exchange Answer) ∈ past)
      (receipt : frame.receipt = Host.receiptOf platform request applied)
      (written : frame.tx.stateWritten = true) (state : frame.tx.stagedState = applied.nextState)
      (writes : frame.tx.writes = [(request.commandId, frame.receipt)])

theorem Staged.grows {platform : Platform} {request : Request} {snapshot : Snapshot} {past later : Past} {frame : Frame}
    (staged : Staged platform request snapshot past frame) (grows : Grows past later) :
    Staged platform request snapshot later frame := by
  cases staged with
  | replayed read found same receipt unwritten empty =>
    exact .replayed (grows.subset read) found same receipt unwritten empty
  | applied read missing asked receipt written state writes =>
    exact .applied (grows.subset read) missing (grows.subset asked) receipt written state writes

variable {guard : Past → Question → Prop} (free : ∀ past question, question.Quiet → guard past question)
  {frame : Frame} {past : Past} (platform : Platform) (host : Host) (request : Request)

include free

theorem replay_spec (stored : StoredReceipt) :
    Script.Holds guard (fun later outcome after => Grows past later ∧ (outcome = .ok () →
      stored.commandDigest = platform.sha256 request.command ∧
        after = { frame with receipt := stored, replayed := true })) (host.replay platform request stored) frame past := by
  have refl := Grows.refl past
  refine refuseIf_then ⟨refl, nofun⟩ fun same => ?_
  refine refuseIf_then ⟨refl, nofun⟩ fun _ => ?_
  refine refuseIf_then ⟨refl, nofun⟩ fun _ => modify_then ?_
  refine (calm_inject free host .beforeCommit _ _).mono fun later outcome state grown => ?_
  exact ⟨grown.1, fun _ => ⟨not_not.mp same, grown.2⟩⟩

theorem apply_spec {state : Bytes} {missing : StoredReceipt} (unwritten : frame.tx.writes = [])
    (read : frame.tx.reads.lookup request.commandId = some ⟨missing, false⟩) :
    Script.Holds guard (fun later outcome after => Grows past later ∧ (outcome = .ok () → ∃ applied,
      (⟨.apply state request.command, .ok applied⟩ : Exchange Answer) ∈ later ∧
        after = { frame with
          receipt := Host.receiptOf platform request applied
          tx := { frame.tx with
            stagedState := applied.nextState
            stateWritten := true
            writes := [(request.commandId, Host.receiptOf platform request applied)]
            footprint := after.tx.footprint } })) (host.apply platform request state) frame past := by
  refine ask_then (free _ _ trivial) fun answer => ?_
  have grows := (Grows.refl past).step (.apply state request.command) trivial answer
  cases answer with
  | error error => exact ⟨grows, nofun⟩
  | ok applied =>
    refine refuseIf_then ⟨grows, nofun⟩ fun _ => ?_
    refine refuseIf_then ⟨grows, nofun⟩ fun _ => ?_
    refine refuseIf_then ⟨grows, nofun⟩ fun _ => ?_
    split
    case h_1 => exact ⟨grows, nofun⟩
    case h_2 =>
      have heard : (⟨.apply state request.command, .ok applied⟩ : Exchange Answer) ∈
          past ++ [⟨.apply state request.command, .ok applied⟩] := by simp
      refine (calm_check free _).then (fun _ _ more => ⟨grows.trans more, nofun⟩) fun checked _ more => ?_
      replace grows := grows.trans more
      replace heard := more.subset heard
      refine modify_then ?_
      rw [holds_bind]
      refine (writeState_spec free _).mono fun wrote outcome staged spec => ?_
      obtain ⟨more, stagedEq⟩ := spec
      replace grows := grows.trans more
      replace heard := more.subset heard
      cases outcome with
      | error error => exact ⟨grows, nofun⟩
      | ok =>
        replace stagedEq := stagedEq rfl
        rw [holds_bind]
        refine (writeReceipt_spec free platform _ (by rw [stagedEq]; exact unwritten)
          (by rw [stagedEq]; exact read)).mono fun wrote outcome finished spec => ?_
        obtain ⟨more, finishedEq⟩ := spec
        replace grows := grows.trans more
        replace heard := more.subset heard
        cases outcome with
        | error error => exact ⟨grows, nofun⟩
        | ok =>
          replace finishedEq := finishedEq rfl
          refine (calm_inject free host .beforeCommit _ _).mono fun final outcome state grown => ?_
          obtain ⟨more, rfl⟩ := grown
          refine ⟨grows.trans more, fun _ => ⟨applied, more.subset heard, ?_⟩⟩
          rw [stagedEq] at finishedEq
          exact finishedEq

theorem callback_spec {snapshot : Snapshot} (begun : frame.tx = Tx.begin snapshot) :
    Script.Holds guard (fun later outcome after => Grows past later ∧ (outcome = .ok () →
      Staged platform request snapshot later after ∧ after.tx.snapshot = snapshot.toSnapshotRef ∧
        after.invoked = true)) (host.callback platform request) frame past := by
  have unwritten : frame.tx.stateWritten = false := by rw [begun]; rfl
  have unread : frame.tx.reads = [] := by rw [begun]; rfl
  have unstaged : frame.tx.writes = [] := by rw [begun]; rfl
  have pinned : frame.tx.snapshot = snapshot.toSnapshotRef := by rw [begun]; rfl
  have held : frame.tx.state = snapshot.state := by rw [begun]; rfl
  refine modify_then ?_
  rw [holds_bind]
  refine (@readState_spec _ free { frame with invoked := true } past unwritten).mono fun later outcome state spec => ?_
  obtain ⟨grows, rfl, value⟩ := spec
  cases outcome with
  | error error => exact ⟨grows, nofun⟩
  | ok state =>
    obtain rfl : state = snapshot.state := (value state rfl).trans held
    refine refuseIf_then ⟨grows, nofun⟩ fun _ => ?_
    refine (calm_check free _).then (fun _ _ more => ⟨grows.trans more, nofun⟩) fun later _ more => ?_
    replace grows := grows.trans more
    refine (calm_check free _).then (fun _ _ more => ⟨grows.trans more, nofun⟩) fun later _ more => ?_
    replace grows := grows.trans more
    rw [holds_bind]
    refine (@lookupReceipt_spec _ free { frame with invoked := true } later platform _ request.commandId unread
      unstaged).mono fun last outcome after spec => ?_
    obtain ⟨more, spec⟩ := spec
    replace grows := grows.trans more
    cases outcome with
    | error error => exact ⟨grows, nofun⟩
    | ok read =>
      obtain ⟨⟨response, heard, rfl⟩, kept⟩ := spec read rfl
      rw [pinned] at heard
      dsimp only
      split
      case isTrue found =>
        refine (replay_spec free platform host request _).mono fun final outcome state spec => ?_
        obtain ⟨more, spec⟩ := spec
        refine ⟨grows.trans more, fun passed => ?_⟩
        obtain ⟨same, rfl⟩ := spec passed
        rw [kept]
        exact ⟨.replayed (more.subset heard) found same rfl unwritten unstaged, pinned, rfl⟩
      case isFalse missing =>
        replace missing : response.found = false := by simpa using missing
        have cached : after.tx.reads.lookup request.commandId = some ⟨response.receipt, false⟩ := by
          rw [kept, missing]
          simp
        refine (apply_spec free platform host request (by rw [kept]; exact unstaged) cached).mono
          fun final outcome state spec => ?_
        obtain ⟨more, spec⟩ := spec
        refine ⟨grows.trans more, fun passed => ?_⟩
        obtain ⟨applied, asked, final⟩ := spec passed
        rw [final, kept]
        exact ⟨.applied (more.subset heard) missing asked rfl rfl rfl rfl, pinned, rfl⟩

end Callback

section Commits

/-- What a call has heard when it asks for a commit, and the receipt that it goes on with. -/
inductive Prepared (platform : Platform) (request : Request) (past : Past) : CommitRequest → StoredReceipt → Prop where
  | replayed {commit : CommitRequest} {response : ReceiptResult} (object : commit.snapshot.objectId = request.objectId)
      (read : (⟨.readReceipt ⟨commit.snapshot, request.commandId⟩, .ok response⟩ : Exchange Answer) ∈ past)
      (found : response.found = true) (same : response.receipt.commandDigest = platform.sha256 request.command)
      (unwritten : commit.stateWritten = false) (empty : commit.receipts = []) :
      Prepared platform request past commit response.receipt
  | applied {commit : CommitRequest} {snapshot : Snapshot} {response : ReceiptResult} {applied : ApplyResult}
      (object : commit.snapshot.objectId = request.objectId)
      (current : (⟨.readSnapshot request.objectId, .ok snapshot⟩ : Exchange Answer) ∈ past)
      (pinned : commit.snapshot = snapshot.toSnapshotRef)
      (read : (⟨.readReceipt ⟨commit.snapshot, request.commandId⟩, .ok response⟩ : Exchange Answer) ∈ past)
      (missing : response.found = false)
      (asked : (⟨.apply snapshot.state request.command, .ok applied⟩ : Exchange Answer) ∈ past)
      (written : commit.stateWritten = true) (state : commit.state = applied.nextState)
      (receipts : commit.receipts = [⟨request.commandId, Host.receiptOf platform request applied⟩]) :
      Prepared platform request past commit (Host.receiptOf platform request applied)

variable {platform : Platform} {request : Request} {past later : Past}
  {receipt : StoredReceipt} {frame : Frame} {revision : Nat}

theorem Prepared.mono {commit : CommitRequest}
    (prepared : Prepared platform request past commit receipt) (subset : past ⊆ later) :
    Prepared platform request later commit receipt := by
  cases prepared with
  | replayed object read found same unwritten empty =>
    exact .replayed object (subset read) found same unwritten empty
  | applied object current pinned read missing asked written state receipts =>
    exact .applied object (subset current) pinned (subset read) missing (subset asked) written state receipts

theorem Staged.prepared {snapshot : Snapshot} (staged : Staged platform request snapshot past frame)
    (object : snapshot.objectId = request.objectId)
    (current : (⟨.readSnapshot request.objectId, .ok snapshot⟩ : Exchange Answer) ∈ past)
    (pinned : frame.tx.snapshot = snapshot.toSnapshotRef) (digest : Digest) :
    Prepared platform request past (frame.tx.commitRequest digest) frame.receipt := by
  have place : (frame.tx.commitRequest digest).snapshot = snapshot.toSnapshotRef := pinned
  cases staged with
  | replayed read found same receipt unwritten empty =>
    rw [receipt]
    refine .replayed (by rw [place, object]) (by rw [place]; exact read) found same unwritten ?_
    simp [Tx.commitRequest, Tx.receipts, empty]
  | applied read missing asked receipt written state writes =>
    rw [receipt]
    refine .applied (by rw [place, object]) current place (by rw [place]; exact read) missing asked written ?_ ?_
    · simp [Tx.commitRequest, written, state]
    · simp [Tx.commitRequest, Tx.receipts, writes, receipt]

/-- A commit of the call succeeded, and left its receipt under a revision. -/
def Committed (platform : Platform) (request : Request) (past : Past) (receipt : StoredReceipt) (revision : Nat) :
    Prop :=
  ∃ commit result, (⟨.compareAndCommit commit, .ok result⟩ : Exchange Answer) ∈ past ∧
    Prepared platform request past commit receipt ∧ revision = commit.snapshot.revision + 1

theorem Committed.mono (committed : Committed platform request past receipt revision) (subset : past ⊆ later) :
    Committed platform request later receipt revision := by
  obtain ⟨commit, result, asked, prepared, same⟩ := committed
  exact ⟨commit, result, subset asked, prepared.mono subset, same⟩

/-- The commit of the call passed the barrier. -/
def Confirmed (platform : Platform) (request : Request) (past : Past) (receipt : StoredReceipt) (revision : Nat) :
    Prop :=
  Committed platform request past receipt revision ∧ ∃ marker response,
    (⟨.confirmBarrier ⟨⟨request.objectId, revision⟩, marker⟩, .ok response⟩ : Exchange Answer) ∈ past

theorem Confirmed.mono (confirmed : Confirmed platform request past receipt revision) (subset : past ⊆ later) :
    Confirmed platform request later receipt revision := by
  obtain ⟨committed, marker, response, asked⟩ := confirmed
  exact ⟨committed.mono subset, marker, response, subset asked⟩

/-- The guard of a call: it commits what it prepared, once at most after anything but a conflict, and it
seals the claims of a receipt whose commit passed the barrier. -/
def Guarded (platform : Platform) (request : Request) (past : Past) : Question → Prop
  | .compareAndCommit commit => Settled past ∧ ∃ receipt, Prepared platform request past commit receipt
  | .seal binding claims => ∃ receipt revision, Confirmed platform request past receipt revision ∧
      binding.objectId = request.objectId ∧ binding.commandId = request.commandId ∧
      binding.commandDigest = platform.sha256 request.command ∧
      receipt.capabilityClaims[binding.claimIndex]? = some claims
  | _ => True

theorem guarded_quiet (past : Past) (question : Question) (quiet : question.Quiet) :
    Guarded platform request past question := by
  cases question
  case compareAndCommit | «seal» => exact quiet.elim
  all_goals trivial

/-- A transaction that succeeds has committed the receipt in the variable of the call. -/
theorem attempts_spec (storage : Storage) (host : Host) (remaining : Nat) (settled : Settled past) :
    Script.Holds (Guarded platform request) (fun later outcome state => ∀ token, outcome = .ok token →
      Committed platform request later state.receipt token.revision ∧ token.objectId = request.objectId)
      (attempts platform storage request.objectId (host.callback platform request) remaining) frame past := by
  have free := @guarded_quiet platform request
  induction remaining generalizing frame past with
  | zero => exact nofun
  | succ remaining ih =>
    refine (calm_check free .contextErr).then (fun _ _ _ => nofun) fun begun _ grows => ?_
    replace settled := settled.grows grows
    refine ask_then trivial fun answer => ?_
    have asked := (Grows.refl begun).step (.readSnapshot request.objectId) trivial answer
    replace settled := settled.grows asked
    cases answer with
    | error error =>
      refine (calm_check free .contextErr).then (fun _ _ _ => nofun) fun checked _ grows => ?_
      split
      case isTrue => exact ih (settled.grows grows)
      case isFalse => exact (calm_nativeError free error).then (fun _ _ _ => nofun) fun _ _ _ => nofun
    | ok snapshot =>
      have current : (⟨.readSnapshot request.objectId, .ok snapshot⟩ : Exchange Answer) ∈
          begun ++ [⟨.readSnapshot request.objectId, .ok snapshot⟩] := by simp
      refine (calm_check free .contextErr).then (fun _ _ _ => nofun) fun checked _ grows => ?_
      replace settled := settled.grows grows
      replace current := grows.subset current
      refine refuseIf_then nofun fun ok => modify_then ?_
      have valid := not_not.mp ok
      rw [holds_bind, holds_attempt]
      refine (callback_spec free platform host request rfl).mono fun called outcome after spec => ?_
      obtain ⟨grows, spec⟩ := spec
      replace settled := settled.grows grows
      replace current := grows.subset current
      refine (calm_check free .contextErr).then (fun _ _ _ => nofun) fun ready _ grows => ?_
      replace settled := settled.grows grows
      replace current := grows.subset current
      refine get_then ?_
      split
      case h_1 =>
        split
        case isTrue => exact ih settled
        case isFalse => exact nofun
      case h_2 =>
        split
        case h_1 => exact nofun
        case h_2 =>
          obtain ⟨staged, pinned, -⟩ := spec rfl
          dsimp only
          split
          case h_1 => exact nofun
          case h_2 digest _ =>
            refine (calm_check free .contextErr).then (fun _ _ _ => nofun) fun sent _ more => ?_
            replace settled := settled.grows more
            have prepared := (staged.grows (grows.trans more)).prepared valid.1 (more.subset current) pinned digest
            refine ask_then ⟨settled, _, prepared⟩ fun answer => ?_
            cases answer with
            | error error =>
              refine (calm_check free .contextErr).then (fun _ _ _ => nofun) fun heard _ later => ?_
              split
              case isTrue conflict => exact ih ((settled.conflict conflict).grows later)
              case isFalse => exact (calm_nativeError free error).then (fun _ _ _ => nofun) fun _ _ _ => nofun
            | ok result =>
              refine (calm_check free .contextErr).then (fun _ _ _ => nofun) fun heard _ later => ?_
              refine refuseIf_then nofun fun ok => ?_
              intro token same
              cases same
              push Not at ok
              obtain ⟨-, -, tokenEq⟩ := ok
              refine ⟨⟨_, result, later.subset (by simp), prepared.mono ?_, ?_⟩, ?_⟩
              · exact List.Subset.trans (subset_append_left _ _) later.subset
              · rw [tokenEq]
                change snapshot.revision + 1 = after.tx.snapshot.revision + 1
                rw [pinned]
              · rw [tokenEq]

theorem durabilityBarrier_spec (token : CommitToken) :
    Script.Holds (Guarded platform request) (fun later outcome state => Grows past later ∧ state = frame ∧
      (outcome = .ok () → ∃ marker response,
        (⟨.confirmBarrier ⟨token, marker⟩, .ok response⟩ : Exchange Answer) ∈ later))
      (durabilityBarrier platform token) frame past := by
  have free := @guarded_quiet platform request
  refine (calm_storageReady free).then (fun _ _ grows => ⟨grows, rfl, nofun⟩) fun ready _ first => ?_
  refine refuseIf_then ⟨first, rfl, nofun⟩ fun _ => ask_then trivial fun random => ?_
  have drawn := first.step .randomMarker trivial random
  cases random with
  | error error => exact ⟨drawn, rfl, nofun⟩
  | ok marker =>
    refine (calm_check free .contextErr).then (fun _ _ grows => ⟨drawn.trans grows, rfl, nofun⟩) fun sent _ more => ?_
    refine ask_then trivial fun answer => ?_
    have asked := (drawn.trans more).step (.confirmBarrier ⟨token, marker⟩) trivial answer
    cases answer with
    | error error =>
      exact (calm_nativeError free error).then (fun _ _ grows => ⟨asked.trans grows, rfl, nofun⟩)
        fun _ _ grows => ⟨asked.trans grows, rfl, nofun⟩
    | ok response =>
      refine (calm_check free .contextErr).then (fun _ _ grows => ⟨asked.trans grows, rfl, nofun⟩)
        fun heard _ later => ?_
      refine (calm_refuseIf _ _ _ _).mono fun last outcome state grown => ?_
      obtain ⟨grows, rfl⟩ := grown
      refine ⟨(asked.trans later).trans grows, rfl, fun _ => ⟨marker, response, ?_⟩⟩
      exact grows.subset (later.subset (by simp))

/-- The sealer gave each permit for the claims at its place. -/
def SealedFrom (platform : Platform) (request : Request) (past : Past) (index : Nat)
    (claims : List RawCapabilityClaims) (permits : List Bytes) : Prop :=
  permits.length = claims.length ∧ ∀ place claim permit, claims[place]? = some claim → permits[place]? = some permit →
    (⟨.seal ⟨request.objectId, request.commandId, platform.sha256 request.command, index + place⟩ claim, .ok permit⟩ :
      Exchange Answer) ∈ past

/-- Every claim of the receipt is sealed after the barrier. -/
theorem sealAll_spec (index : Nat) (claims : List RawCapabilityClaims)
    (place : receipt.capabilityClaims.drop index = claims)
    (confirmed : Confirmed platform request past receipt revision) :
    Script.Holds (Guarded platform request) (fun later outcome _ => past ⊆ later ∧ ∀ permits, outcome = .ok permits →
      SealedFrom platform request later index claims permits)
      (Host.sealAll platform request index claims) frame past := by
  induction claims generalizing index past frame with
  | nil =>
    refine ⟨List.Subset.refl past, fun permits same => ?_⟩
    cases same
    exact ⟨rfl, by simp⟩
  | cons claim rest ih =>
    have here : receipt.capabilityClaims[index]? = some claim := by
      have head := congrArg (·[0]?) place
      simpa using head
    have others : receipt.capabilityClaims.drop (index + 1) = rest := by
      rw [← drop_drop, place, drop_one, tail_cons]
    refine ask_then ⟨receipt, revision, confirmed, rfl, rfl, rfl, here⟩ fun answer => ?_
    have subset := subset_append_left past [(⟨_, answer⟩ : Exchange Answer)]
    cases answer with
    | error error => exact ⟨subset, nofun⟩
    | ok permit =>
      refine refuseIf_then ⟨subset, nofun⟩ fun _ => ?_
      rw [holds_bind]
      refine (ih (index + 1) others (confirmed.mono subset)).mono fun later outcome state done => ?_
      obtain ⟨more, sealed⟩ := done
      cases outcome with
      | error error => exact ⟨List.Subset.trans subset more, nofun⟩
      | ok permits =>
        refine ⟨List.Subset.trans subset more, fun all same => ?_⟩
        cases same
        obtain ⟨count, each⟩ := sealed permits rfl
        refine ⟨by simp [count], fun place other token claimed given => ?_⟩
        cases place with
        | zero =>
          cases claimed
          cases given
          exact more (by simp)
        | succ place =>
          have found := each place other token claimed given
          rwa [Nat.add_assoc, Nat.add_comm 1] at found

/-- What a result says: its receipt is committed and confirmed, and its permits are those of its claims. -/
def Finished (platform : Platform) (request : Request) (past : Past) (outcome : Except Error Result) : Prop :=
  ∀ result, outcome = .ok result → ∃ receipt revision, Confirmed platform request past receipt revision ∧
    result.commandDigest = platform.sha256 request.command ∧ result.response = receipt.response ∧
    result.commitRevision = revision ∧ SealedFrom platform request past 0 receipt.capabilityClaims result.permits

theorem execute_spec (host : Host) :
    Script.Holds (Guarded platform request) (fun later outcome _ => Finished platform request later outcome)
      (host.execute platform request) frame [] := by
  have free := @guarded_quiet platform request
  have settled : Settled [] := fun _ _ => nofun
  refine (calm_check free .contextErr).then (fun _ _ _ => nofun) fun begun _ first => ?_
  refine refuseIf_then nofun fun _ => refuseIf_then nofun fun _ => ?_
  refine (calm_check free _).then (fun _ _ _ => nofun) fun checked _ second => ?_
  rw [holds_bind]
  refine (calm_storageReady free).then (fun _ _ _ => nofun) fun ready _ third => ?_
  refine refuseIf_then nofun fun _ => ?_
  refine (attempts_spec host.storage host _ (((settled.grows first).grows second).grows third)).mono
    fun done outcome state committed => ?_
  cases outcome with
  | error error => exact nofun
  | ok token =>
    obtain ⟨committed, object⟩ := committed token rfl
    refine get_then (refuseIf_then nofun fun _ => ?_)
    refine (calm_inject free host _).then (fun _ _ _ => nofun) fun passed _ fourth => ?_
    refine (calm_inject free host _).then (fun _ _ _ => nofun) fun sent _ fifth => ?_
    rw [holds_bind, holds_attempt]
    refine (durabilityBarrier_spec token).mono fun heard barrier kept spec => ?_
    obtain ⟨sixth, rfl, barrier⟩ := spec
    split
    case h_2 => trivial
    case h_1 outcome same =>
      cases same
      split
      case h_1 => exact nofun
      case h_2 =>
        obtain ⟨marker, response, asked⟩ := barrier rfl
        have confirmed : Confirmed platform request heard kept.receipt token.revision := by
          refine ⟨committed.mono (fourth.trans (fifth.trans sixth)).subset, marker, response, ?_⟩
          rwa [← object]
        refine (calm_inject free host _).then (fun _ _ _ => nofun) fun cleared _ seventh => ?_
        rw [holds_bind]
        refine (sealAll_spec 0 _ rfl (confirmed.mono seventh.subset)).mono fun last permits _ sealed => ?_
        obtain ⟨more, sealed⟩ := sealed
        cases permits with
        | error error => exact nofun
        | ok permits =>
          refine (calm_inject free host _).then (fun _ _ _ => nofun) fun final _ eighth => ?_
          intro result same
          cases same
          have reach := List.Subset.trans seventh.subset (List.Subset.trans more eighth.subset)
          obtain ⟨count, each⟩ := sealed permits rfl
          exact ⟨kept.receipt, token.revision, confirmed.mono reach, rfl, rfl, rfl, count,
            fun place claim permit claimed given => eighth.subset (each place claim permit claimed given)⟩

theorem call_holds (platform : Platform) (host : Host) (request : Request) :
    (host.call platform request).Holds (Guarded platform request) (Finished platform request) [] :=
  (Program.holds_bind _ _).mpr (execute_spec host)

end Commits

end Circulusd.Celld
