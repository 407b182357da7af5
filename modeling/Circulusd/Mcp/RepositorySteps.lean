import Circulusd.Mcp.Repository
import Circulusd.Mcp.Runs

/-
The calls of any number of workers as steps of one repository, and what each step changes.
-/

namespace Circulusd.Mcp

open Checked KeyValue Protocol Function List Option

inductive Operation where
  | admitEffect (effect : Effect)
  | commitAndClaimDispatch (request : DispatchClaimRequest)
  | claimProviderStart (request : ProviderStartClaimRequest)
  | resolveProviderStart (request : ProviderStartResolutionRequest)
  | commit (request : TransitionCommitRequest)
  | claimCancellation (request : CancellationClaimRequest)
  | reconcileServerRequests (request : ServerRequestReconcileRequest)
  | completeServerRequestReconciliation (request : ServerRequestReconcileCommitRequest)
  | claimServerRequest (request : ServerRequestClaimRequest)
  | completeServerRequest (request : ServerRequestCommitRequest)
  | setCurrentAuthority (scope : ValidatedAuthority)
deriving DecidableEq

inductive Answer where
  | effect (stored : StoredEffect)
  | dispatch (permit : DispatchPermit)
  | start (permit : ProviderStartPermit)
  | resolution (resolution : StoredProviderStartResolution)
  | cancellation (claim : CancellationClaim)
  | reconciliation (result : ServerRequestReconcileResult)
  | serverRequest (stored : StoredServerRequest)
  | done
deriving DecidableEq

/-- One call of a worker with the time it was made at and the answer it got. -/
structure Call where
  operation : Operation
  now : Int
  answer : Except Refusal Answer
deriving DecidableEq

section Execution

variable {Value : Type} (sha256 : Bytes → Digest) (repository : MemoryRepository)

/-- A refused call changes nothing. -/
def MemoryRepository.conclude (answer : Value → Answer)
    (outcome : Except Refusal (Value × MemoryRepository)) : Except Refusal Answer × MemoryRepository :=
  match outcome with
  | .ok (value, next) => (.ok (answer value), next)
  | .error refusal => (.error refusal, repository)

/-- Two operations may refuse and still leave a trace. -/
def MemoryRepository.concludeOpen (answer : Value → Answer)
    (outcome : Except Refusal (Except Refusal Value × MemoryRepository)) :
    Except Refusal Answer × MemoryRepository :=
  match outcome with
  | .ok (.ok value, next) => (.ok (answer value), next)
  | .ok (.error refusal, next) => (.error refusal, next)
  | .error refusal => (.error refusal, repository)

def MemoryRepository.execute (operation : Operation) (now : Int) : Except Refusal Answer × MemoryRepository :=
  match operation with
  | .admitEffect effect => repository.conclude .effect (repository.admitEffect effect)
  | .commitAndClaimDispatch request =>
    repository.conclude .dispatch (repository.commitAndClaimDispatch sha256 request)
  | .claimProviderStart request =>
    repository.conclude .start (repository.claimProviderStart sha256 request now)
  | .resolveProviderStart request =>
    repository.conclude .resolution (repository.resolveProviderStart request now)
  | .commit request => repository.conclude .effect (repository.commit request now)
  | .claimCancellation request =>
    repository.concludeOpen .cancellation (repository.claimCancellation sha256 request now)
  | .reconcileServerRequests request =>
    repository.conclude .reconciliation (repository.reconcileServerRequests request now)
  | .completeServerRequestReconciliation request =>
    repository.conclude .serverRequest (repository.completeServerRequestReconciliation request)
  | .claimServerRequest request =>
    repository.concludeOpen .serverRequest (repository.claimServerRequest sha256 request now)
  | .completeServerRequest request =>
    repository.conclude .serverRequest (repository.completeServerRequest request)
  | .setCurrentAuthority scope => repository.conclude (fun _ => .done) (repository.setCurrentAuthority scope)

/-- One call in any interleaving: the lock makes every call one step. -/
def MemoryRepository.Step (before : MemoryRepository) (call : Call) (after : MemoryRepository) : Prop :=
  before.execute sha256 call.operation call.now = (call.answer, after)

/-- The calls of a run, one after the other. -/
def MemoryRepository.executeAll (repository : MemoryRepository) : List (Operation × Int) → List Call × MemoryRepository
  | [] => ([], repository)
  | (operation, now) :: rest =>
    let (answer, next) := repository.execute sha256 operation now
    let (calls, final) := next.executeAll rest
    (⟨operation, now, answer⟩ :: calls, final)

theorem MemoryRepository.run_deterministic {sha256 : Bytes → Digest} {first left right : MemoryRepository}
    {calls : List Call} (one : Trace.Run (MemoryRepository.Step sha256) first calls left)
    (other : Trace.Run (MemoryRepository.Step sha256) first calls right) : left = right := by
  induction one with
  | nil =>
    cases other with
    | nil => rfl
  | cons head _ ih =>
    cases other with
    | cons again tail =>
      obtain rfl := (Prod.mk.inj (head.symm.trans again)).2
      exact ih tail

theorem MemoryRepository.run_of_executeAll (operations : List (Operation × Int)) :
    Trace.Run (MemoryRepository.Step sha256) repository (repository.executeAll sha256 operations).1
      (repository.executeAll sha256 operations).2 := by
  induction operations generalizing repository with
  | nil => exact .nil repository
  | cons first rest ih =>
    obtain ⟨operation, now⟩ := first
    exact .cons rfl (ih (repository.execute sha256 operation now).2)

end Execution

/-- The attempt whose provider start an accepted claim permits, and the permit. -/
def Call.startClaim (call : Call) : Option (ClaimKey × ProviderStartPermit) :=
  match call.operation, call.answer with
  | .claimProviderStart request, .ok (.start permit) =>
    some (⟨request.effect.key, request.effect.latestAttempt.attempt⟩, permit)
  | _, _ => none

/-- The attempt whose provider start was resolved as not present. -/
def Call.startPrevented (call : Call) : Option ClaimKey :=
  match call.operation, call.answer with
  | .resolveProviderStart request, .ok (.resolution resolution) =>
    if resolution.present = true then none
    else some ⟨request.effect.key, request.effect.latestAttempt.attempt⟩
  | _, _ => none

/-- The server request of an accepted claim, and the limit that the claim carries. -/
def Call.serverClaim (call : Call) : Option (ServerRequestKey × Nat) :=
  match call.operation, call.answer with
  | .claimServerRequest request, .ok _ => some (request.key, request.maxRequests)
  | _, _ => none

/-- The transition of an accepted commit. -/
def Call.commits (call : Call) : Option TransitionCommitRequest :=
  match call.operation, call.answer with
  | .commit request, .ok _ => some request
  | _, _ => none

/-- The call does nothing that a run has to remember. -/
structure Call.Quiet (call : Call) : Prop where
  uncommitted : call.commits = none
  unclaimed : call.startClaim = none
  unprevented : call.startPrevented = none
  unrequested : call.serverClaim = none

theorem Call.quiet_of_refused {operation : Operation} {now : Int} {refusal : Refusal} :
    Call.Quiet ⟨operation, now, .error refusal⟩ := by
  constructor <;> cases operation <;> rfl

/-- The nested request of a parent after a call that gives it up, if there is one. -/
inductive Lapsed (before : MemoryRepository) (key : String) (scope : ValidatedAuthority) (now : Int) :
    Option (ServerRequestKey × ServerRequestRecord) → MemoryRepository → Prop where
  | kept (absent : before.activeServerRequests key = none) (pendingAudits : Store Nat AuditEnvelope)
      (auditSequence : Nat) :
      Lapsed before key scope now none { before with pendingAudits, auditSequence }
  | abandoned {childKey : ServerRequestKey} {record : ServerRequestRecord}
      (active : before.activeServerRequests key = some childKey)
      (found : before.serverRequests childKey = some record) (claimed : record.state = .claimed)
      (pendingAudits : Store Nat AuditEnvelope) (auditSequence : Nat) :
      Lapsed before key scope now (some (childKey, record))
        ({ before with pendingAudits, auditSequence }.abandon key childKey record scope now auditSequence)

/-- A start record is only ever closed. -/
def MemoryRepository.Closes (before : MemoryRepository) (write : Option (ClaimKey × ProviderStartRecord)) :
    Prop :=
  ∀ key record, write = some (key, record) →
    ∃ start, before.providerStarts key = some start ∧ start.status = .active ∧ record.permit = start.permit

/-- What a call changes, one constructor for each kind of change. -/
inductive Changed (before : MemoryRepository) : Call → MemoryRepository → Prop where
  | idle {call : Call} (quiet : call.Quiet) (scopes : Store ScopeKey ValidatedAuthority)
      (cancellationClaims : Store ClaimKey CancellationPermit)
      (parentCancellationRequired : Store String ServerRequestKey)
      (pendingAudits : Store Nat AuditEnvelope) (auditSequence nonce : Nat) :
      Changed before call { before with
        scopes, cancellationClaims, parentCancellationRequired, pendingAudits, auditSequence, nonce }
  | admitted {effect : Effect} {now : Int} {stored : StoredEffect} (unstored : before.effects effect.key = none)
      (free : ∀ invocation ∈ before.active (keyForScope effect.scope), invocation = effect.key) :
      Changed before ⟨.admitEffect effect, now, .ok (.effect stored)⟩ { before with
        scopes := update before.scopes (keyForScope effect.scope) (some effect.scope)
        effects := update before.effects effect.key (some effect)
        active := update before.active (keyForScope effect.scope) (some effect.key) }
  | dispatched {request : DispatchClaimRequest} {now : Int} {permit : DispatchPermit}
      (stored : before.effects request.previous.key = some request.previous)
      (same : sameImmutableEffect request.previous request.next)
      (state : request.next.state = .dispatching)
      (nonce : Nat) (claims : Store ClaimKey DispatchPermit) :
      Changed before ⟨.commitAndClaimDispatch request, now, .ok (.dispatch permit)⟩ { before with
        nonce, claims
        effects := update before.effects request.previous.key (some request.next) }
  | started {request : ProviderStartClaimRequest} {now : Int} {attempt : AttemptRecord} {permit : ProviderStartPermit}
      (stored : before.effects request.effect.key = some request.effect)
      (state : request.effect.state = .dispatching)
      (current : request.effect.currentAttempt = some attempt) (negotiated : attempt.negotiation ≠ .zero)
      (absent : before.providerStarts ⟨request.effect.key, attempt.attempt⟩ = none)
      (durable : permit.durable = true) (nonce : Nat) :
      Changed before ⟨.claimProviderStart request, now, .ok (.start permit)⟩ { before with
        nonce
        providerStarts := update before.providerStarts ⟨request.effect.key, attempt.attempt⟩ (some ⟨permit, .active⟩) }
  | restarted {request : ProviderStartClaimRequest} {now : Int} {attempt : AttemptRecord} {permit : ProviderStartPermit}
      (stored : before.effects request.effect.key = some request.effect)
      (state : request.effect.state = .dispatching)
      (current : request.effect.currentAttempt = some attempt) (negotiated : attempt.negotiation ≠ .zero)
      (found : before.providerStarts ⟨request.effect.key, attempt.attempt⟩ = some ⟨permit, .active⟩) :
      Changed before ⟨.claimProviderStart request, now, .ok (.start permit)⟩ before
  | prevented {request : ProviderStartResolutionRequest} {now : Int} {attempt : AttemptRecord}
      (stored : before.effects request.effect.key = some request.effect)
      (current : request.effect.currentAttempt = some attempt)
      (absent : before.providerStarts ⟨request.effect.key, attempt.attempt⟩ = none) :
      Changed before ⟨.resolveProviderStart request, now, .ok (.resolution startAbsent)⟩ { before with
        providerStarts := update before.providerStarts ⟨request.effect.key, attempt.attempt⟩
          (some ⟨default, .revoked⟩) }
  | preventedBefore {request : ProviderStartResolutionRequest} {now : Int} {attempt : AttemptRecord}
      (stored : before.effects request.effect.key = some request.effect)
      (current : request.effect.currentAttempt = some attempt)
      (found : before.providerStarts ⟨request.effect.key, attempt.attempt⟩ = some ⟨default, .revoked⟩) :
      Changed before ⟨.resolveProviderStart request, now, .ok (.resolution startAbsent)⟩ before
  | revoked {request : ProviderStartResolutionRequest} {now : Int} {key : ClaimKey}
      {start : ProviderStartRecord} (found : before.providerStarts key = some start)
      (active : start.status = .active) :
      Changed before ⟨.resolveProviderStart request, now, .ok (.resolution (startPresent start.permit))⟩
        { before with
          providerStarts :=
            update before.providerStarts key (some { start with status := .revoked }) }
  | committed {request : TransitionCommitRequest} {now : Int} {stored : StoredEffect}
      {write : Option (ClaimKey × ProviderStartRecord)}
      {child : Option (ServerRequestKey × ServerRequestRecord)} {lapsed : MemoryRepository}
      (found : before.effects request.previous.key = some request.previous)
      (same : sameImmutableEffect request.previous request.next)
      (unreconciled : before.serverRequestReconciliations request.previous.key = none)
      (owner : ∀ invocation ∈ before.active (keyForScope request.previous.scope), invocation = request.previous.key)
      (held : before.active (keyForScope request.previous.scope) = none → request.previous.Terminal)
      (closes : before.Closes write)
      (lapse : Lapsed before request.previous.key request.currentScope now child lapsed) :
      Changed before ⟨.commit request, now, .ok (.effect stored)⟩
        ((lapsed.writeStart write).storeNext request.previous request.next
          (child.any fun given => given.2.needsReconciliation))
  | abandoned {request : ServerRequestReconcileRequest} {now : Int} {result : ServerRequestReconcileResult}
      {childKey : ServerRequestKey} {record : ServerRequestRecord} {lapsed : MemoryRepository}
      (found : before.effects request.parent.key = some request.parent)
      (lapse : Lapsed before request.parent.key request.currentScope now (some (childKey, record)) lapsed)
      (parentCancellationRequired : Store String ServerRequestKey) :
      Changed before ⟨.reconcileServerRequests request, now, .ok (.reconciliation result)⟩
        { lapsed with parentCancellationRequired }
  | reconciled {request : ServerRequestReconcileCommitRequest} {now : Int} {stored : StoredServerRequest}
      {current : Effect} {childKey : ServerRequestKey} {record settled : ServerRequestRecord}
      (found : before.effects request.permit.parentInvocationId.value = some current)
      (pending : before.serverRequestReconciliations request.permit.parentInvocationId.value = some childKey)
      (recorded : before.serverRequests childKey = some record) (ended : record.state = .abandoned)
      (kept : settled.state = .abandoned) :
      Changed before ⟨.completeServerRequestReconciliation request, now, .ok (.serverRequest stored)⟩
        ({ before with
          serverRequests := update before.serverRequests childKey (some settled)
          serverRequestReconciliations := update before.serverRequestReconciliations
            request.permit.parentInvocationId.value none
          serverRequestCancellationPermits :=
            update before.serverRequestCancellationPermits childKey none }.release
          request.permit.parentInvocationId.value current)
  | replayed {request : ServerRequestClaimRequest} {now : Int} {stored : StoredServerRequest}
      {record : ServerRequestRecord} (recorded : before.serverRequests request.key = some record)
      (limit : ∀ limit ∈ before.serverRequestLimits request.parent.key, limit = request.maxRequests) :
      Changed before ⟨.claimServerRequest request, now, .ok (.serverRequest stored)⟩ before
  | renewed {request : ServerRequestClaimRequest} {now : Int} {stored : StoredServerRequest}
      {record renewed : ServerRequestRecord} (recorded : before.serverRequests request.key = some record)
      (claimed : record.state = .claimed) (kept : renewed.state = .claimed)
      (limit : ∀ limit ∈ before.serverRequestLimits request.parent.key, limit = request.maxRequests) :
      Changed before ⟨.claimServerRequest request, now, .ok (.serverRequest stored)⟩ { before with
        serverRequests := update before.serverRequests request.key (some renewed)
        activeServerRequests := update before.activeServerRequests request.parent.key (some request.key) }
  | requested {request : ServerRequestClaimRequest} {now : Int} {stored : StoredServerRequest}
      {record : ServerRequestRecord}
      (parent : before.effects request.parent.key = some request.parent)
      (state : request.parent.state = .dispatched ∨ request.parent.state = .streaming)
      (unknown : before.serverRequests request.key = none)
      (idle : before.activeServerRequests request.parent.key = none)
      (unreconciled : before.serverRequestReconciliations request.parent.key = none)
      (generation : request.connectionGeneration ≠ 0)
      (limit : ∀ limit ∈ before.serverRequestLimits request.parent.key, limit = request.maxRequests)
      (first : before.serverRequestLimits request.parent.key = none → before.serverRequestCounts request.parent.key = 0)
      (room : before.serverRequestCounts request.parent.key < request.maxRequests)
      (claimed : record.state = .claimed) (nonce : Nat) :
      Changed before ⟨.claimServerRequest request, now, .ok (.serverRequest stored)⟩ { before with
        nonce
        serverRequests := update before.serverRequests request.key (some record)
        serverRequestLimits := update before.serverRequestLimits request.parent.key (some request.maxRequests)
        serverRequestCounts := update before.serverRequestCounts request.parent.key
          (before.serverRequestCounts request.parent.key + 1)
        activeServerRequests := update before.activeServerRequests request.parent.key (some request.key) }
  | completed {request : ServerRequestCommitRequest} {now : Int} {stored : StoredServerRequest}
      {record completed : ServerRequestRecord}
      (recorded : before.serverRequests request.permit.key = some record)
      (active : (before.activeServerRequests request.permit.parentInvocationId.value).getD default = request.permit.key)
      (ended : completed.state = .completed) (pendingAudits : Store Nat AuditEnvelope)
      (auditSequence : Nat) :
      Changed before ⟨.completeServerRequest request, now, .ok (.serverRequest stored)⟩ { before with
        pendingAudits, auditSequence
        serverRequests := update before.serverRequests request.permit.key (some completed)
        activeServerRequests := update before.activeServerRequests request.permit.parentInvocationId.value none }

section Inversion

variable {sha256 : Bytes → Digest} {before after : MemoryRepository} {now : Int}
  {current : Effect} {stored : StoredServerRequest}

theorem MemoryRepository.enqueueAudit_audited {event : Option AuditEvent} {audit : Option AuditEnvelope}
    (ok : before.enqueueAudit event = .ok (audit, after)) :
    ∃ pendingAudits auditSequence, after = { before with pendingAudits, auditSequence } := by
  cases event with
  | none =>
    simp only [enqueueAudit, pure_ok, Prod.mk.injEq] at ok
    exact ⟨before.pendingAudits, before.auditSequence, ok.2.symm⟩
  | some event =>
    simp only [enqueueAudit, steps_ok] at ok
    exact ⟨_, _, ok.2.2.symm⟩

theorem Changed.same {call : Call} (quiet : call.Quiet) : Changed before call before :=
  .idle quiet before.scopes before.cancellationClaims before.parentCancellationRequired
    before.pendingAudits before.auditSequence before.nonce

theorem MemoryRepository.admit_changed {effect : Effect} {stored : StoredEffect}
    (ok : before.admitEffect effect = .ok (stored, after)) :
    Changed before ⟨.admitEffect effect, now, .ok (.effect stored)⟩ after := by
  unfold admitEffect at ok
  cases found : before.effects effect.key with
  | some existing =>
    simp only [found, steps_ok] at ok
    obtain ⟨-, -, -, rfl⟩ := ok
    exact .same ⟨rfl, rfl, rfl, rfl⟩
  | none =>
    simp only [found, steps_ok] at ok
    obtain ⟨-, free, -, rfl⟩ := ok
    exact .admitted found fun invocation member => by_contra fun other => free ⟨invocation, member, other⟩

theorem MemoryRepository.commitAndClaimDispatch_changed {request : DispatchClaimRequest} {permit : DispatchPermit}
    (ok : before.commitAndClaimDispatch sha256 request = .ok (permit, after)) :
    Changed before ⟨.commitAndClaimDispatch request, now, .ok (.dispatch permit)⟩ after := by
  simp only [commitAndClaimDispatch, steps_ok, not_or] at ok
  obtain ⟨current, stored, ⟨-, rfl⟩, -, -, ⟨-, state, same, -⟩, attempt, -, -, -, -, rfl⟩ := ok
  exact .dispatched stored same state _ _

theorem MemoryRepository.claimProviderStart_changed {request : ProviderStartClaimRequest} {permit : ProviderStartPermit}
    (ok : before.claimProviderStart sha256 request now = .ok (permit, after)) :
    Changed before ⟨.claimProviderStart request, now, .ok (.start permit)⟩ after := by
  simp only [claimProviderStart, steps_ok] at ok
  obtain ⟨-, current, stored, ⟨rfl, state, -⟩, -, -, attempt, latest, negotiated, -, ok⟩ := ok
  cases found : before.providerStarts ⟨request.effect.key, attempt.attempt⟩ with
  | some existing =>
    simp only [found, steps_ok] at ok
    obtain ⟨⟨active, -⟩, rfl, rfl⟩ := ok
    exact .restarted stored state latest negotiated (by rw [found, ← active])
  | none =>
    simp only [found] at ok
    obtain ⟨rfl, rfl⟩ := pair_ok ok
    exact .started stored state latest negotiated found rfl _

theorem MemoryRepository.resolveProviderStart_changed {request : ProviderStartResolutionRequest}
    {resolution : StoredProviderStartResolution}
    (ok : before.resolveProviderStart request now = .ok (resolution, after)) :
    Changed before ⟨.resolveProviderStart request, now, .ok (.resolution resolution)⟩ after := by
  simp only [resolveProviderStart, steps_ok] at ok
  obtain ⟨current, stored, rfl, -, attempt, latest, ok⟩ := ok
  cases found : before.providerStarts ⟨request.effect.key, attempt.attempt⟩ with
  | none =>
    simp only [found, steps_ok] at ok
    obtain ⟨-, rfl, rfl⟩ := ok
    exact .prevented stored latest found
  | some start =>
    simp only [found] at ok
    split at ok
    next ended =>
      obtain ⟨rfl, rfl⟩ := pair_ok ok
      exact .preventedBefore stored latest (by rw [found, ← ended.1, ← ended.2])
    next =>
      split at ok
      next active =>
        split at ok
        · obtain ⟨rfl, rfl⟩ := pair_ok ok
          exact .same ⟨rfl, rfl, rfl, rfl⟩
        · obtain ⟨rfl, rfl⟩ := pair_ok ok
          exact .revoked found active
      next =>
        obtain ⟨rfl, rfl⟩ := pair_ok ok
        exact .same ⟨rfl, rfl, rfl, rfl⟩

theorem MemoryRepository.fenceStart_closes {request : TransitionCommitRequest}
    {write : Option (ClaimKey × ProviderStartRecord)}
    (ok : before.fenceStart request current now = .ok write) : before.Closes write := by
  unfold fenceStart at ok
  rintro key record rfl
  cases latest : current.currentAttempt with
  | none => simp [latest] at ok
  | some attempt =>
    cases given : request.providerStart with
    | some permit =>
      cases found : before.providerStarts ⟨request.previous.key, attempt.attempt⟩ with
      | none => simp [latest, given, found] at ok
      | some start =>
        simp only [latest, given, found, steps_ok, some.injEq] at ok
        obtain ⟨⟨-, active, -⟩, rfl, rfl⟩ := ok
        exact ⟨start, found, active, rfl⟩
    | none =>
      cases found : before.providerStarts ⟨request.previous.key, attempt.attempt⟩ with
      | none => simp [latest, given, found] at ok
      | some start =>
        simp only [latest, given, found, steps_ok, ite_eq_iff, some.injEq, reduceCtorEq, and_false, or_false] at ok
        obtain ⟨-, active, rfl, rfl⟩ := ok
        exact ⟨start, found, active, rfl⟩

theorem MemoryRepository.abandonLapsed_lapsed {request : TransitionCommitRequest}
    {child : Option (ServerRequestKey × ServerRequestRecord)} {audit : Option AuditEnvelope}
    {audited lapsed : MemoryRepository} (previous : current = request.previous)
    (looked : before.lapsedChild request current now = .ok child)
    (enqueued : before.enqueueAudit request.audit = .ok (audit, audited))
    (ok : audited.abandonLapsed current child request.currentScope now = .ok lapsed) :
    Lapsed before request.previous.key request.currentScope now child lapsed := by
  subst previous
  obtain ⟨audits, sequence, rfl⟩ := before.enqueueAudit_audited enqueued
  unfold lapsedChild at looked
  cases active : before.activeServerRequests request.previous.key with
  | none =>
    simp only [active, pure_ok] at looked
    subst looked
    simp only [abandonLapsed, pure_ok] at ok
    exact ok ▸ .kept active audits sequence
  | some childKey =>
    simp only [active, steps_ok, not_or] at looked
    obtain ⟨record, found, ⟨claimed, -⟩, rfl⟩ := looked
    simp only [abandonLapsed, steps_ok, Prod.exists] at ok
    obtain ⟨envelope, next, again, rfl⟩ := ok
    obtain ⟨audits, sequence, rfl⟩ := enqueueAudit_audited again
    exact .abandoned active found claimed audits sequence

theorem MemoryRepository.commit_changed {request : TransitionCommitRequest} {stored : StoredEffect}
    (ok : before.commit request now = .ok (stored, after)) :
    Changed before ⟨.commit request, now, .ok (.effect stored)⟩ after := by
  simp only [commit, steps_ok, not_or, Prod.exists] at ok
  obtain ⟨current, found, ⟨-, rfl⟩, -, ⟨-, same⟩, -, write, fenced, -, unreconciled, child, looked, owner,
    held, -, audit, audited, enqueued, lapsed, abandoned, -, rfl⟩ := ok
  refine .committed found same ?_ ?_ ?_ (before.fenceStart_closes fenced)
    (before.abandonLapsed_lapsed rfl looked enqueued abandoned)
  · simpa using unreconciled
  · exact fun invocation member => by_contra fun other => owner ⟨invocation, member, other⟩
  · exact fun free => by_contra fun running => held ⟨free, running⟩

theorem MemoryRepository.issueCancellation_advanced {request : CancellationClaimRequest}
    {attempt : AttemptRecord} {answer : Except Refusal CancellationClaim}
    (issued : before.issueCancellation sha256 request current attempt now = (answer, after)) :
    ∃ cancellationClaims nonce, after = { before with cancellationClaims, nonce } := by
  unfold issueCancellation at issued
  cases existing : before.cancellationClaims ⟨request.effect.key, attempt.attempt⟩ <;>
    cases child : before.pendingChild request.effect.key <;> simp only [existing, child] at issued <;>
      exact ⟨_, _, (Prod.mk.inj issued).2.symm⟩

theorem MemoryRepository.claimCancellation_advanced {request : CancellationClaimRequest}
    {answer : Except Refusal CancellationClaim}
    (ok : before.claimCancellation sha256 request now = .ok (answer, after)) :
    ∃ cancellationClaims nonce, after = { before with cancellationClaims, nonce } := by
  simp only [claimCancellation, steps_ok] at ok
  obtain ⟨-, current, -, -, -, attempt, -, ok⟩ := ok
  cases found : before.cancellationClaims ⟨request.effect.key, attempt.attempt⟩ with
  | none =>
    simp only [found, pure_ok] at ok
    exact before.issueCancellation_advanced ok
  | some existing =>
    simp only [found] at ok
    split at ok
    · simp only [pure_ok, Prod.mk.injEq] at ok
      exact ⟨before.cancellationClaims, before.nonce, ok.2.symm⟩
    · rw [pure_ok] at ok
      exact before.issueCancellation_advanced ok

theorem MemoryRepository.reconcileServerRequests_changed {request : ServerRequestReconcileRequest}
    {result : ServerRequestReconcileResult} (ok : before.reconcileServerRequests request now = .ok (result, after)) :
    Changed before ⟨.reconcileServerRequests request, now, .ok (.reconciliation result)⟩ after := by
  simp only [reconcileServerRequests, steps_ok] at ok
  obtain ⟨current, found, -, ok⟩ := ok
  cases pending : before.serverRequestReconciliations request.parent.key with
  | some childKey =>
    simp only [pending, steps_ok] at ok
    obtain ⟨_, -, rfl, rfl⟩ := ok
    exact .same ⟨rfl, rfl, rfl, rfl⟩
  | none =>
    cases active : before.activeServerRequests request.parent.key with
    | none =>
      simp only [pending, active] at ok
      obtain ⟨rfl, rfl⟩ := pair_ok ok
      exact .same ⟨rfl, rfl, rfl, rfl⟩
    | some childKey =>
      simp only [pending, active, reconcileActive, steps_ok] at ok
      obtain ⟨rfl, record, recorded, claimed, ok⟩ := ok
      split at ok
      · obtain ⟨rfl, rfl⟩ := pair_ok ok
        exact .same ⟨rfl, rfl, rfl, rfl⟩
      · simp only [steps_ok, Prod.exists] at ok
        obtain ⟨envelope, audited, enqueued, rfl, rfl⟩ := ok
        obtain ⟨audits, sequence, rfl⟩ := before.enqueueAudit_audited enqueued
        exact .abandoned found (.abandoned active recorded claimed audits sequence) _

theorem ServerRequestRecord.settledBy_state {record settled : ServerRequestRecord}
    {request : ServerRequestReconcileCommitRequest}
    (ok : record.settledBy current request = .ok settled) : settled.state = record.state := by
  unfold settledBy at ok
  cases method : record.method with
  | sampling | elicitation =>
    simp only [method, steps_ok] at ok
    obtain ⟨-, rfl⟩ := ok
    rfl
  | roots | other =>
    simp only [method, pure_ok] at ok
    rw [ok]

theorem MemoryRepository.completeServerRequestReconciliation_changed {request : ServerRequestReconcileCommitRequest}
    (ok : before.completeServerRequestReconciliation request = .ok (stored, after)) :
    Changed before ⟨.completeServerRequestReconciliation request, now, .ok (.serverRequest stored)⟩ after := by
  simp only [completeServerRequestReconciliation, steps_ok] at ok
  obtain ⟨current, found, -, childKey, pending, -, record, recorded, ⟨ended, -⟩, settled, settledBy, -, rfl⟩ := ok
  exact .reconciled found pending recorded ended ((record.settledBy_state settledBy).trans ended)

theorem MemoryRepository.checkLimit_limit {request : ServerRequestClaimRequest}
    (ok : before.checkLimit request = .ok ()) :
    (∀ limit ∈ before.serverRequestLimits request.parent.key, limit = request.maxRequests) ∧
      (before.serverRequestLimits request.parent.key = none → before.serverRequestCounts request.parent.key = 0) := by
  unfold checkLimit at ok
  cases given : before.serverRequestLimits request.parent.key with
  | some limit =>
    simp only [given, refuseIf_ok, ne_eq, not_not] at ok
    simp [ok]
  | none =>
    simp only [given, refuseIf_ok, ne_eq, not_not] at ok
    simp [ok]

theorem MemoryRepository.replayServerRequest_changed {request : ServerRequestClaimRequest}
    {existing : ServerRequestRecord} (recorded : before.serverRequests request.key = some existing)
    (limit : ∀ limit ∈ before.serverRequestLimits request.parent.key, limit = request.maxRequests)
    (ok : before.replayServerRequest request current existing now = .ok (stored, after)) :
    Changed before ⟨.claimServerRequest request, now, .ok (.serverRequest stored)⟩ after := by
  simp only [replayServerRequest, steps_ok] at ok
  obtain ⟨-, ok⟩ := ok
  cases state : existing.state with
  | completed =>
    simp only [state] at ok
    obtain ⟨rfl, rfl⟩ := pair_ok ok
    exact .replayed recorded limit
  | abandoned => simp [state] at ok
  | claimed =>
    simp only [state, steps_ok] at ok
    obtain ⟨-, ok⟩ := ok
    split at ok
    · obtain ⟨rfl, rfl⟩ := pair_ok ok
      exact .replayed recorded limit
    · obtain ⟨rfl, rfl⟩ := pair_ok ok
      exact .renewed recorded state rfl limit

theorem Effect.serves_running {request : ServerRequestClaimRequest} (ok : current.serves request = .ok ()) :
    current.state = .dispatched ∨ current.state = .streaming := by
  simp only [serves, steps_ok, not_and_or] at ok
  exact ok.1

/-- At the limit the claim is refused, and only the parent's duty to be cancelled is written. -/
theorem MemoryRepository.claimServerRequest_changed {request : ServerRequestClaimRequest}
    {answer : Except Refusal StoredServerRequest}
    (ok : before.claimServerRequest sha256 request now = .ok (answer, after)) :
    Changed before ⟨.claimServerRequest request, now, answer.map .serverRequest⟩ after := by
  simp only [claimServerRequest, ServerRequestClaimRequest.validate, steps_ok, not_or] at ok
  obtain ⟨⟨⟨-, -, generation, -, -⟩, -⟩, current, found, -, limited, -, unreconciled, ok⟩ := ok
  obtain ⟨limit, first⟩ := before.checkLimit_limit limited
  cases recorded : before.serverRequests request.key with
  | some existing =>
    simp only [recorded, steps_ok, Prod.exists] at ok
    obtain ⟨stored, next, replayed, rfl, rfl⟩ := ok
    exact before.replayServerRequest_changed recorded limit replayed
  | none =>
    simp only [recorded, admitServerRequest, steps_ok] at ok
    obtain ⟨rfl, serves, ok⟩ := ok
    split at ok
    next =>
      simp only [steps_ok, Prod.exists] at ok
      obtain ⟨envelope, audited, enqueued, rfl, rfl⟩ := ok
      obtain ⟨audits, sequence, rfl⟩ := before.enqueueAudit_audited enqueued
      exact .idle Call.quiet_of_refused before.scopes before.cancellationClaims _ audits sequence before.nonce
    next room =>
      simp only [newServerRequest, steps_ok] at ok
      obtain ⟨idle, rfl, rfl⟩ := ok
      refine .requested found (Effect.serves_running serves) recorded ?_ ?_ generation limit first
        (not_le.mp room) rfl _
      · simpa using idle
      · simpa using unreconciled

theorem MemoryRepository.completeServerRequest_changed {request : ServerRequestCommitRequest}
    (ok : before.completeServerRequest request = .ok (stored, after)) :
    Changed before ⟨.completeServerRequest request, now, .ok (.serverRequest stored)⟩ after := by
  simp only [completeServerRequest, steps_ok] at ok
  obtain ⟨-, record, recorded, current, -, -, -, ok⟩ := ok
  split at ok
  · simp only [steps_ok] at ok
    obtain ⟨-, rfl, rfl⟩ := ok
    exact .same ⟨rfl, rfl, rfl, rfl⟩
  · simp only [steps_ok, Prod.exists] at ok
    obtain ⟨active, receipted, -, audit, audited, enqueued, rfl, rfl⟩ := ok
    obtain ⟨audits, sequence, rfl⟩ := before.enqueueAudit_audited enqueued
    exact .completed recorded active rfl audits sequence

theorem MemoryRepository.setCurrentAuthority_scopes {scope : ValidatedAuthority} {done : Unit}
    (ok : before.setCurrentAuthority scope = .ok (done, after)) :
    ∃ scopes, after = { before with scopes } := by
  simp only [setCurrentAuthority, steps_ok] at ok
  exact ⟨_, ok.2.2.symm⟩

theorem MemoryRepository.conclude_changed {Value : Type} {operation : Operation} {answer : Value → Answer}
    {outcome : Except Refusal (Value × MemoryRepository)} {given : Except Refusal Answer}
    (concluded : before.conclude answer outcome = (given, after))
    (changed : ∀ value next, outcome = .ok (value, next) → Changed before ⟨operation, now, .ok (answer value)⟩ next) :
    Changed before ⟨operation, now, given⟩ after := by
  cases outcome with
  | error refusal =>
    obtain ⟨rfl, rfl⟩ := Prod.mk.inj concluded
    exact .same Call.quiet_of_refused
  | ok result =>
    obtain ⟨rfl, rfl⟩ := Prod.mk.inj concluded
    exact changed result.1 result.2 rfl

theorem MemoryRepository.concludeOpen_changed {Value : Type} {operation : Operation}
    {answer : Value → Answer} {outcome : Except Refusal (Except Refusal Value × MemoryRepository)}
    {given : Except Refusal Answer} (concluded : before.concludeOpen answer outcome = (given, after))
    (changed : ∀ value next, outcome = .ok (value, next) → Changed before ⟨operation, now, value.map answer⟩ next) :
    Changed before ⟨operation, now, given⟩ after := by
  rcases outcome with refusal | ⟨refusal | value, next⟩
  · obtain ⟨rfl, rfl⟩ := Prod.mk.inj concluded
    exact .same Call.quiet_of_refused
  · obtain ⟨rfl, rfl⟩ := Prod.mk.inj concluded
    exact changed (.error refusal) next rfl
  · obtain ⟨rfl, rfl⟩ := Prod.mk.inj concluded
    exact changed (.ok value) next rfl

/-- Everything that a call can do. -/
theorem MemoryRepository.Step.changed {call : Call} (step : before.Step sha256 call after) :
    Changed before call after := by
  obtain ⟨operation, now, answer⟩ := call
  unfold MemoryRepository.Step at step
  cases operation with
  | admitEffect => exact conclude_changed step fun _ _ => before.admit_changed
  | commitAndClaimDispatch =>
    exact conclude_changed step fun _ _ => before.commitAndClaimDispatch_changed
  | claimProviderStart =>
    exact conclude_changed step fun _ _ => before.claimProviderStart_changed
  | resolveProviderStart =>
    exact conclude_changed step fun _ _ => before.resolveProviderStart_changed
  | commit => exact conclude_changed step fun _ _ => before.commit_changed
  | claimCancellation =>
    refine concludeOpen_changed step fun value next ok => ?_
    obtain ⟨claims, nonce, rfl⟩ := before.claimCancellation_advanced ok
    refine .idle ?_ before.scopes claims before.parentCancellationRequired before.pendingAudits
      before.auditSequence nonce
    cases value <;> exact ⟨rfl, rfl, rfl, rfl⟩
  | reconcileServerRequests =>
    exact conclude_changed step fun _ _ => before.reconcileServerRequests_changed
  | completeServerRequestReconciliation =>
    exact conclude_changed step fun _ _ =>
      before.completeServerRequestReconciliation_changed
  | claimServerRequest =>
    exact concludeOpen_changed step fun _ _ => before.claimServerRequest_changed
  | completeServerRequest =>
    exact conclude_changed step fun _ _ => before.completeServerRequest_changed
  | setCurrentAuthority =>
    refine conclude_changed step fun value next ok => ?_
    obtain ⟨scopes, rfl⟩ := before.setCurrentAuthority_scopes ok
    exact .idle ⟨rfl, rfl, rfl, rfl⟩ scopes before.cancellationClaims before.parentCancellationRequired
      before.pendingAudits before.auditSequence before.nonce

end Inversion

/-- The machine makes the next effect of the previous one, by an event of the allowed kind. -/
def Gateway.Produces (gateway : Gateway) (allowed : Effect → Event → Prop) (previous next : Effect) : Prop :=
  ∃ event transition, gateway.apply previous event = .ok transition ∧ transition.effect = next ∧ allowed previous event

/-- What a commit writes comes from the machine. -/
def Operation.Produced (gateway : Gateway) (allowed : Effect → Event → Prop) : Operation → Prop
  | .commitAndClaimDispatch request => gateway.Produces allowed request.previous request.next
  | .commit request => gateway.Produces allowed request.previous request.next
  | _ => True

/-- Nothing is asked of a refused call. -/
def Call.Produced (gateway : Gateway) (allowed : Effect → Event → Prop) (call : Call) : Prop :=
  ∀ answer, call.answer = .ok answer → call.operation.Produced gateway allowed

/-- Besides, an admission stores what the gateway admits. -/
def Operation.Genuine (gateway : Gateway) (allowed : Effect → Event → Prop) : Operation → Prop
  | .admitEffect effect => gateway.Admits effect
  | operation => operation.Produced gateway allowed

def Call.Genuine (gateway : Gateway) (allowed : Effect → Event → Prop) (call : Call) : Prop :=
  ∀ answer, call.answer = .ok answer → call.operation.Genuine gateway allowed

theorem Call.Genuine.produced {gateway : Gateway} {allowed : Effect → Event → Prop} {call : Call}
    (genuine : call.Genuine gateway allowed) : call.Produced gateway allowed := by
  intro answer ok
  have holds := genuine answer ok
  cases given : call.operation with
  | admitEffect => trivial
  | _ => rwa [given] at holds

/-- What holds of the operations holds of the calls. -/
theorem MemoryRepository.executeAll_forall {sha256 : Bytes → Digest} {holds : Operation → Prop}
    (repository : MemoryRepository) {operations : List (Operation × Int)} (each : ∀ given ∈ operations, holds given.1) :
    ∀ call ∈ (repository.executeAll sha256 operations).1, holds call.operation := by
  induction operations generalizing repository with
  | nil => simp [executeAll]
  | cons first rest ih =>
    obtain ⟨head, tail⟩ := forall_mem_cons.mp each
    refine forall_mem_cons.mpr ⟨head, ?_⟩
    exact ih (repository.execute sha256 first.1 first.2).2 tail

section Effects

variable {sha256 : Bytes → Digest} {gateway : Gateway} {allowed : Effect → Event → Prop}
  {before after : MemoryRepository} {call : Call} {calls : List Call} {key : String} {effect : Effect}

section

variable (repository : MemoryRepository)
include repository

theorem MemoryRepository.writeStart_frame (write : Option (ClaimKey × ProviderStartRecord)) :
    repository.writeStart write = { repository with
      providerStarts := (repository.writeStart write).providerStarts } := by
  cases write <;> rfl

theorem MemoryRepository.release_frame (key : String) (effect : Effect) :
    repository.release key effect = { repository with
      active := (repository.release key effect).active
      cancellationClaims := (repository.release key effect).cancellationClaims } := by
  unfold release
  split <;> rfl

theorem MemoryRepository.storeNext_frame (current next : Effect) (reconciles : Bool) :
    repository.storeNext current next reconciles = { repository with
      effects := update repository.effects current.key (some next)
      active := (repository.storeNext current next reconciles).active
      cancellationClaims := (repository.storeNext current next reconciles).cancellationClaims
      parentCancellationRequired :=
        (repository.storeNext current next reconciles).parentCancellationRequired } := by
  simp only [storeNext]
  split <;> split
  · rfl
  · rfl
  · rw [release_frame]
  · rw [release_frame]

@[simp]
theorem MemoryRepository.writeStart_effects (write : Option (ClaimKey × ProviderStartRecord)) :
    (repository.writeStart write).effects = repository.effects := by
  rw [writeStart_frame]

@[simp]
theorem MemoryRepository.release_effects (key : String) (effect : Effect) :
    (repository.release key effect).effects = repository.effects := by
  rw [release_frame]

@[simp]
theorem MemoryRepository.storeNext_effects (current next : Effect) (reconciles : Bool) :
    (repository.storeNext current next reconciles).effects = update repository.effects current.key (some next) := by
  rw [storeNext_frame]

end

@[simp]
theorem Lapsed.effects {scope : ValidatedAuthority} {now : Int}
    {child : Option (ServerRequestKey × ServerRequestRecord)}
    (lapse : Lapsed before key scope now child after) : after.effects = before.effects := by
  cases lapse <;> rfl

/-- A stored effect stays, or moves on as the machine says. -/
theorem Changed.stored (changed : Changed before call after) (produced : call.Produced gateway allowed)
    (stored : before.effects key = some effect) :
    after.effects key = some effect ∨ ∃ next, gateway.Produces allowed effect next ∧ after.effects key = some next := by
  cases changed with
  | @admitted admitted _ _ unstored =>
    have other : key ≠ admitted.key := by
      rintro rfl
      simp [unstored] at stored
    exact .inl (by simpa [other] using stored)
  | @dispatched request _ _ found =>
    by_cases same : key = request.previous.key
    · obtain rfl : effect = request.previous := by simpa [same, found] using stored.symm
      exact .inr ⟨request.next, produced _ rfl, by simp [same]⟩
    · exact .inl (by simpa [same] using stored)
  | @committed request _ _ _ _ _ found _ _ _ _ _ lapse =>
    by_cases same : key = request.previous.key
    · obtain rfl : effect = request.previous := by simpa [same, found] using stored.symm
      exact .inr ⟨request.next, produced _ rfl, by simp [same]⟩
    · exact .inl (by simpa [same, lapse.effects] using stored)
  | abandoned _ lapse => exact .inl (by simpa [lapse.effects] using stored)
  | reconciled => exact .inl (by simpa using stored)
  | _ => exact .inl stored

/-- An accepted commit replaces the effect that it names. -/
theorem Changed.commit_effects {request : TransitionCommitRequest} (changed : Changed before call after)
    (commits : call.commits = some request) :
    before.effects request.previous.key = some request.previous ∧
      after.effects request.previous.key = some request.next := by
  cases changed with
  | committed found =>
    cases commits
    exact ⟨found, by simp⟩
  | idle quiet => simp [quiet.uncommitted] at commits
  | _ => simp [Call.commits] at commits

/-- What the machine keeps of a stored effect holds at every later state. -/
theorem stored_of_run {holds : Effect → Prop} (run : Trace.Run (MemoryRepository.Step sha256) before calls after)
    (produced : ∀ call ∈ calls, call.Produced gateway allowed)
    (kept : ∀ previous next, gateway.Produces allowed previous next → holds previous → holds next)
    (stored : before.effects key = some effect) (initial : holds effect) :
    ∃ later, after.effects key = some later ∧ holds later := by
  induction run generalizing effect with
  | nil => exact ⟨effect, stored, initial⟩
  | cons head tail ih =>
    obtain ⟨first, others⟩ := forall_mem_cons.mp produced
    rcases head.changed.stored first stored with same | ⟨next, moved, found⟩
    · exact ih others same initial
    · exact ih others found (kept effect next moved initial)

end Effects

end Circulusd.Mcp
