import Circulusd.Celld.Types
import Mathlib.Data.String.Basic
import Mathlib.Data.List.Sort

/-
The celld bridge: transactions over snapshot reads and compare-and-commit of the native transport.
-/

namespace Circulusd.Celld

open Dialogue Protocol

structure Bounds where
  maxStateBytes : Nat
  maxReceiptResponseBytes : Nat
  maxCapabilityClaims : Nat
  maxCapabilityClaimBytes : Nat
  maxReceiptLookups : Nat
  maxReceiptWrites : Nat
  maxTransactionBytes : Nat
deriving DecidableEq

structure Storage where
  bounds : Bounds
  maximumAttempts : Nat
deriving DecidableEq

structure ReceiptRead where
  receipt : StoredReceipt
  found : Bool
deriving DecidableEq

/-- A transaction; nothing uses it after its callback. -/
structure Tx where
  snapshot : SnapshotRef
  state : Bytes
  stagedState : Bytes
  stateWritten : Bool
  reads : List (String × ReceiptRead)
  writes : List (String × StoredReceipt)
  footprint : Int
  err : Option Error
deriving DecidableEq

/-- The variables of a call: those that its callback assigns, and the transaction at hand. -/
structure Frame where
  receipt : StoredReceipt
  replayed : Bool
  invoked : Bool
  tx : Tx
deriving DecidableEq

abbrev Code := Script Question Answer Frame Error

section Questions

abbrev ask.check (question : Check) : Code (Option Error) := Script.ask (Question.check question)

abbrev ask.apply (state command : Bytes) : Code (Except Error ApplyResult) := Script.ask (Question.apply state command)

abbrev ask.randomMarker : Code (Except Error Bytes) := Script.ask Question.randomMarker

abbrev ask.seal (binding : PermitBinding) (claims : RawCapabilityClaims) : Code (Except Error Bytes) :=
  Script.ask (Question.seal binding claims)

abbrev ask.readSnapshot (objectId : String) : Code (Except Error Snapshot) := Script.ask (Question.readSnapshot objectId)

abbrev ask.readReceipt (request : ReceiptRequest) : Code (Except Error ReceiptResult) :=
  Script.ask (Question.readReceipt request)

abbrev ask.compareAndCommit (request : CommitRequest) : Code (Except Error CommitResult) :=
  Script.ask (Question.compareAndCommit request)

abbrev ask.confirmBarrier (request : BarrierRequest) : Code (Except Error BarrierResult) :=
  Script.ask (Question.confirmBarrier request)

end Questions

/-- A check fails with the error that it finds. -/
def check (question : Check) : Code Unit := do
  let answer ← ask.check question
  match answer with
  | some error => Script.fail error
  | none => pure ()

def contextErr : Code Unit := check .contextErr

/-- `nativeError`: what a caller learns of an error of the transport. -/
def nativeError (error : Error) : Code Error := do
  let context ← ask.check .contextErr
  match context with
  | some contextError => pure contextError
  | none =>
    match [Sentinel.canceled, .deadlineExceeded, .snapshotConflict, .invalidResponse, .unauthenticatedResponse,
        .closed, .unverifiedDependency].find? error.is with
    | some sentinel => pure sentinel.error
    | none => pure Sentinel.unavailable.error

section Transactions

def receiptSize (receipt : StoredReceipt) : Nat :=
  32 + receipt.response.length +
    (receipt.capabilityClaims.map fun claim => claim.kind.utf8ByteSize + claim.payload.length).sum

/-- The claims of a receipt share one bound on their payloads. -/
def validateClaims (platform : Platform) (maximum : Nat) : Nat → List RawCapabilityClaims → Option Error
  | _, [] => none
  | total, claim :: rest =>
    if platform.validIdentifier claim.kind = false then some Sentinel.corruptReceipt.error
    else if maximum - total < claim.payload.length then some Sentinel.capabilityClaimsTooLarge.error
    else validateClaims platform maximum (total + claim.payload.length) rest

def validateReceipt (platform : Platform) (bounds : Bounds) (receipt : StoredReceipt) : Option Error :=
  if bounds.maxReceiptResponseBytes < receipt.response.length then some Sentinel.responseTooLarge.error
  else if bounds.maxCapabilityClaims < receipt.capabilityClaims.length then
    some Sentinel.capabilityClaimsTooLarge.error
  else validateClaims platform bounds.maxCapabilityClaimBytes 0 receipt.capabilityClaims

def Tx.begin (snapshot : Snapshot) : Tx where
  snapshot := snapshot.toSnapshotRef
  state := snapshot.state
  stagedState := []
  stateWritten := false
  reads := []
  writes := []
  footprint := snapshot.state.length
  err := none

def changeTx (change : Tx → Tx) : Code Unit :=
  Script.modify fun frame => { frame with tx := change frame.tx }

/-- `fail`: the first error of a transaction stays. -/
def txFail {α : Type} (error : Error) : Code α := do
  changeTx fun tx => { tx with err := tx.err.or (some error) }
  Script.fail error

def txRefuseIf (condition : Prop) [Decidable condition] (error : Error) : Code Unit :=
  if condition then txFail error else pure ()

/-- `ready`. -/
def txReady : Code Unit := do
  contextErr
  let frame ← Script.get
  match frame.tx.err with
  | some error => Script.fail error
  | none => pure ()

/-- `ReadState`. -/
def readState : Code Bytes := do
  txReady
  let frame ← Script.get
  pure (if frame.tx.stateWritten then frame.tx.stagedState else frame.tx.state)

variable (platform : Platform) (bounds : Bounds)

/-- `lookup`: each command is read once in a transaction. -/
def lookup (commandId : String) : Code ReceiptRead := do
  let frame ← Script.get
  match frame.tx.reads.lookup commandId with
  | some read => pure read
  | none => do
    txRefuseIf (bounds.maxReceiptLookups ≤ frame.tx.reads.length) Sentinel.bridgeInvalidRequest.error
    let answer ← ask.readReceipt ⟨frame.tx.snapshot, commandId⟩
    match answer with
    | .error error => do
      let shown ← nativeError error
      txFail shown
    | .ok response => do
      let context ← ask.check .contextErr
      match context with
      | some error => txFail error
      | none => do
        txRefuseIf (response.snapshot ≠ frame.tx.snapshot ∨ response.commandId ≠ commandId)
          Sentinel.invalidResponse.error
        txRefuseIf (response.found = false ∧ (response.receipt.commandDigest ≠ 0 ∨
            response.receipt.response.length ≠ 0 ∨ response.receipt.capabilityClaims.length ≠ 0))
          Sentinel.invalidResponse.error
        txRefuseIf (response.found = true ∧ (validateReceipt platform bounds response.receipt).isSome = true)
          Sentinel.invalidResponse.error
        let size := commandId.utf8ByteSize + if response.found then receiptSize response.receipt else 0
        txRefuseIf ((bounds.maxTransactionBytes : Int) - frame.tx.footprint < size) Sentinel.invalidResponse.error
        let read : ReceiptRead := ⟨response.receipt, response.found⟩
        changeTx fun tx =>
          { tx with reads := (commandId, read) :: tx.reads, footprint := tx.footprint + size }
        pure read

/-- `LookupReceipt`: a staged receipt comes first. -/
def lookupReceipt (commandId : String) : Code ReceiptRead := do
  txReady
  txRefuseIf (platform.validIdentifier commandId = false) Sentinel.bridgeInvalidRequest.error
  let frame ← Script.get
  match frame.tx.writes.lookup commandId with
  | some receipt => pure ⟨receipt, true⟩
  | none => lookup platform bounds commandId

/-- `WriteState`. -/
def writeState (state : Bytes) : Code Unit := do
  txReady
  txRefuseIf (bounds.maxStateBytes < state.length) Sentinel.stateTooLarge.error
  let frame ← Script.get
  let current := if frame.tx.stateWritten then frame.tx.stagedState.length else 0
  txRefuseIf ((bounds.maxTransactionBytes : Int) - (frame.tx.footprint - current) < state.length)
    Sentinel.stateTooLarge.error
  changeTx fun tx =>
    { tx with footprint := tx.footprint + state.length - current, stagedState := state, stateWritten := true }

/-- `WriteReceipt`: an equal receipt may be written again. -/
def writeReceipt (commandId : String) (receipt : StoredReceipt) : Code Unit := do
  txReady
  txRefuseIf (platform.validIdentifier commandId = false) Sentinel.bridgeInvalidRequest.error
  match validateReceipt platform bounds receipt with
  | some error => txFail error
  | none => do
    let frame ← Script.get
    match frame.tx.writes.lookup commandId with
    | some staged => txRefuseIf (staged ≠ receipt) Sentinel.idempotencyConflict.error
    | none => do
      let read ← lookup platform bounds commandId
      if read.found then txRefuseIf (read.receipt ≠ receipt) Sentinel.idempotencyConflict.error
      else do
        let frame ← Script.get
        txRefuseIf (bounds.maxReceiptWrites ≤ frame.tx.writes.length) Sentinel.bridgeInvalidRequest.error
        let size := commandId.utf8ByteSize + receiptSize receipt
        txRefuseIf ((bounds.maxTransactionBytes : Int) - frame.tx.footprint < size) Sentinel.responseTooLarge.error
        changeTx fun tx =>
          { tx with writes := (commandId, receipt) :: tx.writes, footprint := tx.footprint + size }

/-- The receipts of a request, by their command ids. -/
def Tx.receipts (tx : Tx) : List ReceiptWrite :=
  (tx.writes.map fun write => (⟨write.1, write.2⟩ : ReceiptWrite)).insertionSort (·.commandId ≤ ·.commandId)

def Tx.commitRequest (tx : Tx) (digest : Digest) : CommitRequest where
  snapshot := tx.snapshot
  stateWritten := tx.stateWritten
  state := if tx.stateWritten then tx.stagedState else []
  receipts := tx.receipts
  requestDigest := digest

end Transactions

section Storage

variable (platform : Platform) (storage : Storage)

def ValidSnapshot (bounds : Bounds) (objectId : String) (snapshot : Snapshot) : Prop :=
  snapshot.objectId = objectId ∧ snapshot.state.length ≤ bounds.maxStateBytes ∧
    snapshot.state.length ≤ bounds.maxTransactionBytes ∧ snapshot.revision < maximumRevision ∧
    platform.sha256 snapshot.state = snapshot.stateDigest ∧
    if snapshot.present then 0 < snapshot.revision else snapshot.revision = 0 ∧ snapshot.state.length = 0
deriving Decidable

def storageReady : Code Unit := do
  contextErr
  check .openBinding

/-- The attempts that are left; only a definite snapshot conflict leads to another. -/
def attempts (objectId : String) (callback : Code Unit) : Nat → Code CommitToken
  | 0 => Script.fail Sentinel.snapshotConflict.error
  | remaining + 1 => do
    contextErr
    let answer ← ask.readSnapshot objectId
    match answer with
    | .error error => do
      contextErr
      if error.is .snapshotConflict then attempts objectId callback remaining
      else do
        let shown ← nativeError error
        Script.fail shown
    | .ok snapshot => do
      contextErr
      Script.refuseIf (¬ ValidSnapshot platform storage.bounds objectId snapshot) Sentinel.invalidResponse.error
      changeTx fun _ => Tx.begin snapshot
      let called ← Script.attempt callback
      contextErr
      let frame ← Script.get
      match frame.tx.err with
      | some error =>
        if error.is .snapshotConflict then attempts objectId callback remaining else Script.fail error
      | none =>
        match called with
        | .error error => Script.fail error
        | .ok () =>
          let tx := frame.tx
          match platform.commitDigest tx.snapshot tx.stateWritten
              (if tx.stateWritten then tx.stagedState else []) tx.receipts with
          | none => Script.fail Sentinel.bridgeInvalidRequest.error
          | some digest => do
            contextErr
            let answer ← ask.compareAndCommit (tx.commitRequest digest)
            match answer with
            | .error error => do
              contextErr
              if error.is .snapshotConflict then attempts objectId callback remaining
              else do
                let shown ← nativeError error
                Script.fail shown
            | .ok result => do
              contextErr
              let expectedDigest :=
                if tx.stateWritten then platform.sha256 tx.stagedState else snapshot.stateDigest
              Script.refuseIf (result.snapshot ≠ ⟨objectId, true, snapshot.revision + 1, expectedDigest⟩ ∨
                  result.requestDigest ≠ digest ∨ result.token ≠ ⟨objectId, snapshot.revision + 1⟩)
                Sentinel.invalidResponse.error
              pure result.token

/-- `Transaction`. -/
def transaction (objectId : String) (callback : Code Unit) : Code CommitToken := do
  storageReady
  Script.refuseIf (platform.validIdentifier objectId = false) Sentinel.bridgeInvalidRequest.error
  attempts platform storage objectId callback storage.maximumAttempts

/-- `DurabilityBarrier`. -/
def durabilityBarrier (token : CommitToken) : Code Unit := do
  storageReady
  Script.refuseIf (platform.validIdentifier token.objectId = false ∨ token.revision = 0 ∨
    maximumRevision < token.revision) Sentinel.bridgeInvalidRequest.error
  let random ← ask.randomMarker
  match random with
  | .error _ => Script.fail Sentinel.unavailable.error
  | .ok marker => do
    contextErr
    let answer ← ask.confirmBarrier ⟨token, marker⟩
    match answer with
    | .error error => do
      let shown ← nativeError error
      Script.fail shown
    | .ok response => do
      contextErr
      Script.refuseIf (response.token ≠ token ∨ response.marker ≠ marker ∨
          response.observedRevision < token.revision ∨ maximumRevision < response.observedRevision ∨
          response.barrierSerial = 0 ∨ maximumRevision < response.barrierSerial)
        Sentinel.invalidResponse.error

end Storage

end Circulusd.Celld
