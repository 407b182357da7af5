import Circulusd.Host.Storage
import Circulusd.Session.Apply
import Circulusd.Session.Migration

/-
What a migrating read does to the payload blobs of a session record.
-/

namespace Circulusd.Host

open Protocol Checked Journal KeyValue Session List Option

theorem parseReferencedBlobs_ok_iff (stored : Option (List BlobRecordRef)) (references : List BlobRecordRef) :
    parseReferencedBlobs stored = .ok references ↔
      stored.getD [] = references ∧ (∀ reference ∈ references, reference.Bounded) ∧
        (references.map (·.digest)).Nodup := by
  simp only [parseReferencedBlobs, bind_ok, exists_unit, pure_ok, forEachPrior_ok_iff_eachPrior, hostErrorIf_ok_iff,
    not_not, not_or, Bool.not_eq_true, List.any_eq_false, decide_eq_true_eq, eachPrior_and, eachPrior_forall_mem,
    ← ne_eq, eachPrior_fresh_iff_nodup (fun x : BlobRecordRef => x.digest)]
  constructor
  · rintro ⟨⟨bounded, unique⟩, rfl⟩
    exact ⟨rfl, bounded, unique⟩
  · rintro ⟨rfl, bounded, unique⟩
    exact ⟨⟨bounded, unique⟩, rfl⟩

/-- Digests are unique, so a member is the entry that a lookup finds. -/
theorem find?_digest_of_mem (references : List BlobRecordRef) (reference : BlobRecordRef)
    (unique : (references.map (·.digest)).Nodup) (member : reference ∈ references) :
    references.find? (·.digest = reference.digest) = some reference := by
  induction references with
  | nil => simp at member
  | cons first rest ih =>
    rw [map_cons, nodup_cons] at unique
    rcases mem_cons.mp member with rfl | later
    · simp
    · have distinct : first.digest ≠ reference.digest := fun same =>
        unique.1 (same ▸ mem_map_of_mem later)
      simp [distinct, ih unique.2 later]

theorem chunkMutations_key (key : Nat → StorageKey) (bytes : Bytes) (mutation : StorageMutation)
    (member : mutation ∈ chunkMutations key bytes) : ∃ index, mutation.key = key index := by
  obtain ⟨index, _, rfl⟩ := mem_map.mp member
  exact ⟨index, rfl⟩

theorem deletions_key (key : Nat → StorageKey) (count : Nat) (mutation : StorageMutation)
    (member : mutation ∈ deletions key count) : ∃ index, mutation.key = key index := by
  obtain ⟨index, _, rfl⟩ := mem_map.mp member
  exact ⟨index, rfl⟩

/-- A first component that is always present keeps its source. -/
theorem forall₂_filterMap_fst {α β γ : Type} {found : α → Option β × γ → Prop} {related : α → β → Prop}
    {sources : List α} {results : List (Option β × γ)} (each : List.Forall₂ found sources results)
    (present : ∀ source result, found source result → ∃ value, result.1 = some value ∧ related source value) :
    List.Forall₂ related sources (results.filterMap (·.1)) := by
  induction each with
  | nil => exact .nil
  | cons first _ ih =>
    obtain ⟨value, equal, holds⟩ := present _ _ first
    rw [filterMap_cons_some equal]
    exact .cons holds ih

namespace ChunkedAggregateStorage

variable {State : Type} (host : ChunkedAggregateStorage State)

theorem readArchived_ok (storage : Storage) (root : SessionHistoryIndexRoot) (digest : Digest)
    (reference : BlobRecordRef)
    (ok : host.readArchivedSessionBlobReference storage root digest = .ok (some reference)) :
    reference.digest = digest ∧ reference.Bounded := by
  simp only [readArchivedSessionBlobReference, steps_ok, hostErrorIf_ok_iff] at ok
  obtain ⟨found, _, valid, rfl⟩ := ok
  by_contra invalid
  exact valid ⟨reference, rfl, by tauto⟩

/-- A carried reference is the previous one; any other comes from the archive. -/
def Carried (storage : Storage) (manifest : StateManifest) (digest : Digest) (reference : BlobRecordRef) : Prop :=
  manifest.referencedBlobs.find? (·.digest = digest) = some reference ∨
    (manifest.referencedBlobs.find? (·.digest = digest) = none ∧ ∃ root ∈ manifest.sessionHistory,
        host.readArchivedSessionBlobReference storage root digest = .ok (some reference))

theorem resolveReference_carried (storage : Storage) (manifest : StateManifest) (newReferences : List Digest)
    (digest : Digest) (entry : Option BlobRecordRef) (creation : Option BlobCreation)
    (ok : host.resolveReference storage manifest.sessionHistory manifest.referencedBlobs [] newReferences
      digest = .ok (entry, creation)) :
    creation = none ∧ ∃ reference, entry = some reference ∧ host.Carried storage manifest digest reference := by
  unfold resolveReference at ok
  split at ok
  · next carried found =>
      obtain ⟨rfl, rfl⟩ := Prod.mk.inj (Except.ok.inj ok)
      exact ⟨rfl, carried, rfl, .inl found⟩
  · next missing =>
      simp only [lookup_nil, steps_ok] at ok
      obtain ⟨archived, found, reference, rfl, rfl, rfl⟩ := ok
      unfold archivedReference at found
      split at found
      · simp at found
      · next root present => exact ⟨rfl, reference, rfl, .inr ⟨missing, root, present, found⟩⟩

section

variable {storage : Storage} {manifest : StateManifest} {digest : Digest} {reference : BlobRecordRef}
  (carried : host.Carried storage manifest digest reference)
include carried

theorem Carried.digest_eq : reference.digest = digest := by
  rcases carried with found | ⟨_, root, _, archived⟩
  · simpa using find?_some found
  · exact (host.readArchived_ok storage root digest reference archived).1

theorem Carried.bounded (previous : ∀ entry ∈ manifest.referencedBlobs, entry.Bounded) : reference.Bounded := by
  rcases carried with found | ⟨_, root, _, archived⟩
  · exact previous reference (mem_of_find?_eq_some found)
  · exact (host.readArchived_ok storage root digest reference archived).2

end

theorem dropReference_ok (storage : Storage) (history : Option SessionHistoryIndexRoot)
    (newReferences : List Digest) (entry dropped : BlobRecordRef)
    (ok : host.dropReference storage history newReferences entry = .ok (some dropped)) :
    dropped.digest ∉ newReferences := by
  unfold dropReference at ok
  split at ok
  · simp at ok
  · next absent =>
      obtain ⟨archived, _, ok⟩ := (bind_ok ..).mp ok
      cases archived with
      | none =>
        simp only [pure_ok, some.injEq] at ok
        exact ok ▸ absent
      | some pin => simp at ok

/-- Without new bytes, every new reference is carried and only dropped references are deleted. -/
theorem resolveBlobMutations_carried (storage : Storage) (manifest : StateManifest) (references : List Digest)
    (mutations : BlobMutations)
    (ok : host.resolveBlobMutations storage (some manifest) [] references manifest.sessionHistory = .ok mutations) :
    mutations.blobsToCreate = [] ∧
      List.Forall₂ (host.Carried storage manifest) references.eraseDups mutations.referencedEntries ∧
      ∀ entry ∈ mutations.blobsToDelete, entry.digest ∉ references := by
  simp only [resolveBlobMutations, storedReferences, foldlM_nil, map_some, getD_some, steps_ok, mapM_ok_iff,
    hostErrorIf_ok_iff] at ok
  obtain ⟨stored, rfl, resolved, each, _, dropped, deleted, rfl⟩ := ok
  refine ⟨?_, ?_, ?_⟩
  · simp only [filterMap_eq_nil_iff]
    intro result member
    obtain ⟨digest, _, found⟩ := exists_of_forall₂_mem each member
    exact (host.resolveReference_carried _ _ _ _ _ _ found).1
  · exact forall₂_filterMap_fst each fun digest result found =>
      (host.resolveReference_carried storage manifest _ digest result.1 result.2 found).2
  · intro entry member
    obtain ⟨result, present, equal⟩ := mem_filterMap.mp member
    obtain ⟨previous, _, found⟩ := exists_of_forall₂_mem deleted present
    rw [id] at equal
    subst equal
    simpa using host.dropReference_ok _ _ _ _ _ found

/-- What a rewrite without new bytes stores. -/
theorem writeRecord_rewrites (storage after : Storage) (record : StateRecord State)
    (manifest rewritten : StateManifest) (references : Option (List Digest))
    (ok : host.writeRecord storage record (some manifest) none references none = .ok (rewritten, after)) :
    ∃ mutations encoded,
      host.resolveBlobMutations storage (some manifest) [] (references.getD []) manifest.sessionHistory =
        .ok mutations ∧
      rewritten.referencedBlobs = mutations.referencedEntries ∧
      rewritten.sessionHistory = manifest.sessionHistory ∧ rewritten.aggregateKind = host.aggregateKind ∧
      after = writeAll storage (recordMutations (some manifest) rewritten encoded mutations) := by
  simp only [writeRecord, none_or, bind_some, getD_none, steps_ok, hostErrorIf_ok_iff] at ok
  obtain ⟨encoded, _, mutations, resolved, _, _, rfl, rfl⟩ := ok
  exact ⟨mutations, encoded, resolved, rfl, rfl, rfl, rfl⟩

theorem recordMutations_manifest (storage : Storage) (previous : Option StateManifest) (manifest : StateManifest)
    (encoded : Bytes) (blobs : BlobMutations) :
    writeAll storage (recordMutations previous manifest encoded blobs) .manifest =
      some (.manifest ⟨manifest.toManifestHeader, some manifest.referencedBlobs⟩) := by
  unfold recordMutations
  rw [append_assoc, append_assoc, singleton_append]
  apply writeAll_put
  intro mutation member
  rcases mem_append.mp member with old | blob
  · cases previous with
    | none => simp at old
    | some header =>
      simp only [elim_some] at old
      split at old
      · simp at old
      · obtain ⟨index, equal⟩ := deletions_key _ _ _ old
        simp [equal]
  · obtain ⟨entry, _, deleted⟩ := mem_flatMap.mp blob
    obtain ⟨index, equal⟩ := deletions_key _ _ _ deleted
    simp [equal]

/-- A rewrite names the keys of no blob except the created and the deleted ones. -/
theorem recordMutations_blobChunk (storage : Storage) (previous : Option StateManifest)
    (manifest : StateManifest) (encoded : Bytes) (blobs : BlobMutations) (digest : Digest) (index : Nat)
    (created : blobs.blobsToCreate = []) (kept : ∀ entry ∈ blobs.blobsToDelete, entry.digest ≠ digest) :
    writeAll storage (recordMutations previous manifest encoded blobs) (.blobChunk digest index) =
      storage (.blobChunk digest index) := by
  apply writeAll_untouched
  intro mutation member
  unfold recordMutations at member
  simp only [mem_append] at member
  rcases member with ((((blob | chunk) | anchor) | header) | old) | blob
  · rw [created] at blob
    exact absurd blob not_mem_nil
  · obtain ⟨other, equal⟩ := chunkMutations_key _ _ _ chunk
    simp [equal]
  · split at anchor <;> simp at anchor
    simp [anchor, Mutation.key]
  · rw [mem_singleton.mp header]
    simp [Mutation.key]
  · cases previous with
    | none => simp at old
    | some header =>
      simp only [elim_some] at old
      split at old
      · simp at old
      · obtain ⟨other, equal⟩ := deletions_key _ _ _ old
        simp [equal]
  · obtain ⟨entry, present, deleted⟩ := mem_flatMap.mp blob
    obtain ⟨other, equal⟩ := deletions_key _ _ _ deleted
    simp [equal, kept entry present]

/-- What accepted headers say about the stored manifest. -/
structure HeaderOf (candidate : StoredManifest) (manifest : StateManifest) : Prop where
  header : candidate.toManifestHeader = manifest.toManifestHeader
  parsed : parseReferencedBlobs candidate.referencedBlobs = .ok manifest.referencedBlobs
  kind : manifest.aggregateKind = host.aggregateKind
  root : ∀ root ∈ manifest.sessionHistory, validateSessionHistoryIndexRoot root = .ok ()
  session : manifest.sessionHistory.isSome = true → manifest.aggregateKind = "session"

theorem readHeaders_ok (storedManifest storedAnchor : StorageValue) (manifest : StateManifest)
    (ok : host.readHeaders storedManifest storedAnchor = .ok manifest) :
    ∃ candidate, storedManifest = .manifest candidate ∧ host.HeaderOf candidate manifest := by
  simp only [readHeaders, steps_ok, hostErrorIf_ok_iff, forEach_ok_iff, mem_toList] at ok
  obtain ⟨anchor, _, _, candidate, stored, metadata, references, parsed, root, session, _, rfl⟩ := ok
  cases storedManifest with
  | manifest value =>
    cases stored
    refine ⟨candidate, rfl, rfl, parsed, ?_, root, ?_⟩
    · by_contra other
      exact metadata (.inr (.inl other))
    · intro present
      by_contra other
      exact session ⟨present, other⟩
  | anchor value => simp [manifestRecord] at stored
  | bytes value => simp [manifestRecord] at stored

theorem blobReference_carried (storage : Storage) (candidate : StoredManifest) (manifest : StateManifest)
    (digest : Digest) (reference : BlobRecordRef) (headers : host.HeaderOf candidate manifest)
    (carried : host.Carried storage manifest digest reference) :
    host.blobReference storage candidate digest = .ok (some reference) := by
  have history : candidate.sessionHistory = manifest.sessionHistory :=
    congrArg ManifestHeader.sessionHistory headers.header
  have kind : candidate.aggregateKind = manifest.aggregateKind :=
    congrArg (fun header => header.aggregateKind) headers.header
  rw [blobReference, headers.parsed, history, kind]
  rcases carried with found | ⟨missing, root, present, archived⟩
  · simp only [ok_bind, found]
    rfl
  · have session : manifest.aggregateKind = "session" := headers.session (by rw [present]; rfl)
    have valid := headers.root root present
    rw [mem_def.mp present]
    simp only [ok_bind, missing, session, valid, hostErrorIf, refuseIf, ne_eq, not_true_eq_false, if_false, archived]

/-- A blob is read through its reference and its own chunks. -/
theorem readBlob_of_reference (storage : Storage) (candidate : StoredManifest) (digest : Digest)
    (reference : BlobRecordRef) (stored : storage .manifest = some (.manifest candidate))
    (found : host.blobReference storage candidate digest = .ok (some reference)) :
    host.readBlob storage digest =
      host.readReferencedBlob (fun index => storage (.blobChunk digest index)) digest (some reference) := by
  rw [readBlob, stored]
  simp only [manifestRecord, ok_bind, found]

/-- Two storages with the same reference and the same chunks give the same blob. -/
theorem readBlob_congr (first second : Storage) (firstManifest secondManifest : StoredManifest) (digest : Digest)
    (reference : BlobRecordRef) (firstStored : first .manifest = some (.manifest firstManifest))
    (secondStored : second .manifest = some (.manifest secondManifest))
    (firstFound : host.blobReference first firstManifest digest = .ok (some reference))
    (secondFound : host.blobReference second secondManifest digest = .ok (some reference))
    (chunks : ∀ index, first (.blobChunk digest index) = second (.blobChunk digest index)) :
    host.readBlob first digest = host.readBlob second digest := by
  rw [host.readBlob_of_reference first firstManifest digest reference firstStored firstFound,
    host.readBlob_of_reference second secondManifest digest reference secondStored secondFound, funext chunks]

/-- A rewrite that lists a carried reference keeps the bytes behind it. -/
theorem writeRecord_keeps_blob (storage after : Storage) (record : StateRecord State)
    (candidate : StoredManifest) (manifest rewritten : StateManifest) (references : Option (List Digest))
    (stored : storage .manifest = some (.manifest candidate)) (headers : host.HeaderOf candidate manifest)
    (ok : host.writeRecord storage record (some manifest) none references none = .ok (rewritten, after))
    (digest : Digest) (member : digest ∈ references.getD []) :
    (∃ reference ∈ rewritten.referencedBlobs, reference.digest = digest) ∧
      host.readBlob after digest = host.readBlob storage digest := by
  obtain ⟨mutations, encoded, resolved, entries, history, kind, rfl⟩ :=
    host.writeRecord_rewrites storage after record manifest rewritten references ok
  obtain ⟨created, carried, deleted⟩ := host.resolveBlobMutations_carried _ _ _ _ resolved
  rw [← entries] at carried
  have digests : rewritten.referencedBlobs.map (·.digest) = (references.getD []).eraseDups :=
    (forall₂_eq_eq_eq ▸ forall₂_map_right_iff.mpr
      (carried.imp fun _ _ holds => (Carried.digest_eq host holds).symm) : (references.getD []).eraseDups = _).symm
  obtain ⟨_, bounded, _⟩ := (parseReferencedBlobs_ok_iff ..).mp headers.parsed
  have parsed : parseReferencedBlobs (some rewritten.referencedBlobs) = .ok rewritten.referencedBlobs := by
    refine (parseReferencedBlobs_ok_iff ..).mpr ⟨rfl, ?_, ?_⟩
    · intro reference present
      obtain ⟨_, _, holds⟩ := exists_of_forall₂_mem carried present
      exact Carried.bounded host holds bounded
    · rw [digests]
      exact nodup_eraseDups _
  have listed : digest ∈ rewritten.referencedBlobs.map (·.digest) := by
    rw [digests]
    exact mem_eraseDups.mpr member
  obtain ⟨reference, present, rfl⟩ := mem_map.mp listed
  obtain ⟨source, _, holds⟩ := exists_of_forall₂_mem carried present
  obtain rfl := Carried.digest_eq host holds
  have found := find?_digest_of_mem _ reference (digests ▸ nodup_eraseDups _) present
  have rewrittenHeaders : host.HeaderOf ⟨rewritten.toManifestHeader, some rewritten.referencedBlobs⟩ rewritten :=
    ⟨rfl, parsed, kind, by rw [history]; exact headers.root,
      by rw [history, kind, ← headers.kind]; exact headers.session⟩
  have kept : ∀ entry ∈ mutations.blobsToDelete, entry.digest ≠ reference.digest := fun entry removed same =>
    deleted entry removed (same ▸ member)
  refine ⟨⟨reference, present, rfl⟩, ?_⟩
  exact host.readBlob_congr _ storage _ candidate reference.digest reference
    (recordMutations_manifest storage (some manifest) rewritten encoded mutations) stored
    (host.blobReference_carried _ _ rewritten _ _ rewrittenHeaders (.inl found))
    (host.blobReference_carried storage candidate manifest _ _ headers holds)
    fun index => recordMutations_blobChunk storage (some manifest) rewritten encoded mutations reference.digest
      index created kept

/-- An accepted read that migrates has rewritten the stored record. -/
theorem read_migrated (storage after : Storage) (manifest : StateManifest) (stored : StateRecord State)
    (result : StoredStateRecord State) (migration : AggregateMigrationResult State)
    (held : host.storedRecord storage = .ok (manifest, stored)) (ok : host.read storage = .ok (some result, after))
    (found : host.migrate stored.state = some migration) (migrated : migration.migrated = true) :
    result.record.state = migration.state ∧
      ∃ candidate, storage .manifest = some (.manifest candidate) ∧ host.HeaderOf candidate manifest ∧
        host.writeRecord storage result.record (some manifest) migration.blobs migration.referencedBlobs none =
          .ok (result.manifest, after) := by
  have present : ∃ storedManifest storedAnchor, storage .manifest = some storedManifest ∧
      host.readHeaders storedManifest storedAnchor = .ok manifest := by
    unfold storedRecord at held
    split at held
    · next storedManifest storedAnchor isManifest _ =>
        simp only [steps_ok] at held
        obtain ⟨_, headers, _, _, rfl, _⟩ := held
        exact ⟨storedManifest, storedAnchor, isManifest, headers⟩
    · simp at held
  obtain ⟨storedManifest, storedAnchor, isManifest, headers⟩ := present
  obtain ⟨candidate, rfl, headerOf⟩ := host.readHeaders_ok _ _ _ headers
  have nonempty : ¬ (storage .manifest = none ∧ storage .anchor = none) := by simp [isManifest]
  rw [read, if_neg nonempty, held, ok_bind] at ok
  obtain ⟨used, valid, ok⟩ := (bind_ok ..).mp ok
  have same : used = migration := by
    simp only [readState, steps_ok, found, some.injEq] at valid
    obtain ⟨_, rfl, _, _, _, _, rfl⟩ := valid
    rfl
  subst same
  simp only [if_pos migrated, steps_ok, some.injEq] at ok
  obtain ⟨⟨rewritten, final⟩, written, rfl, rfl⟩ := ok
  exact ⟨rfl, candidate, isManifest, headerOf, written⟩

end ChunkedAggregateStorage

/-- The functions of the host that the session storage uses. -/
structure SessionHost where
  codec : Codec
  route : Option CellRoutePort
  encodeRecord : StateRecord StoredSessionState → Option Bytes
  decodeRecord : Bytes → Option (StateRecord StoredSessionState)
  lookupBlob : (String → Option StorageValue) → SessionHistoryIndexRoot → Digest → Hosted (Option BlobRecordRef)

def SessionHost.storage (ports : SessionHost) : ChunkedAggregateStorage StoredSessionState where
  aggregateKind := "session"
  validateState stored := (validateStoredSessionState ports.codec stored).isOk
  migrateState := some fun stored => (migrateSessionState ports.codec stored).toOption
  route := ports.route
  hasHistory stored := stored.history.isSome
  encodeRecord := ports.encodeRecord
  decodeRecord := ports.decodeRecord
  digestBytes := ports.codec.digestBytes
  lookupBlob := ports.lookupBlob

variable (ports : SessionHost)

/-- The rewritten manifest lists the digest and its bytes read as before. -/
def KeepsBlob (before after : Storage) (digest : Digest) : Prop :=
  digest ∈ after.referencedDigests ∧ ports.storage.readBlob after digest = ports.storage.readBlob before digest

/-- The migrating read of a legacy record rewrites it with the references that its migration returned. -/
theorem SessionHost.read_legacy (storage after : Storage) (manifest : StateManifest)
    (stored : StateRecord StoredSessionState) (result : StoredStateRecord StoredSessionState)
    (held : ports.storage.storedRecord storage = .ok (manifest, stored))
    (legacy : 1 ≤ stored.state.schemaVersion ∧ stored.state.schemaVersion ≤ 6)
    (ok : ports.storage.read storage = .ok (some result, after)) :
    result.record.state = stored.state.upgraded ∧
      ∃ candidate, storage .manifest = some (.manifest candidate) ∧ ports.storage.HeaderOf candidate manifest ∧
        ports.storage.writeRecord storage result.record (some manifest) none
          (if 5 ≤ stored.state.schemaVersion then none
            else some (sessionReferencedBlobDigests stored.state.toSessionAggregateState)) none =
          .ok (result.manifest, after) := by
  cases migrated : migrateSessionState ports.codec stored.state with
  | error failure =>
    -- A failed migration makes the whole read fail.
    have refused : ports.storage.migrate stored.state = none := by
      simp only [ChunkedAggregateStorage.migrate, SessionHost.storage, migrated]
      rfl
    unfold ChunkedAggregateStorage.read at ok
    split at ok
    · simp at ok
    · simp only [held, ok_bind, steps_ok, ChunkedAggregateStorage.readState, refused] at ok
      obtain ⟨_, ⟨_, missing, _⟩, _⟩ := ok
      simp at missing
  | ok migration =>
    obtain ⟨state, flagged, blobs, references⟩ :=
      migrateSessionState_legacy ports.codec stored.state migration legacy migrated
    have found : ports.storage.migrate stored.state = some migration := by
      simp only [ChunkedAggregateStorage.migrate, SessionHost.storage, migrated]
      rfl
    have rewritten := ports.storage.read_migrated storage after manifest stored result migration held ok found flagged
    rw [state, blobs, references] at rewritten
    exact rewritten

theorem SessionHost.after_referencedDigests (storage after : Storage) (record : StateRecord StoredSessionState)
    (manifest rewritten : StateManifest) (references : Option (List Digest))
    (ok : ports.storage.writeRecord storage record (some manifest) none references none = .ok (rewritten, after)) :
    after.referencedDigests = rewritten.referencedBlobs.map (·.digest) := by
  obtain ⟨mutations, encoded, _, _, _, _, rfl⟩ :=
    ports.storage.writeRecord_rewrites storage after record manifest rewritten references ok
  rw [Storage.referencedDigests,
    ChunkedAggregateStorage.recordMutations_manifest storage (some manifest) rewritten encoded mutations]
  rfl

/-- A migrating read keeps every referenced payload exactly when the old schema is one of the first
four or the old state references no payload. -/
theorem migrating_read_keeps_blobs_iff (storage after : Storage) (manifest : StateManifest)
    (stored : StateRecord StoredSessionState) (result : StoredStateRecord StoredSessionState)
    (held : ports.storage.storedRecord storage = .ok (manifest, stored))
    (legacy : 1 ≤ stored.state.schemaVersion ∧ stored.state.schemaVersion ≤ 6)
    (accepted : ports.storage.read storage = .ok (some result, after)) :
    (∀ digest ∈ sessionReferencedBlobDigests result.record.state.toSessionAggregateState,
        KeepsBlob ports storage after digest) ↔
      stored.state.schemaVersion ≤ 4 ∨ sessionReferencedBlobDigests stored.state.toSessionAggregateState = [] := by
  obtain ⟨state, candidate, isManifest, headers, written⟩ :=
    ports.read_legacy storage after manifest stored result held legacy accepted
  rw [state, StoredSessionState.upgraded_references]
  have listed := ports.after_referencedDigests storage after _ manifest _ _ written
  by_cases recent : 5 ≤ stored.state.schemaVersion
  · -- The migration of schemas 5 and 6 returns no references, so the new manifest lists nothing.
    rw [if_pos recent] at written
    obtain ⟨mutations, encoded, resolved, entries, _⟩ :=
      ports.storage.writeRecord_rewrites storage after _ manifest _ none written
    have carried := (ports.storage.resolveBlobMutations_carried _ _ _ _ resolved).2.1
    have empty : after.referencedDigests = [] := by
      rw [listed, entries, forall₂_nil_left_iff.mp carried, map_nil]
    have old : ¬ stored.state.schemaVersion ≤ 4 := by omega
    simp [KeepsBlob, empty, old, eq_nil_iff_forall_not_mem]
  · have old : stored.state.schemaVersion ≤ 4 := by omega
    rw [if_neg recent] at written
    simp only [old, true_or, iff_true]
    intro digest member
    obtain ⟨⟨reference, present, rfl⟩, same⟩ := ports.storage.writeRecord_keeps_blob storage after _ candidate
      manifest _ _ isManifest headers written digest member
    exact ⟨by rw [listed]; exact mem_map_of_mem present, same⟩

/-- A session with one admitted turn, whose checkpoint and input share one blob. -/
def sampleState : SessionAggregateState :=
  match applySessionCommand referenceCodec (initialState sampleInput) (.core (sampleEnqueue "turn" 0)) none with
  | .ok result => result.state
  | .error _ => initialState sampleInput

def sampleRecord : StateRecord StoredSessionState where
  formatVersion := 2
  aggregateKind := "session"
  initializationDigest := 1
  cellName := none
  physicalCellId := none
  state := { sampleState with schemaVersion := 5, publicFields := true }

def sampleHost : SessionHost where
  codec := referenceCodec
  route := none
  encodeRecord _ := some [1]
  decodeRecord _ := some sampleRecord
  lookupBlob _ _ _ := .ok none

def sampleManifest : StateManifest where
  toStateAnchor := sampleRecord.toStateAnchor
  generationDigest := 2
  chunkCount := 1
  encodedBytes := 1
  sessionHistory := none
  referencedBlobs := [⟨2, 1⟩]

def sampleStorage : Storage
  | .manifest => some (.manifest ⟨sampleManifest.toManifestHeader, some sampleManifest.referencedBlobs⟩)
  | .anchor => some (.anchor sampleRecord.toStateAnchor)
  | .chunk _ 0 => some (.bytes [1])
  | .blobChunk _ 0 => some (.bytes [0])
  | _ => none

/-- An accepted read gives the storage that it leaves. -/
theorem exists_read_of_evaluated {State : Type} (host : ChunkedAggregateStorage State) (storage : Storage)
    (holds : StoredStateRecord State → Storage → Bool) (evaluated : (match host.read storage with
      | .ok (some result, after) => holds result after
      | _ => false) = true) :
    ∃ result after, host.read storage = .ok (some result, after) ∧ holds result after = true := by
  split at evaluated
  · next result after ok => exact ⟨result, after, ok, evaluated⟩
  · simp at evaluated

/-- A schema-5 record loses the payload of its active turn. -/
theorem migrating_read_loses_blob :
    ∃ result after, sampleHost.storage.storedRecord sampleStorage = .ok (sampleManifest, sampleRecord) ∧
      sampleHost.storage.read sampleStorage = .ok (some result, after) ∧
      2 ∈ sessionReferencedBlobDigests result.record.state.toSessionAggregateState ∧
      sampleHost.storage.readBlob sampleStorage 2 = .ok (some [0]) ∧
      2 ∉ after.referencedDigests ∧ sampleHost.storage.readBlob after 2 = .ok none := by
  obtain ⟨result, after, accepted, holds⟩ := exists_read_of_evaluated sampleHost.storage sampleStorage
    (fun result after => decide (2 ∈ sessionReferencedBlobDigests result.record.state.toSessionAggregateState ∧
        sampleHost.storage.readBlob sampleStorage 2 = .ok (some [0]) ∧
        2 ∉ after.referencedDigests ∧ sampleHost.storage.readBlob after 2 = .ok none)) (by decide +kernel)
  exact ⟨result, after, by decide +kernel, accepted, of_decide_eq_true holds⟩

/-- The same record shows that the condition is needed. -/
theorem migrating_read_keeps_blobs_iff_sample :
    ∃ result after, sampleHost.storage.read sampleStorage = .ok (some result, after) ∧
      ¬ ∀ digest ∈ sessionReferencedBlobDigests result.record.state.toSessionAggregateState,
        KeepsBlob sampleHost sampleStorage after digest := by
  obtain ⟨result, after, accepted, _⟩ := exists_read_of_evaluated sampleHost.storage sampleStorage
    (fun _ _ => true) (by decide +kernel)
  refine ⟨result, after, accepted, ?_⟩
  rw [migrating_read_keeps_blobs_iff sampleHost sampleStorage after sampleManifest sampleRecord result
    (by decide +kernel) (by decide +kernel) accepted]
  decide +kernel

end Circulusd.Host
