import Secrets.Store

set_option autoImplicit false

namespace Secrets

open Effects Effects.Tx Tables
open Framing (Bytes)

def Clean (texts : List String) : Prop := texts.any hasNul = false

instance (texts : List String) : Decidable (Clean texts) := inferInstanceAs (Decidable (texts.any hasNul = false))

theorem clean_mem (texts : List String) (clean : Clean texts) (text : String) (member : text ∈ texts) :
    hasNul text = false := by
  simpa using List.any_eq_false.mp clean text member

theorem bind_text_ok (texts : List String) (done : Unit) (before after : World) :
    bindText texts before = (.ok done, after) ↔ Clean texts ∧ before = after := by
  rw [bindText, ensure_ok, Clean, Bool.not_eq_true']

theorem crypto_ok {Value : Type} (result : Except CryptoError Value) (refused : StoreError) (value : Value)
    (before after : World) :
    crypto result refused before = (.ok value, after) ↔ result = .ok value ∧ before = after := by
  cases result <;> simp [crypto, Except.mapError]

@[simp] theorem draw_run (platform : Platform) (before : World) :
    draw platform before = (.ok (platform.random before.drawn), { before with drawn := before.drawn + 1 }) := rfl

theorem select_secret_ok (reference : SecretRef) (found : Option SecretRow) (before after : World) :
    selectSecret reference before = (.ok found, after) ↔
      Clean reference.parts ∧ before.secrets.find reference = found ∧ before = after := by
  simp only [selectSecret, bind_ok, bind_text_ok, read_run, Prod.mk.injEq, Except.ok.injEq]
  constructor
  · rintro ⟨_, _, ⟨clean, rfl⟩, rfl, rfl⟩
    exact ⟨clean, rfl, rfl⟩
  · rintro ⟨clean, rfl, rfl⟩
    exact ⟨(), _, ⟨clean, rfl⟩, rfl, rfl⟩

section Upsert

-- The row a put leaves, given the row it found.
def SecretRow.over (row : SecretRow) (existing : Option SecretRow) : SecretRow :=
  match existing with
  | none => row
  | some old => { row with id := old.id, createdAt := old.createdAt }

theorem upsert_some (world after : World) (row : SecretRow) (active : row.state = .active)
    (made : world.upsert row = some after) :
    (∀ reference, after.secrets.find reference =
      if row.reference = reference then some (row.over (world.secrets.find row.reference))
      else world.secrets.find reference) ∧
    (world.secrets.find row.reference = none → ∀ other ∈ world.secrets.rows, other.id ≠ row.id) ∧
    after.versions = world.versions ∧ after.prepared = world.prepared ∧ after.auditEvents = world.auditEvents ∧
    after.drawn = world.drawn := by
  unfold World.upsert at made
  cases found : world.secrets.find row.reference with
  | some old =>
      rw [found] at made
      cases made
      refine ⟨?_, by simp, rfl, rfl, rfl, rfl⟩
      intro reference
      rw [Table.find_amend]
      by_cases hit : row.reference = reference
      · subst hit
        rw [if_pos rfl, if_pos rfl, found]
        obtain ⟨id, ref, owner, disclosure, state, version, labels, created, updated⟩ := row
        cases active
        simpa [SecretRow.over] using Table.find_key _ _ _ found
      · rw [if_neg hit, if_neg hit]
  | none =>
      simp only [found] at made
      split at made
      · cases made
      · rename_i unused
        obtain ⟨secrets, inserted, rfl⟩ := Option.map_eq_some_iff.mp made
        refine ⟨fun reference => ?_, fun _ other member => ?_, rfl, rfl, rfl, rfl⟩
        · rw [Table.find_insert _ _ _ _ inserted]
          rfl
        · simpa using List.any_eq_false.mp (Bool.eq_false_iff.mpr unused) other member

end Upsert

theorem upsert_secret_ok (platform : Platform) (row : SecretRow) (active : row.state = .active) (done : Unit)
    (before after : World) (ran : upsertSecret platform row before = (.ok done, after)) :
    Clean (row.reference.parts ++ row.ownerSubject :: row.labels.texts) ∧ row.currentVersion > 0 ∧
    (∀ reference, after.secrets.find reference =
      if row.reference = reference then some (row.over (before.secrets.find row.reference))
      else before.secrets.find reference) ∧
    (before.secrets.find row.reference = none → ∀ other ∈ before.secrets.rows, other.id ≠ row.id) ∧
    after.versions = before.versions ∧ after.prepared = before.prepared ∧ after.auditEvents = before.auditEvents ∧
    after.drawn = before.drawn := by
  simp only [upsertSecret, bind_ok, bind_text_ok, ensure_ok, attempt_ok] at ran
  obtain ⟨_, _, ⟨clean, rfl⟩, _, _, ⟨positive, rfl⟩, _, _, ⟨_, rfl⟩, made⟩ := ran
  exact ⟨clean, of_decide_eq_true positive, upsert_some _ _ _ active made⟩

theorem insert_version_ok (row : VersionRow) (done : Unit) (before after : World)
    (ran : insertVersion row before = (.ok done, after)) :
    Clean [row.envelope.keyId] ∧ before.versions.find row.address = none ∧
    (∀ address, after.versions.find address =
      if row.address = address then some row else before.versions.find address) ∧
    after.secrets = before.secrets ∧ after.prepared = before.prepared ∧ after.auditEvents = before.auditEvents ∧
    after.drawn = before.drawn := by
  simp only [insertVersion, bind_ok, bind_text_ok, attempt_ok] at ran
  obtain ⟨_, _, ⟨clean, rfl⟩, made⟩ := ran
  unfold World.addVersion at made
  split at made
  · obtain ⟨versions, inserted, rfl⟩ := Option.map_eq_some_iff.mp made
    exact ⟨clean, ((Table.insert_some _ _ _).mp inserted).1, fun address => Table.find_insert _ _ _ _ inserted,
      rfl, rfl, rfl, rfl⟩
  · cases made

def auditing (world : World) (tenant : String) (id : Option Uuid) (actor : String) (action : AuditAction) : World :=
  { world with auditEvents := world.auditEvents ++ [⟨tenant, id, actor, action⟩] }

theorem audit_ok (platform : Platform) (tenant : String) (id : Option Uuid) (actor : String) (action : AuditAction)
    (done : Unit) (before after : World) :
    audit platform tenant id actor action before = (.ok done, after) ↔
      Clean [tenant, actor] ∧ platform.indexFits [tenant] = true ∧
        auditing before tenant id actor action = after := by
  simp [audit, bind_ok, bind_text_ok, ensure_ok, auditing]

theorem metadata_tx_ok (reference : SecretRef) (metadata : SecretMetadata) (before after : World)
    (ran : metadataTx reference before = (.ok metadata, after)) :
    ∃ row, before.secrets.find reference = some row ∧ metadata = row.metadata ∧ before = after := by
  simp only [metadataTx, bind_ok, select_secret_ok] at ran
  obtain ⟨found, _, ⟨_, rfl, rfl⟩, rest⟩ := ran
  cases found : before.secrets.find reference with
  | none => simp [found] at rest
  | some row =>
      rw [found] at rest
      simp only [pure_run, Prod.mk.injEq, Except.ok.injEq] at rest
      exact ⟨row, rfl, rest.1.symm, rest.2⟩

section Puts
variable (platform : Platform) (store : PostgresStore) (clock : Clock)

def putPlace (input : PutSecret) (before : World) : Uuid × Int :=
  nextVersion (before.secrets.find input.reference) (platform.random before.drawn)

def putRow (input : PutSecret) (before : World) : SecretRow :=
  SecretRow.over
    { id := (putPlace platform input before).1
      reference := input.reference
      ownerSubject := input.ownerSubject
      disclosure := input.disclosure
      state := .active
      currentVersion := (putPlace platform input before).2
      labels := input.labels
      createdAt := clock.transaction
      updatedAt := clock.transaction } (before.secrets.find input.reference)

def putEnvelope (input : PutSecret) (before : World) : Envelope :=
  store.keyring.envelopeOf (platform.random before.drawn)
    (associatedData input.reference (putPlace platform input before).2 input.disclosure) input.value

-- Everything a successful put changes, and what it found out on the way.
structure PutDone (input : PutSecret) (actor : String) (before after : World) (metadata : SecretMetadata) : Prop where
  valid : validateRef input.reference = .ok ()
  clean : Clean (input.reference.parts ++ input.ownerSubject :: input.labels.texts)
  cleanKeyId : Clean [store.keyring.active]
  cleanActor : Clean [input.reference.tenant, actor]
  fits : platform.indexFits [input.reference.tenant] = true
  positive : (putPlace platform input before).2 > 0
  freshId : before.secrets.find input.reference = none →
    ∀ other ∈ before.secrets.rows, other.id ≠ (putPlace platform input before).1
  freshVersion : before.versions.find (putPlace platform input before) = none
  secrets : ∀ reference, after.secrets.find reference =
    if input.reference = reference then some (putRow platform clock input before) else before.secrets.find reference
  versions : ∀ address, after.versions.find address =
    if putPlace platform input before = address then
      some ⟨(putPlace platform input before).1, (putPlace platform input before).2, putEnvelope platform store input before⟩
    else before.versions.find address
  prepared : after.prepared = before.prepared
  auditEvents : after.auditEvents =
    before.auditEvents ++ [⟨input.reference.tenant, some (putPlace platform input before).1, actor, .put⟩]
  drawn : after.drawn = before.drawn + 1
  metadata : metadata = (putRow platform clock input before).metadata

theorem put_tx_ok (input : PutSecret) (actor : String) (before after : World) (metadata : SecretMetadata)
    (ran : putTx platform store clock input actor before = (.ok metadata, after)) :
    PutDone platform store clock input actor before after metadata := by
  simp only [putTx, bind_ok, lift_run, select_secret_ok, draw_run, crypto_ok, Keyring.encryptValue,
    seal_envelope_of, audit_ok, Prod.mk.injEq, Except.ok.injEq] at ran
  obtain ⟨_, _, ⟨valid, rfl⟩, found, _, ⟨_, rfl, rfl⟩, drawn, _, ⟨rfl, rfl⟩, envelope, _, ⟨rfl, rfl⟩, _, stored, upserted,
    _, versioned, inserted, _, _, ⟨cleanActor, fits, rfl⟩, shown⟩ := ran
  obtain ⟨clean, positive, secrets, freshId, sameVersions, samePrepared, sameAudit, sameDrawn⟩ :=
    upsert_secret_ok platform _ rfl _ _ _ upserted
  obtain ⟨cleanKeyId, freshVersion, versions, keptSecrets, keptPrepared, keptAudit, keptDrawn⟩ :=
    insert_version_ok _ _ _ _ inserted
  obtain ⟨row, shownRow, rfl, rfl⟩ := metadata_tx_ok _ _ _ _ shown
  have current : row = putRow platform clock input before := by
    rw [auditing, keptSecrets, secrets, if_pos rfl] at shownRow
    exact (Option.some.inj shownRow).symm
  rw [sameVersions] at freshVersion versions
  exact {
    valid := valid
    clean := clean
    cleanKeyId := cleanKeyId
    cleanActor := cleanActor
    fits := fits
    positive := positive
    freshId := freshId
    freshVersion := freshVersion
    secrets := by rw [auditing, keptSecrets]; exact secrets
    versions := versions
    prepared := keptPrepared.trans samePrepared
    auditEvents := by rw [auditing, keptAudit, sameAudit]; rfl
    drawn := keptDrawn.trans sameDrawn
    metadata := by rw [current] }

end Puts

section Deletes
variable (platform : Platform)

theorem delete_tx_ok (reference : SecretRef) (actor : String) (done : Unit) (before after : World) :
    deleteTx platform reference actor before = (.ok done, after) ↔
      Clean reference.parts ∧ Clean [reference.tenant, actor] ∧ platform.indexFits [reference.tenant] = true ∧
        ∃ row, before.secrets.find reference = some row ∧
          auditing (before.dropSecret row) reference.tenant (some row.id) actor .delete = after := by
  simp only [deleteTx, deleteSecret, bind_ok, bind_text_ok, read_run, Prod.mk.injEq, Except.ok.injEq]
  constructor
  · rintro ⟨_, _, ⟨_, _, ⟨clean, rfl⟩, found, _, ⟨rfl, rfl⟩, removed⟩, logged⟩
    cases found : before.secrets.find reference with
    | none =>
        simp only [found, pure_run, Prod.mk.injEq, Except.ok.injEq] at removed
        obtain ⟨rfl, rfl⟩ := removed
        cases logged
    | some row =>
        simp only [found, bind_ok, write_run, pure_run, Prod.mk.injEq, Except.ok.injEq] at removed
        obtain ⟨_, _, ⟨_, rfl⟩, rfl, rfl⟩ := removed
        obtain ⟨cleanActor, fits, rfl⟩ := (audit_ok _ _ _ _ _ _ _ _).mp logged
        exact ⟨clean, cleanActor, fits, row, rfl, rfl⟩
  · rintro ⟨clean, cleanActor, fits, row, found, rfl⟩
    refine ⟨some row.id, before.dropSecret row, ⟨(), _, ⟨clean, rfl⟩, some row, _, ⟨found, rfl⟩, rfl⟩, ?_⟩
    exact (audit_ok _ _ _ _ _ _ _ _).mpr ⟨cleanActor, fits, rfl⟩

theorem find_drop_secret (world : World) (row : SecretRow) (reference : SecretRef) :
    (world.dropSecret row).secrets.find reference =
      if row.reference = reference then none else world.secrets.find reference :=
  Table.find_discard_key world.secrets row.reference reference

theorem find_version_drop_secret (world : World) (row : SecretRow) (address : Uuid × Int) :
    (world.dropSecret row).versions.find address = if address.1 = row.id then none else world.versions.find address := by
  rw [World.dropSecret, Table.find_discard]
  cases found : world.versions.find address with
  | none => simp
  | some version =>
      have same := Table.find_key _ _ _ found
      subst same
      by_cases hit : version.secretId = row.id <;> simp [VersionRow.address, hit]

theorem find_revoking (world : World) (reference other : SecretRef) (now : Int) :
    (world.revoking reference now).secrets.find other =
      if reference = other then (world.secrets.find other).map (SecretRow.revokedAt now) else world.secrets.find other :=
  Table.find_amend world.secrets reference other (SecretRow.revokedAt now) fun _ => rfl

theorem revoke_ok (clock : Clock) (reference : SecretRef) (actor : String) (metadata : SecretMetadata)
    (before after : World) (ran : revoke platform clock reference actor before = (.ok metadata, after)) :
    Clean reference.parts ∧ Clean [reference.tenant, actor] ∧
      ∃ row, before.secrets.find reference = some row ∧ metadata = (row.revokedAt clock.transaction).metadata ∧
        after = auditing (before.revoking reference clock.transaction) reference.tenant (some row.id) actor .revoke := by
  rw [revoke, atomic_ok] at ran
  simp only [revokeSecret, bind_ok, bind_text_ok, read_run, Prod.mk.injEq, Except.ok.injEq] at ran
  obtain ⟨_, _, ⟨_, _, ⟨clean, rfl⟩, found, _, ⟨rfl, rfl⟩, changed⟩, rest⟩ := ran
  cases found : before.secrets.find reference with
  | none =>
      simp only [found, pure_run, Prod.mk.injEq, Except.ok.injEq] at changed
      obtain ⟨rfl, rfl⟩ := changed
      cases rest
  | some row =>
      simp only [found, bind_ok, write_run, pure_run, Prod.mk.injEq, Except.ok.injEq] at changed
      obtain ⟨_, _, ⟨_, rfl⟩, rfl, rfl⟩ := changed
      simp only [bind_ok, audit_ok] at rest
      obtain ⟨_, _, ⟨cleanActor, _, rfl⟩, shown⟩ := rest
      obtain ⟨now, shownRow, rfl, rfl⟩ := metadata_tx_ok _ _ _ _ shown
      refine ⟨clean, cleanActor, row, rfl, ?_, rfl⟩
      rw [auditing, find_revoking, if_pos rfl, found] at shownRow
      cases shownRow
      rfl

end Deletes

theorem get_ok (store : PostgresStore) (reference : SecretRef) (stored : StoredSecret) (before after : World)
    (ran : get store reference before = (.ok stored, after)) :
    ∃ row version, before.readable reference = some (row, version) ∧ stored.metadata = row.metadata ∧
      store.keyring.decryptValue reference row.currentVersion row.disclosure version.envelope = .ok stored.value := by
  simp only [get, selectReadable, bind_ok, bind_text_ok, read_run, Prod.mk.injEq, Except.ok.injEq] at ran
  obtain ⟨found, _, ⟨_, _, ⟨_, rfl⟩, rfl, rfl⟩, opened⟩ := ran
  cases readable : before.readable reference with
  | none =>
      rw [readable] at opened
      cases opened
  | some pair =>
      obtain ⟨row, version⟩ := pair
      rw [readable] at opened
      simp only [bind_ok, crypto_ok, pure_run, Prod.mk.injEq, Except.ok.injEq] at opened
      obtain ⟨value, _, ⟨opened, rfl⟩, rfl, _⟩ := opened
      exact ⟨row, version, rfl, rfl, opened⟩

section Lists

theorem mem_matching (world : World) (tenant : String) (owner : Option String) (row : SecretRow) :
    row ∈ world.matching tenant owner ↔
      row ∈ world.secrets.rows ∧ row.reference.tenant = tenant ∧
        ∀ subject, owner = some subject → row.ownerSubject = subject := by
  rw [World.matching, List.mem_filter, Bool.and_eq_true, decide_eq_true_eq]
  cases owner <;> simp

theorem list_ok (tenant : String) (owner : Option String) (rows : List SecretMetadata) (before after : World)
    (ran : list tenant owner before = (.ok rows, after)) :
    after = before ∧ ∀ metadata, metadata ∈ rows ↔ ∃ row ∈ before.matching tenant owner, row.metadata = metadata := by
  simp only [list, selectSecrets, bind_ok, bind_text_ok, read_run, pure_run, Prod.mk.injEq, Except.ok.injEq] at ran
  obtain ⟨_, _, ⟨_, _, ⟨_, rfl⟩, rfl, rfl⟩, rfl, rfl⟩ := ran
  refine ⟨rfl, fun metadata => ?_⟩
  rw [List.mem_map]
  have reordered := List.perm_insertionSort (fun first second : SecretRow => second.updatedAt ≤ first.updatedAt)
    (before.matching tenant owner)
  simp only [reordered.mem_iff]

theorem list_total (tenant : String) (owner : Option String) (world : World) (clean : Clean (tenant :: owner.toList)) :
    ∃ rows, list tenant owner world = (.ok rows, world) := by
  rw [list, selectSecrets, bind_run, bind_of_ok _ _ _ _ _ ((bind_text_ok _ () _ _).mpr ⟨clean, rfl⟩)]
  exact ⟨_, rfl⟩

theorem list_once (tenant : String) (owner : Option String) (rows : List SecretMetadata) (before after : World)
    (ran : list tenant owner before = (.ok rows, after)) : (rows.map SecretMetadata.reference).Nodup := by
  simp only [list, selectSecrets, bind_ok, bind_text_ok, read_run, pure_run, Prod.mk.injEq, Except.ok.injEq] at ran
  obtain ⟨_, _, ⟨_, _, ⟨_, rfl⟩, rfl, rfl⟩, rfl, rfl⟩ := ran
  have reordered := List.perm_insertionSort (fun first second : SecretRow => second.updatedAt ≤ first.updatedAt)
    (before.matching tenant owner)
  rw [List.map_map]
  have keys := reordered.map SecretRow.reference
  exact keys.nodup_iff.mpr ((List.filter_sublist.map SecretRow.reference).nodup before.secrets.unique)

end Lists

theorem atomic_rollback {Value : Type} (body : Sql Value) (before after : World) (error : StoreError)
    (ran : atomic rollback body before = (.error error, after)) : after = rollback before after := by
  obtain ⟨middle, _, rfl⟩ := (atomic_error _ _ _ _ _).mp ran
  rfl

section Batches
variable (platform : Platform) (store : PostgresStore) (clock : Clock)

theorem purge_expired_ok (tenant : String) (done : Unit) (before after : World) :
    purgeExpired clock tenant before = (.ok done, after) ↔
      Clean [tenant] ∧ before.purged tenant clock.statement = after := by
  simp [purgeExpired, deleteExpiredOf, bind_ok, bind_text_ok]

theorem find_purged (world : World) (tenant : String) (now : Int) (address : String × Uuid) :
    (world.purged tenant now).prepared.find address = (world.prepared.find address).filter fun row =>
      !(decide (row.tenant = tenant) && decide (row.expiresAt ≤ now)) :=
  Table.find_discard _ _ _

theorem batch_payload_ok (expiresAt : Int) (mutations : List Mutation) :
    batchPayload platform expiresAt mutations = .ok (toBeBytes expiresAt ++ platform.codec.toWriter mutations) := by
  simp [batchPayload, toBeBytes]

def InI64 (value : Int) : Prop := i64Min ≤ value ∧ value ≤ i64Max

theorem from_be_bytes_to_be_bytes (value : Int) (fits : InI64 value) : fromBeBytes (toBeBytes value) = value := by
  unfold InI64 i64Min i64Max at fits
  have bound : (value % 2 ^ 64).toNat < 256 ^ 8 := by omega
  rw [fromBeBytes, toBeBytes, Framing.of_big_endian_big_endian 8 _ bound]
  unfold i64Max
  split <;> omega

theorem split_expiry_payload (expiresAt : Int) (json : Bytes) (fits : InI64 expiresAt) :
    splitExpiry (toBeBytes expiresAt ++ json) = some (expiresAt, json) := by
  have width : (toBeBytes expiresAt).length = 8 := Framing.big_endian_length _ _
  rw [splitExpiry, if_neg (by simp [width]), List.take_append_of_le_length (by omega), List.take_of_length_le (by omega),
    List.drop_append_of_le_length (by omega), List.drop_of_length_le (by omega), List.nil_append,
    from_be_bytes_to_be_bytes _ fits]

theorem saturating_add_fits (first second : Int) : InI64 (saturatingAdd first second) := by
  unfold InI64 saturatingAdd i64Min i64Max
  omega

def prepareExpiry : Int := saturatingAdd clock.service store.batchLifetime

def preparedRow (tenant : String) (transaction : Uuid) (mutations : List Mutation) (actor : String) (before : World) :
    PreparedRow :=
  { id := transaction
    tenant := tenant
    actor := actor
    envelope := store.keyring.envelopeOf (platform.random before.drawn) (batchAssociatedData tenant transaction actor)
      (toBeBytes (prepareExpiry store clock) ++ platform.codec.toWriter mutations)
    expiresAt := prepareExpiry store clock * 1000000 }

structure PrepareDone (tenant : String) (transaction : Uuid) (mutations : List Mutation) (actor : String)
    (before after : World) : Prop where
  some : mutations ≠ []
  sameTenant : ∀ mutation ∈ mutations, mutation.reference.tenant = tenant
  clean : Clean [tenant, actor, store.keyring.active]
  fits : platform.indexFits [tenant] = true
  free : (before.purged tenant clock.statement).prepared.find (tenant, transaction) = none
  prepared : ∀ address, after.prepared.find address =
    if (tenant, transaction) = address then
      .some (preparedRow platform store clock tenant transaction mutations actor before)
    else (before.purged tenant clock.statement).prepared.find address
  rest : after = { before with prepared := after.prepared, drawn := before.drawn + 1 }

theorem insert_prepared_ok (row : PreparedRow) (done : Unit) (before after : World)
    (ran : insertPrepared platform row before = (.ok done, after)) :
    Clean [row.tenant, row.actor, row.envelope.keyId] ∧ platform.indexFits [row.tenant] = true ∧
      before.prepared.find row.address = none ∧
      (∀ address, after.prepared.find address = if row.address = address then some row else before.prepared.find address) ∧
      after = { before with prepared := after.prepared } := by
  simp only [insertPrepared, bind_ok, bind_text_ok, ensure_ok, attempt_ok] at ran
  obtain ⟨_, _, ⟨clean, rfl⟩, _, _, ⟨_, rfl⟩, _, _, ⟨fits, rfl⟩, made⟩ := ran
  obtain ⟨prepared, inserted, rfl⟩ := Option.map_eq_some_iff.mp made
  exact ⟨clean, fits, ((Table.insert_some _ _ _).mp inserted).1, fun address => Table.find_insert _ _ _ _ inserted, rfl⟩

theorem prepare_ok (tenant : String) (transaction : Uuid) (mutations : List Mutation) (actor : String) (done : Unit)
    (before after : World) (ran : prepare platform store clock tenant transaction mutations actor before = (.ok done, after)) :
    PrepareDone platform store clock tenant transaction mutations actor before after := by
  simp only [prepare, bind_ok, ensure_ok, lift_run, draw_run, crypto_ok, Keyring.sealBatch, seal_envelope_of,
    batch_payload_ok, purge_expired_ok, Prod.mk.injEq, Except.ok.injEq] at ran
  obtain ⟨_, _, ⟨nonempty, rfl⟩, _, _, ⟨sameTenant, rfl⟩, now, _, ⟨service, rfl⟩, _, _, ⟨_, rfl⟩, batch, _, ⟨rfl, rfl⟩,
    drawn, _, ⟨rfl, rfl⟩, envelope, _, ⟨rfl, rfl⟩, _, _, ⟨_, rfl⟩, inserted⟩ := ran
  have clockSame : clock.service = now := by
    unfold unixSeconds at service
    split at service
    · exact Except.ok.inj service
    · cases service
  subst clockSame
  obtain ⟨clean, fits, free, prepared, rest⟩ := insert_prepared_ok platform _ _ _ _ inserted
  exact {
    some := by simpa using nonempty
    sameTenant := by simpa using sameTenant
    clean := clean
    fits := fits
    free := free
    prepared := prepared
    rest := rest }

theorem take_prepared_ok (tenant : String) (transaction : Uuid) (now : Int) (found : Option PreparedRow)
    (before after : World) (ran : takePrepared tenant transaction now before = (.ok found, after)) :
    Clean [tenant] ∧ before.held tenant transaction now = found ∧
      after = if found.isSome then before.dropPrepared tenant transaction else before := by
  simp only [takePrepared, bind_ok, bind_text_ok, read_run, Prod.mk.injEq, Except.ok.injEq] at ran
  obtain ⟨_, _, ⟨clean, rfl⟩, held, _, ⟨rfl, rfl⟩, rest⟩ := ran
  cases held : before.held tenant transaction now with
  | none =>
      simp only [held, pure_run, Prod.mk.injEq, Except.ok.injEq] at rest
      obtain ⟨rfl, rfl⟩ := rest
      exact ⟨clean, rfl, rfl⟩
  | some row =>
      simp only [held, bind_ok, write_run, pure_run, Prod.mk.injEq, Except.ok.injEq] at rest
      obtain ⟨_, _, ⟨_, rfl⟩, rfl, rfl⟩ := rest
      exact ⟨clean, rfl, rfl⟩

theorem held_some (world : World) (tenant : String) (transaction : Uuid) (now : Int) (row : PreparedRow) :
    world.held tenant transaction now = some row ↔
      world.prepared.find (tenant, transaction) = some row ∧ now < row.expiresAt := by
  rw [World.held, Option.filter_eq_some_iff, decide_eq_true_eq]

theorem find_drop_prepared (world : World) (tenant : String) (transaction : Uuid) (address : String × Uuid) :
    (world.dropPrepared tenant transaction).prepared.find address =
      if (tenant, transaction) = address then none else world.prepared.find address :=
  Table.find_discard_key world.prepared (tenant, transaction) address

-- What a batch row is to a store: sealed bytes that open to an expiry and a
-- mutation list.
def BatchOpens (row : PreparedRow) (sealedExpiry : Int) (mutations : List Mutation) : Prop :=
  ∃ batch json, store.keyring.openBatch row.tenant row.id row.actor row.envelope = .ok batch ∧
    splitExpiry batch = some (sealedExpiry, json) ∧ platform.codec.fromSlice json = some mutations

theorem batch_opens_unique (row : PreparedRow) (expiry other : Int) (mutations list : List Mutation)
    (opens : BatchOpens platform store row expiry mutations) (again : BatchOpens platform store row other list) :
    expiry = other ∧ mutations = list := by
  obtain ⟨batch, json, opened, split, decoded⟩ := opens
  obtain ⟨bytes, text, reopened, resplit, redecoded⟩ := again
  cases opened.symm.trans reopened
  cases split.symm.trans resplit
  cases decoded.symm.trans redecoded
  exact ⟨rfl, rfl⟩

def claimed (tenant : String) (transaction : Uuid) (before : World) : World :=
  (before.purged tenant clock.statement).dropPrepared tenant transaction

structure CommitDone (tenant : String) (transaction : Uuid) (before after : World) (row : PreparedRow)
    (sealedExpiry : Int) (mutations : List Mutation) (applied : World) : Prop where
  held : before.prepared.find (tenant, transaction) = some row
  live : clock.transaction < row.expiresAt
  opens : BatchOpens platform store row sealedExpiry mutations
  sealedLive : clock.transaction < sealedExpiry * 1000000
  ran : forEach (applyMutation platform store clock row.actor) mutations (claimed clock tenant transaction before) =
    (.ok (), applied)
  clean : Clean [tenant, row.actor]
  rest : after = auditing applied tenant none row.actor .commitBatch

theorem purged_held (world : World) (tenant : String) (transaction : Uuid) (row : PreparedRow) :
    (world.purged tenant clock.statement).held tenant transaction clock.transaction = some row ↔
      world.prepared.find (tenant, transaction) = some row ∧ clock.transaction < row.expiresAt := by
  rw [held_some, find_purged, Option.filter_eq_some_iff]
  constructor
  · rintro ⟨⟨found, _⟩, live⟩
    exact ⟨found, live⟩
  · rintro ⟨found, live⟩
    have early : ¬ row.expiresAt ≤ clock.statement := by have order := clock.ordered; omega
    exact ⟨⟨found, by simp [early]⟩, live⟩

theorem commit_ok (tenant : String) (transaction : Uuid) (done : Unit) (before after : World)
    (ran : commit platform store clock tenant transaction before = (.ok done, after)) :
    ∃ row sealedExpiry mutations applied,
      CommitDone platform store clock tenant transaction before after row sealedExpiry mutations applied := by
  simp only [commit, bind_ok, purge_expired_ok, ensure_ok, atomic_ok] at ran
  obtain ⟨_, _, ⟨_, rfl⟩, live, _, body, rfl, rfl⟩ := ran
  simp only [commitTx, bind_ok] at body
  obtain ⟨found, _, taken, body⟩ := body
  obtain ⟨_, held, rfl⟩ := take_prepared_ok _ _ _ _ _ _ taken
  cases found with
  | none => cases body
  | some row =>
      simp only [Option.isSome_some, if_true, bind_ok, crypto_ok] at body
      obtain ⟨found, live⟩ := (purged_held clock before tenant transaction row).mp held
      obtain ⟨batch, _, ⟨opened, rfl⟩, body⟩ := body
      have address : row.tenant = tenant ∧ row.id = transaction := by
        simpa [PreparedRow.address] using Table.find_key _ _ _ found
      cases split : splitExpiry batch with
      | none => simp [split] at body
      | some pair =>
          obtain ⟨sealedExpiry, json⟩ := pair
          simp only [split] at body
          split at body
          · simp at body
          · rename_i unexpired
            cases decoded : platform.codec.fromSlice json with
            | none => simp [decoded] at body
            | some mutations =>
                simp only [decoded, bind_ok, audit_ok] at body
                obtain ⟨_, applied, looped, _, _, ⟨clean, _, rfl⟩, finished⟩ := body
                cases finished
                refine ⟨row, sealedExpiry, mutations, applied, ?_⟩
                exact {
                  held := found
                  live := live
                  opens := ⟨batch, json, by rw [address.1, address.2]; exact opened, split, decoded⟩
                  sealedLive := by omega
                  ran := looped
                  clean := clean
                  rest := rfl }

theorem delete_prepared_ok (tenant : String) (transaction : Uuid) (now : Int) (keyIds : List String) (affected : Nat)
    (before after : World) (ran : deletePrepared tenant transaction now keyIds before = (.ok affected, after)) :
    affected = 0 ∧ after = before ∨
      affected = 1 ∧ after = before.dropPrepared tenant transaction ∧
        ∃ row, before.held tenant transaction now = some row ∧ row.envelope.keyId ∈ keyIds := by
  simp only [deletePrepared, bind_ok, bind_text_ok, read_run, Prod.mk.injEq, Except.ok.injEq] at ran
  obtain ⟨_, _, ⟨_, rfl⟩, found, _, ⟨rfl, rfl⟩, removed⟩ := ran
  cases found : (before.held tenant transaction now).filter fun row => decide (row.envelope.keyId ∈ keyIds) with
  | none =>
      simp only [found, pure_run, Prod.mk.injEq, Except.ok.injEq] at removed
      exact .inl ⟨removed.1.symm, removed.2.symm⟩
  | some row =>
      simp only [found, bind_ok, write_run, pure_run, Prod.mk.injEq, Except.ok.injEq] at removed
      obtain ⟨_, _, ⟨_, rfl⟩, counted, rfl⟩ := removed
      obtain ⟨held, known⟩ := Option.filter_eq_some_iff.mp found
      exact .inr ⟨counted.symm, rfl, row, held, of_decide_eq_true known⟩

theorem abort_ok (tenant : String) (transaction : Uuid) (done : Unit) (before after : World)
    (ran : abort store clock tenant transaction before = (.ok done, after)) :
    ∃ row, before.held tenant transaction clock.statement = some row ∧ row.envelope.keyId ∈ store.keyring.keyIds ∧
      after = before.dropPrepared tenant transaction := by
  simp only [abort, bind_ok, ensure_ok, decide_eq_true_eq] at ran
  obtain ⟨affected, _, removed, some, rfl⟩ := ran
  rcases delete_prepared_ok _ _ _ _ _ _ _ removed with ⟨none, _⟩ | ⟨_, rfl, row, held, known⟩
  · exact absurd none some
  · exact ⟨row, held, known, rfl⟩

theorem abort_error (tenant : String) (transaction : Uuid) (before after : World) (error : StoreError)
    (ran : abort store clock tenant transaction before = (.error error, after)) : after = before := by
  rcases (bind_error _ _ _ _ _).mp ran with failed | ⟨affected, middle, removed, refused⟩
  · simp only [deletePrepared, bindText, bind_error, ensure_error, read_run, Prod.mk.injEq, reduceCtorEq, false_and,
      false_or] at failed
    rcases failed with ⟨_, _, rfl⟩ | ⟨_, _, _, found, _, _, failed⟩
    · rfl
    · cases found <;> cases failed
  · obtain ⟨unmatched, _, rfl⟩ := (ensure_error _ _ _ _ _).mp refused
    rcases delete_prepared_ok _ _ _ _ _ _ _ removed with ⟨_, same⟩ | ⟨one, _⟩
    · exact same
    · simp [one] at unmatched

end Batches

section Rewraps
variable (platform : Platform) (store : PostgresStore)

theorem find_set_version (world : World) (id : Uuid) (version : Int) (envelope : Envelope) (address : Uuid × Int) :
    (world.setVersion id version envelope).versions.find address =
      if (id, version) = address then (world.versions.find address).map (VersionRow.holding envelope)
      else world.versions.find address :=
  Table.find_amend world.versions (id, version) address (VersionRow.holding envelope) fun _ => rfl

theorem find_set_prepared (world : World) (tenant : String) (id : Uuid) (envelope : Envelope) (address : String × Uuid) :
    (world.setPrepared tenant id envelope).prepared.find address =
      if (tenant, id) = address then (world.prepared.find address).map (PreparedRow.holding envelope)
      else world.prepared.find address :=
  Table.find_amend world.prepared (tenant, id) address (PreparedRow.holding envelope) fun _ => rfl

def resealedVersion (entry : SecretRow × VersionRow) (value : Bytes) (before : World) : Envelope :=
  store.keyring.envelopeOf (platform.random before.drawn)
    (associatedData entry.1.reference entry.2.version entry.1.disclosure) value

theorem rewrap_row_ok (actor : String) (entry : SecretRow × VersionRow) (done : Unit) (before after : World) :
    rewrapRow platform store actor entry before = (.ok done, after) ↔
      ∃ value, store.keyring.decryptValue entry.1.reference entry.2.version entry.1.disclosure entry.2.envelope = .ok value ∧
        Clean [store.keyring.active] ∧ Clean [entry.1.reference.tenant, actor] ∧
        platform.indexFits [entry.1.reference.tenant] = true ∧
        after = auditing
          ({ before with drawn := before.drawn + 1 }.setVersion entry.1.id entry.2.version
            (resealedVersion platform store entry value before))
          entry.1.reference.tenant (some entry.1.id) actor .rewrap := by
  obtain ⟨secret, version⟩ := entry
  simp only [rewrapRow, bind_ok, crypto_ok, draw_run, Keyring.encryptValue, seal_envelope_of, updateVersion, bind_text_ok,
    write_run, audit_ok, Prod.mk.injEq, Except.ok.injEq]
  constructor
  · rintro ⟨value, _, ⟨opened, rfl⟩, drawn, _, ⟨rfl, rfl⟩, envelope, _, ⟨rfl, rfl⟩, _, _, ⟨_, _, ⟨clean, rfl⟩, _, rfl⟩,
      cleanActor, fits, rfl⟩
    exact ⟨value, opened, clean, cleanActor, fits, rfl⟩
  · rintro ⟨value, opened, clean, cleanActor, fits, rfl⟩
    exact ⟨value, _, ⟨opened, rfl⟩, _, _, ⟨rfl, rfl⟩, _, _, ⟨rfl, rfl⟩, (), _, ⟨(), _, ⟨clean, rfl⟩, trivial, rfl⟩,
      cleanActor, fits, rfl⟩

theorem reseal_row_ok (row : PreparedRow) (done : Unit) (before after : World) :
    resealRow platform store row before = (.ok done, after) ↔
      ∃ batch, store.keyring.openBatch row.tenant row.id row.actor row.envelope = .ok batch ∧
        Clean [row.tenant, store.keyring.active] ∧
        after = { before with drawn := before.drawn + 1 }.setPrepared row.tenant row.id
          (store.keyring.envelopeOf (platform.random before.drawn) (batchAssociatedData row.tenant row.id row.actor)
            batch) := by
  simp only [resealRow, bind_ok, draw_run, crypto_ok, Keyring.resealBatch, updatePrepared, bind_text_ok, write_run,
    Prod.mk.injEq, Except.ok.injEq]
  constructor
  · rintro ⟨drawn, _, ⟨rfl, rfl⟩, envelope, _, ⟨resealed, rfl⟩, _, _, ⟨clean, rfl⟩, _, rfl⟩
    cases opened : store.keyring.openEnvelope (batchAssociatedData row.tenant row.id row.actor) row.envelope with
    | error error => simp [opened] at resealed
    | ok batch =>
        simp only [opened, seal_envelope_of, Except.ok.injEq] at resealed
        subst resealed
        exact ⟨batch, opened, clean, rfl⟩
  · rintro ⟨batch, opened, clean, rfl⟩
    refine ⟨_, _, ⟨rfl, rfl⟩, _, _, ⟨?_, rfl⟩, (), _, ⟨clean, rfl⟩, trivial, rfl⟩
    rw [Keyring.openBatch] at opened
    simp only [opened, seal_envelope_of]

end Rewraps
end Secrets
