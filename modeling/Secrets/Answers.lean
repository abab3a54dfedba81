import Secrets.Commit
import Secrets.Refinement
import Secrets.TenantCalls

set_option autoImplicit false

namespace Secrets

open Effects Effects.Tx Tables

def Missing (error : StoreError) : Prop := error = .notFound ∨ error = .deleteTargetMissing

theorem unavailable_found : ¬Missing .unavailable := by simp [Missing]

section Refusals
variable (bad : StoreError → Prop) (fine : ¬bad .unavailable)
include fine

theorem bind_text_never (texts : List String) : Never bad (bindText texts) :=
  never_ensure _ _ _ fine

theorem select_never {Value : Type} (texts : List String) (view : World → Value) :
    Never bad (do bindText texts; read view) :=
  never_bind _ _ _ (bind_text_never bad fine texts) fun _ => never_read _ _

theorem audit_never (platform : Platform) (tenant : String) (id : Option Uuid) (actor : String) (action : AuditAction) :
    Never bad (audit platform tenant id actor action) := by
  apply never_bind _ _ _ (bind_text_never bad fine _)
  intro _
  exact never_bind _ _ _ (never_ensure _ _ _ fine) fun _ => never_write _ _

theorem upsert_never (platform : Platform) (row : SecretRow) : Never bad (upsertSecret platform row) := by
  apply never_bind _ _ _ (bind_text_never bad fine _)
  intro _
  apply never_bind _ _ _ (never_ensure _ _ _ fine)
  intro _
  exact never_bind _ _ _ (never_ensure _ _ _ fine) fun _ => never_attempt _ _ _ fine

theorem insert_version_never (row : VersionRow) : Never bad (insertVersion row) :=
  never_bind _ _ _ (bind_text_never bad fine _) fun _ => never_attempt _ _ _ fine

theorem put_tx_never (platform : Platform) (store : PostgresStore) (clock : Clock) (input : PutSecret) (actor : String)
    (accepted : ∀ error, validateRef input.reference = .error error → ¬bad error) :
    Never bad (putTx platform store clock input actor) := by
  intro before error after ran
  rcases (bind_error _ _ _ _ _).mp ran with failed | ⟨_, _, _, ran⟩
  · exact accepted error (congrArg Prod.fst failed)
  rcases (bind_error _ _ _ _ _).mp ran with failed | ⟨existing, _, _, ran⟩
  · exact select_never bad fine _ _ _ _ _ failed
  rcases (bind_error _ _ _ _ _).mp ran with failed | ⟨drawn, _, _, ran⟩
  · cases failed
  rcases (bind_error _ _ _ _ _).mp ran with failed | ⟨envelope, _, _, ran⟩
  · rw [Keyring.encryptValue, seal_envelope_of] at failed
    cases failed
  rcases (bind_error _ _ _ _ _).mp ran with failed | ⟨_, _, upserted, ran⟩
  · exact upsert_never bad fine platform _ _ _ _ failed
  rcases (bind_error _ _ _ _ _).mp ran with failed | ⟨_, _, inserted, ran⟩
  · exact insert_version_never bad fine _ _ _ _ failed
  rcases (bind_error _ _ _ _ _).mp ran with failed | ⟨_, _, logged, ran⟩
  · exact audit_never bad fine platform _ _ _ _ _ _ _ failed
  rcases (bind_error _ _ _ _ _).mp ran with failed | ⟨found, _, selected, ran⟩
  · exact select_never bad fine _ _ _ _ _ failed
  obtain ⟨_, _, secrets, _⟩ := upsert_secret_ok platform _ rfl _ _ _ upserted
  obtain ⟨_, _, _, kept, _⟩ := insert_version_ok _ _ _ _ inserted
  obtain ⟨_, _, rfl⟩ := (audit_ok _ _ _ _ _ _ _ _).mp logged
  obtain ⟨_, there, _⟩ := (select_secret_ok _ _ _ _).mp selected
  rw [auditing, kept, secrets, if_pos rfl] at there
  cases there
  cases ran

theorem delete_tx_never (platform : Platform) (world after : World) (reference : SecretRef) (actor : String) (row : SecretRow)
    (error : StoreError) (found : world.secrets.find reference = some row)
    (ran : deleteTx platform reference actor world = (.error error, after)) : ¬bad error := by
  rcases (bind_error _ _ _ _ _).mp ran with failed | ⟨gone, middle, removed, ran⟩
  · apply never_bind _ _ _ (bind_text_never bad fine _) _ _ _ _ failed
    intro _
    apply never_bind _ _ _ (never_read _ _)
    intro there
    cases there with
    | none => exact never_pure _ _
    | some other => exact never_bind _ _ _ (never_write _ _) fun _ => never_pure _ _
  · simp only [deleteSecret, bind_ok, bind_text_ok, read_run, Prod.mk.injEq, Except.ok.injEq] at removed
    obtain ⟨_, _, ⟨_, rfl⟩, _, _, ⟨rfl, rfl⟩, removed⟩ := removed
    simp only [found, bind_ok, write_run, pure_run, Prod.mk.injEq, Except.ok.injEq] at removed
    obtain ⟨_, _, _, rfl, _⟩ := removed
    exact audit_never bad fine platform _ _ _ _ _ _ _ ran

end Refusals

section Answers
variable (platform : Platform) (store : PostgresStore) (clock : Clock) (world after : World)

theorem validate_found (reference : SecretRef) (error : StoreError) (refused : validateRef reference = .error error) :
    ¬Missing error := by
  unfold validateRef at refused
  dsimp only at refused
  split at refused
  · cases refused
    simp [Missing]
  · split at refused
    · cases refused
      simp [Missing]
    · cases refused

theorem put_tx_found (input : PutSecret) (actor : String) : Never Missing (putTx platform store clock input actor) :=
  put_tx_never Missing unavailable_found platform store clock input actor (validate_found input.reference)

theorem delete_tx_found (reference : SecretRef) (actor : String) (row : SecretRow) (error : StoreError)
    (found : world.secrets.find reference = some row)
    (ran : deleteTx platform reference actor world = (.error error, after)) : ¬Missing error :=
  delete_tx_never Missing unavailable_found platform world after reference actor row error found ran

theorem prepare_found (tenant : String) (transaction : Uuid) (mutations : List Mutation) (actor : String) :
    Never Missing (prepare platform store clock tenant transaction mutations actor) := by
  refine never_bind _ _ _ (never_ensure _ _ _ (by simp [Missing])) fun _ => ?_
  refine never_bind _ _ _ (never_ensure _ _ _ (by simp [Missing])) fun _ => ?_
  refine never_bind _ _ _ (never_lift _ _ ?_) fun _ => ?_
  · intro error failed
    rw [unixSeconds] at failed
    split at failed
    · cases failed
    · cases failed
      exact unavailable_found
  refine never_bind _ _ _ (never_ensure _ _ _ unavailable_found) fun _ => ?_
  refine never_bind _ _ _ (never_lift _ _ ?_) fun _ => ?_
  · intro error failed
    rw [batchPayload] at failed
    split at failed
    · cases failed
      exact unavailable_found
    · cases failed
  refine never_bind _ _ _ (fun _ _ _ ran => by cases ran) fun _ => ?_
  refine never_bind _ _ _ ?_ fun _ => ?_
  · rw [Keyring.sealBatch, seal_envelope_of]
    exact never_lift _ _ fun error failed => by cases failed
  refine never_bind _ _ _ (never_bind _ _ _ (bind_text_never _ unavailable_found _) fun _ => never_write _ _) fun _ => ?_
  refine never_bind _ _ _ (bind_text_never _ unavailable_found _) fun _ => ?_
  refine never_bind _ _ _ (never_ensure _ _ _ unavailable_found) fun _ => ?_
  refine never_bind _ _ _ (never_ensure _ _ _ unavailable_found) fun _ => ?_
  exact never_attempt _ _ _ (by simp [Missing])

theorem clean_of_mem (texts others : List String) (clean : Clean texts) (inside : ∀ text ∈ others, text ∈ texts) : Clean others :=
  List.any_eq_false.mpr fun text member => by simp [clean_mem texts clean text (inside text member)]

-- What the database has to take of a put: its texts and its index entries.
structure PutFits (input : PutSecret) (actor : String) : Prop where
  clean : Clean (input.reference.parts ++ input.ownerSubject :: input.labels.texts)
  cleanKeyId : Clean [store.keyring.active]
  cleanActor : Clean [actor]
  fits : platform.indexFits input.reference.parts = true
  fitsOwner : platform.indexFits [input.reference.tenant, input.ownerSubject] = true
  fitsTenant : platform.indexFits [input.reference.tenant] = true

section Puts
variable (input : PutSecret) (actor : String)

theorem upsert_runs (row : SecretRow) (clean : Clean (row.reference.parts ++ row.ownerSubject :: row.labels.texts))
    (positive : row.currentVersion > 0) (fits : platform.indexFits row.reference.parts = true)
    (fitsOwner : platform.indexFits [row.reference.tenant, row.ownerSubject] = true)
    (freshId : world.secrets.find row.reference = none → ∀ other ∈ world.secrets.rows, other.id ≠ row.id) :
    ∃ reached, upsertSecret platform row world = (.ok (), reached) := by
  have made : ∃ reached, world.upsert row = some reached := by
    unfold World.upsert
    cases found : world.secrets.find row.reference with
    | some old => exact ⟨_, rfl⟩
    | none =>
        have unused : ¬(world.secrets.rows.any fun other => decide (other.id = row.id)) = true := by
          intro taken
          obtain ⟨other, member, same⟩ := List.any_eq_true.mp taken
          exact freshId found other member (of_decide_eq_true same)
        dsimp only
        rw [if_neg unused]
        cases inserted : world.secrets.insert row with
        | some secrets => exact ⟨_, rfl⟩
        | none =>
            obtain ⟨old, there⟩ := (Table.insert_none _ _).mp inserted
            rw [found] at there
            cases there
  obtain ⟨reached, made⟩ := made
  refine ⟨reached, ?_⟩
  simp only [upsertSecret, bind_ok, bind_text_ok, ensure_ok, attempt_ok]
  exact ⟨(), _, ⟨clean, rfl⟩, (), _, ⟨decide_eq_true positive, rfl⟩, (), _, ⟨by simp [fits, fitsOwner], rfl⟩, made⟩

theorem insert_version_runs (row : VersionRow) (clean : Clean [row.envelope.keyId])
    (owner : ∃ secret ∈ world.secrets.rows, secret.id = row.secretId) (free : world.versions.find row.address = none) :
    ∃ reached, insertVersion row world = (.ok (), reached) := by
  have kept : (world.secrets.rows.any fun secret => decide (secret.id = row.secretId)) = true := by
    obtain ⟨secret, member, same⟩ := owner
    exact List.any_eq_true.mpr ⟨secret, member, decide_eq_true same⟩
  cases inserted : world.versions.insert row with
  | none =>
      obtain ⟨old, there⟩ := (Table.insert_none _ _).mp inserted
      rw [free] at there
      cases there
  | some versions =>
      refine ⟨{ world with versions := versions }, ?_⟩
      simp only [insertVersion, bind_ok, bind_text_ok, attempt_ok]
      exact ⟨(), _, ⟨clean, rfl⟩, by simp [World.addVersion, kept, inserted]⟩

theorem put_tx_runs (valid : validateRef input.reference = .ok ()) (room : PutFits platform store input actor)
    (positive : (putPlace platform input world).2 > 0)
    (freshId : world.secrets.find input.reference = none → ∀ other ∈ world.secrets.rows, other.id ≠ (putPlace platform input world).1)
    (freshVersion : world.versions.find (putPlace platform input world) = none) :
    ∃ metadata reached, putTx platform store clock input actor world = (.ok metadata, reached) := by
  obtain ⟨clean, cleanKeyId, cleanActor, fits, fitsOwner, fitsTenant⟩ := room
  have cleanRef : Clean input.reference.parts := clean_of_mem _ _ clean fun text member => by simp [member]
  have cleanLog : Clean [input.reference.tenant, actor] := by
    simp only [Clean, List.any_cons, List.any_nil, Bool.or_false, Bool.or_eq_false_iff] at cleanActor ⊢
    exact ⟨clean_mem _ cleanRef _ (by simp [SecretRef.parts]), cleanActor⟩
  let began : World := { world with drawn := world.drawn + 1 }
  let row : SecretRow := ⟨(putPlace platform input world).1, input.reference, input.ownerSubject, input.disclosure, .active,
    (putPlace platform input world).2, input.labels, clock.transaction, clock.transaction⟩
  obtain ⟨middle, upserted⟩ := upsert_runs platform began row clean positive fits fitsOwner freshId
  obtain ⟨_, _, secrets, _, sameVersions, _⟩ := upsert_secret_ok platform row rfl () began middle upserted
  have mine := secrets input.reference
  rw [if_pos rfl] at mine
  have placed : (row.over (began.secrets.find row.reference)).id = row.id :=
    over_id row _ (platform.random world.drawn) rfl
  obtain ⟨last, inserted⟩ := insert_version_runs middle
    ⟨(putPlace platform input world).1, (putPlace platform input world).2, putEnvelope platform store input world⟩ cleanKeyId
    ⟨_, Table.find_mem _ _ _ mine, placed⟩ (by rw [sameVersions]; exact freshVersion)
  have kept := (insert_version_ok _ _ _ _ inserted).2.2.2.1
  let reached := auditing last input.reference.tenant (some row.id) actor .put
  have logged := (audit_ok platform input.reference.tenant (some row.id) actor .put () last reached).mpr ⟨cleanLog, fitsTenant, rfl⟩
  have there : reached.secrets.find input.reference = some (row.over (began.secrets.find row.reference)) := by
    change last.secrets.find input.reference = _
    rw [kept]
    exact mine
  have shown : metadataTx input.reference reached = (.ok (row.over (began.secrets.find row.reference)).metadata, reached) := by
    rw [metadataTx, bind_of_ok _ _ _ _ _ ((select_secret_ok _ _ _ _).mpr ⟨cleanRef, there, rfl⟩)]
    rfl
  have sealing : crypto (store.keyring.encryptValue (platform.random world.drawn) input.reference (putPlace platform input world).2
      input.disclosure input.value) .crypto began = (.ok (putEnvelope platform store input world), began) :=
    (crypto_ok _ _ _ _ _).mpr ⟨by rw [Keyring.encryptValue, seal_envelope_of]; rfl, rfl⟩
  refine ⟨(row.over (began.secrets.find row.reference)).metadata, reached, ?_⟩
  rw [putTx, bind_of_ok _ _ _ _ _ (show lift (validateRef input.reference) world = (.ok (), world) by rw [lift_run, valid]),
    bind_of_ok _ _ _ _ _ ((select_secret_ok _ _ _ _).mpr ⟨cleanRef, rfl, rfl⟩),
    bind_of_ok _ _ _ _ _ (draw_run platform world)]
  exact (bind_of_ok _ _ _ _ _ sealing).trans ((bind_of_ok _ _ _ _ _ upserted).trans
    ((bind_of_ok _ _ _ _ _ inserted).trans ((bind_of_ok _ _ _ _ _ logged).trans shown)))

end Puts

-- What lets a put of a reference that names no record go through.
structure Insertable (input : PutSecret) (actor : String) : Prop where
  valid : validateRef input.reference = .ok ()
  unknown : world.secrets.find input.reference = none
  fresh : Fresh platform world
  owned : ∀ address version, world.versions.find address = some version →
    ∃ reference row, world.secrets.find reference = some row ∧ row.id = address.1
  clean : Clean (input.reference.parts ++ input.ownerSubject :: input.labels.texts)
  cleanKeyId : Clean [store.keyring.active]
  cleanActor : Clean [actor]
  fits : platform.indexFits input.reference.parts = true
  fitsOwner : platform.indexFits [input.reference.tenant, input.ownerSubject] = true
  fitsTenant : platform.indexFits [input.reference.tenant] = true

theorem put_tx_total (input : PutSecret) (actor : String) (insertable : Insertable platform store world input actor) :
    ∃ metadata reached, putTx platform store clock input actor world = (.ok metadata, reached) := by
  obtain ⟨valid, unknown, fresh, owned, clean, cleanKeyId, cleanActor, fits, fitsOwner, fitsTenant⟩ := insertable
  have place : putPlace platform input world = ((platform.random world.drawn).uuid, 1) := by
    rw [putPlace, unknown]
    rfl
  apply put_tx_runs platform store clock world input actor valid ⟨clean, cleanKeyId, cleanActor, fits, fitsOwner, fitsTenant⟩
  · rw [place]
    exact Int.one_pos
  · intro _ other member
    rw [place]
    exact fresh _ other (Table.find_of_mem _ _ member)
  · -- No record carries the drawn id, so neither does a version.
    rw [place]
    cases there : world.versions.find ((platform.random world.drawn).uuid, 1) with
    | none => rfl
    | some old =>
        obtain ⟨reference, own, found, same⟩ := owned _ old there
        exact absurd same (fresh reference own found)

section Commits
variable (tenant : String) (transaction : Uuid) (batch : Batch) (row : PreparedRow)
  (found : world.prepared.find (tenant, transaction) = some row) (held : BatchHeld platform (tenant, transaction) batch row)
  (live : clock.transaction < row.expiresAt)
include found held live

theorem take_held : takePrepared tenant transaction clock.transaction (world.purged tenant clock.statement) =
    (.ok (some row), claimed clock tenant transaction world) := by
  have cleanTenant : Clean [tenant] := clean_of_mem _ _ held.clean fun text member => by
    rw [List.mem_singleton] at member
    simp [member]
  exact take_prepared_run tenant transaction row clock.transaction _ cleanTenant
    ((purged_held clock world tenant transaction row).mpr ⟨found, live⟩)

theorem commit_tx_opened (bytes : Framing.Bytes) (opened : store.keyring.openBatch tenant transaction row.actor row.envelope = .ok bytes) :
    commitTx platform store clock tenant transaction (world.purged tenant clock.statement) =
      (do forEach (applyMutation platform store clock row.actor) batch.mutations
          audit platform tenant none row.actor .commitBatch
          pure true : Sql Bool) (claimed clock tenant transaction world) := by
  rw [commitTx, bind_of_ok _ _ _ _ _ (take_held platform clock world tenant transaction batch row found held live)]
  have content := open_content _ _ _ _ opened
  rw [held.actor] at content
  obtain ⟨_, rfl⟩ := content_unique _ _ _ _ _ content held.content
  have unexpired : ¬batch.expiresAt * 1000000 ≤ clock.transaction := by
    rw [← held.expiresAt]
    omega
  dsimp only
  rw [bind_of_ok _ _ _ _ _ ((crypto_ok _ _ _ _ _).mpr ⟨opened, rfl⟩), split_expiry_payload _ _ held.fits]
  dsimp only
  rw [if_neg unexpired, platform.codec.readsBack]

theorem commit_tx_held :
    (∃ reached, commitTx platform store clock tenant transaction (world.purged tenant clock.statement) =
      (.error .unavailable, reached)) ∨
    commitTx platform store clock tenant transaction (world.purged tenant clock.statement) =
      (do forEach (applyMutation platform store clock row.actor) batch.mutations
          audit platform tenant none row.actor .commitBatch
          pure true : Sql Bool) (claimed clock tenant transaction world) := by
  cases opened : store.keyring.openBatch tenant transaction row.actor row.envelope with
  | error reason =>
      left
      rw [commitTx, bind_of_ok _ _ _ _ _ (take_held platform clock world tenant transaction batch row found held live)]
      refine ⟨claimed clock tenant transaction world, bind_of_error _ _ _ _ _ ?_⟩
      rw [crypto, lift_run, opened]
      rfl
  | ok bytes => exact .inr (commit_tx_opened platform store clock world tenant transaction batch row found held live bytes opened)

theorem commit_found (error : StoreError)
    (applies : ∀ refused failed, applyAll platform store clock row.actor batch.mutations (claimed clock tenant transaction world) =
      (.error refused, failed) → ¬Missing refused)
    (ran : commit platform store clock tenant transaction world = (.error error, after)) : ¬Missing error := by
  rcases (bind_error _ _ _ _ _).mp ran with failed | ⟨_, _, purged, ran⟩
  · exact never_bind _ _ _ (bind_text_never _ unavailable_found _) (fun _ => never_write _ _) _ _ _ failed
  obtain ⟨_, rfl⟩ := (purge_expired_ok _ _ _ _ _).mp purged
  have taken := commit_tx_held platform store clock world tenant transaction batch row found held live
  rcases (bind_error _ _ _ _ _).mp ran with failed | ⟨stale, _, passed, ran⟩
  · obtain ⟨_, failed, _⟩ := (atomic_error _ _ _ _ _).mp failed
    rcases taken with ⟨_, refused⟩ | whole
    · cases failed.symm.trans refused
      exact unavailable_found
    · rw [whole] at failed
      rcases (bind_error _ _ _ _ _).mp failed with looped | ⟨_, _, _, rest⟩
      · rw [for_each_apply_all] at looped
        exact applies _ _ looped
      · rcases (bind_error _ _ _ _ _).mp rest with logged | ⟨_, _, _, rest⟩
        · exact audit_never _ unavailable_found platform _ _ _ _ _ _ _ logged
        · cases rest
  · obtain ⟨rfl, _, _⟩ := (ensure_error _ _ _ _ _).mp ran
    have finished := (atomic_ok _ _ _ _ _).mp passed
    rcases taken with ⟨_, refused⟩ | whole
    · cases finished.symm.trans refused
    · rw [whole] at finished
      simp only [bind_ok, pure_run, Prod.mk.injEq, Except.ok.injEq, Bool.true_eq_false, false_and, and_false,
        exists_false] at finished

end Commits
end Answers
end Secrets
