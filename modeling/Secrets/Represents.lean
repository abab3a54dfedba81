import Secrets.Rewrap

set_option autoImplicit false

namespace Secrets

open Effects Effects.Tx Tables
open Framing (Bytes)

-- The row holds the batch: its columns and its sealed bytes agree on everything.
structure BatchHeld (platform : Platform) (address : String × Uuid) (batch : Batch) (row : PreparedRow) : Prop where
  actor : row.actor = batch.actor
  expiresAt : row.expiresAt = batch.expiresAt * 1000000
  fits : InI64 batch.expiresAt
  content : Content row.envelope (batchAssociatedData address.1 address.2 batch.actor)
    (toBeBytes batch.expiresAt ++ platform.codec.toWriter batch.mutations)
  clean : Clean [address.1, batch.actor]

def BatchesMatch (platform : Platform) (batches : String × Uuid → Option Batch) (world : World) : Prop :=
  ∀ address row, world.prepared.find address = some row →
    ∃ batch, batches address = some batch ∧ BatchHeld platform address batch row

def Fewer (before after : World) : Prop :=
  ∀ address row, after.prepared.find address = some row → before.prepared.find address = some row

theorem fewer_purged (world : World) (tenant : String) (now : Int) : Fewer world (world.purged tenant now) := by
  intro address row found
  rw [find_purged] at found
  exact (Option.filter_eq_some_iff.mp found).1

theorem fewer_drop (world : World) (tenant : String) (transaction : Uuid) :
    Fewer world (world.dropPrepared tenant transaction) := by
  intro address row found
  rw [find_drop_prepared] at found
  split at found
  · cases found
  · exact found

theorem find_purged_all (world : World) (now : Int) (address : String × Uuid) :
    (world.purgedAll now).prepared.find address =
      (world.prepared.find address).filter fun row => !decide (row.expiresAt ≤ now) :=
  Table.find_discard _ _ _

theorem fewer_purged_all (world : World) (now : Int) : Fewer world (world.purgedAll now) := by
  intro address row found
  rw [find_purged_all] at found
  exact (Option.filter_eq_some_iff.mp found).1

theorem batches_match_fewer (platform : Platform) (batches : String × Uuid → Option Batch) (before after : World)
    (fewer : Fewer before after) (matched : BatchesMatch platform batches before) : BatchesMatch platform batches after :=
  fun address row found => matched address row (fewer address row found)

theorem find_purged_elsewhere (world : World) (tenant : String) (now : Int) (address : String × Uuid)
    (elsewhere : address.1 ≠ tenant) : (world.purged tenant now).prepared.find address = world.prepared.find address := by
  rw [find_purged]
  cases found : world.prepared.find address with
  | none => rfl
  | some row =>
      have named : row.tenant = address.1 := congrArg Prod.fst (Table.find_key _ _ _ found)
      rw [Option.filter_some, if_pos (by simp [named, elsewhere])]

theorem find_drop_elsewhere (world : World) (tenant : String) (transaction : Uuid) (address : String × Uuid)
    (elsewhere : address.1 ≠ tenant) : (world.dropPrepared tenant transaction).prepared.find address = world.prepared.find address := by
  rw [find_drop_prepared, if_neg]
  rintro rfl
  exact elsewhere rfl

structure Unapplied (tenant : String) (before after : World) : Prop where
  secrets : after.secrets = before.secrets
  versions : after.versions = before.versions
  auditEvents : after.auditEvents = before.auditEvents
  fewer : Fewer before after
  others : ∀ address : String × Uuid, address.1 ≠ tenant → after.prepared.find address = before.prepared.find address

theorem unapplied_refl (tenant : String) (world : World) : Unapplied tenant world world :=
  ⟨rfl, rfl, rfl, fun _ _ found => found, fun _ _ => rfl⟩

theorem unapplied_trans (tenant : String) (first middle last : World) (start : Unapplied tenant first middle)
    (finish : Unapplied tenant middle last) : Unapplied tenant first last :=
  ⟨finish.secrets.trans start.secrets, finish.versions.trans start.versions, finish.auditEvents.trans start.auditEvents,
    fun address row found => start.fewer address row (finish.fewer address row found),
    fun address elsewhere => (finish.others address elsewhere).trans (start.others address elsewhere)⟩

def unapplying (tenant : String) : Frame World := ⟨Unapplied tenant, unapplied_refl tenant, unapplied_trans tenant⟩

theorem unapplied_rollback (tenant : String) (before after : World) : Unapplied tenant before (rollback before after) :=
  ⟨rfl, rfl, rfl, fun _ _ found => found, fun _ _ => rfl⟩

theorem unapplied_drop (tenant : String) (transaction : Uuid) (world : World) :
    Unapplied tenant world (world.dropPrepared tenant transaction) :=
  ⟨rfl, rfl, rfl, fewer_drop _ _ _, find_drop_elsewhere _ _ _⟩

theorem unapplied_purge (clock : Clock) (tenant : String) : Within (unapplying tenant) (purgeExpired clock tenant) := by
  refine within_bind _ _ _ (within_ensure _ _ _) fun _ => within_write _ _ fun world => ?_
  exact ⟨rfl, rfl, rfl, fewer_purged world tenant clock.statement, find_purged_elsewhere world tenant _⟩

section Batches
variable (platform : Platform) (store : PostgresStore) (clock : Clock)

theorem unapplied_draw (tenant : String) : Within (unapplying tenant) (draw platform) := by
  intro world
  exact ⟨rfl, rfl, rfl, fun _ _ found => found, fun _ _ => rfl⟩

theorem prepare_error (tenant : String) (transaction : Uuid) (mutations : List Mutation) (actor : String) :
    WithinError (unapplying tenant) (prepare platform store clock tenant transaction mutations actor) := by
  refine within_error_bind _ _ _ (within_ensure _ _ _) fun _ => ?_
  refine within_error_bind _ _ _ (within_ensure _ _ _) fun _ => ?_
  refine within_error_bind _ _ _ (within_lift _ _) fun _ => ?_
  refine within_error_bind _ _ _ (within_ensure _ _ _) fun _ => ?_
  refine within_error_bind _ _ _ (within_lift _ _) fun _ => ?_
  refine within_error_bind _ _ _ (unapplied_draw platform tenant) fun _ => ?_
  refine within_error_bind _ _ _ (within_lift _ _) fun _ => ?_
  refine within_error_bind _ _ _ (unapplied_purge clock tenant) fun _ => ?_
  refine within_error_bind _ _ _ (within_ensure _ _ _) fun _ => ?_
  refine within_error_bind _ _ _ (within_ensure _ _ _) fun _ => ?_
  refine within_error_bind _ _ _ (within_ensure _ _ _) fun _ => ?_
  exact within_error_attempt _ _ _

theorem prepared_row_held (before after : World) (tenant : String) (transaction : Uuid) (mutations : List Mutation)
    (actor : String) (done : PrepareDone platform store clock tenant transaction mutations actor before after) :
    BatchHeld platform (tenant, transaction) ⟨mutations, actor, prepareExpiry store clock⟩
      (preparedRow platform store clock tenant transaction mutations actor before) := by
  refine ⟨rfl, rfl, saturating_add_fits _ _, ⟨_, envelope_of_sealed _ _ _ _⟩, ?_⟩
  have clean := done.clean
  simp only [Clean, List.any_cons, List.any_nil, Bool.or_false, Bool.or_eq_false_iff] at clean ⊢
  exact ⟨clean.1, clean.2.1⟩

theorem batches_match_prepare (batches : String × Uuid → Option Batch) (before after : World) (tenant : String)
    (transaction : Uuid) (mutations : List Mutation) (actor : String) (matched : BatchesMatch platform batches before)
    (done : PrepareDone platform store clock tenant transaction mutations actor before after) :
    BatchesMatch platform
      (Ledger.prepares batches (tenant, transaction) ⟨mutations, actor, prepareExpiry store clock⟩) after := by
  unfold Ledger.prepares
  intro address row found
  rw [done.prepared] at found
  by_cases hit : (tenant, transaction) = address
  · subst hit
    rw [if_pos rfl, Option.some.injEq] at found
    subst found
    exact ⟨_, Function.update_self _ _ _,
      prepared_row_held platform store clock before after tenant transaction mutations actor done⟩
  · rw [if_neg hit] at found
    rw [Function.update_of_ne (Ne.symm hit)]
    exact matched address row (fewer_purged _ _ _ address row found)

theorem batch_held_opens (address : String × Uuid) (batch : Batch) (row : PreparedRow) (expiry : Int)
    (mutations : List Mutation) (located : row.address = address) (held : BatchHeld platform address batch row)
    (opens : BatchOpens platform store row expiry mutations) : expiry = batch.expiresAt ∧ mutations = batch.mutations := by
  obtain ⟨bytes, json, opened, split, decoded⟩ := opens
  subst located
  have content := open_content _ _ _ _ opened
  rw [held.actor] at content
  obtain ⟨_, rfl⟩ := content_unique _ _ _ _ _ content held.content
  rw [split_expiry_payload _ _ held.fits] at split
  cases split
  rw [platform.codec.readsBack] at decoded
  cases decoded
  exact ⟨rfl, rfl⟩

theorem commit_tx_expired (tenant : String) (transaction : Uuid) (before after : World)
    (ran : commitTx platform store clock tenant transaction before = (.ok false, after)) :
    after = before.dropPrepared tenant transaction := by
  simp only [commitTx, bind_ok] at ran
  obtain ⟨found, _, taken, body⟩ := ran
  obtain ⟨_, _, rfl⟩ := take_prepared_ok _ _ _ _ _ _ taken
  cases found with
  | none => cases body
  | some row =>
      simp only [Option.isSome_some, if_true, bind_ok, crypto_ok] at body
      obtain ⟨batch, _, ⟨_, rfl⟩, body⟩ := body
      cases split : splitExpiry batch with
      | none => simp [split] at body
      | some pair =>
          simp only [split] at body
          split at body
          · simpa using body.symm
          · cases decoded : platform.codec.fromSlice pair.2 with
            | none => simp [decoded] at body
            | some mutations =>
                simp only [decoded, bind_ok, pure_run, Prod.mk.injEq, Except.ok.injEq, Bool.true_eq_false, false_and,
                  and_false, exists_false] at body

theorem commit_error (tenant : String) (transaction : Uuid) :
    WithinError (unapplying tenant) (commit platform store clock tenant transaction) := by
  refine within_error_bind _ _ _ (unapplied_purge clock tenant) fun _ => ?_
  intro before error after ran
  rcases (bind_error _ _ _ _ _).mp ran with failed | ⟨live, middle, passed, refused⟩
  · rw [atomic_rollback _ _ _ _ failed]
    exact unapplied_rollback _ _ _
  · obtain ⟨stale, _, rfl⟩ := (ensure_error _ _ _ _ _).mp refused
    subst stale
    rw [commit_tx_expired platform store clock tenant transaction _ _ ((atomic_ok _ _ _ _ _).mp passed)]
    exact unapplied_drop _ _ _

def SameBatch (first second : PreparedRow) : Prop :=
  second = first.holding second.envelope ∧ SameContent first.envelope second.envelope

theorem same_batch_refl (row : PreparedRow) : SameBatch row row := ⟨rfl, same_content_refl _⟩

theorem same_batch_trans (first middle last : PreparedRow) (start : SameBatch first middle)
    (finish : SameBatch middle last) : SameBatch first last := by
  refine ⟨?_, same_content_trans _ _ _ start.2 finish.2⟩
  rw [finish.1, start.1]
  rfl

structure Resealed (before after : World) : Prop where
  secrets : after.secrets = before.secrets
  versions : after.versions = before.versions
  prepared : Table.Aligned SameBatch before.prepared after.prepared

theorem resealed_refl (world : World) : Resealed world world :=
  ⟨rfl, rfl, Table.aligned_refl SameBatch same_batch_refl _⟩

theorem resealed_trans (first middle last : World) (start : Resealed first middle) (finish : Resealed middle last) :
    Resealed first last :=
  ⟨finish.secrets.trans start.secrets, finish.versions.trans start.versions,
    Table.aligned_trans SameBatch same_batch_trans _ _ _ start.prepared finish.prepared⟩

def resealing : Frame World := ⟨Resealed, resealed_refl, resealed_trans⟩

theorem batches_match_resealed (batches : String × Uuid → Option Batch) (before after : World)
    (resealed : Resealed before after) (matched : BatchesMatch platform batches before) :
    BatchesMatch platform batches after := by
  intro address row found
  obtain ⟨old, there, columns, same⟩ := Table.aligned_back _ _ _ resealed.prepared _ _ found
  obtain ⟨batch, known, held⟩ := matched address old there
  refine ⟨batch, known, ?_, ?_, held.fits, (same _ _).mp held.content, held.clean⟩
  · rw [columns]
    exact held.actor
  · rw [columns]
    exact held.expiresAt

def BatchSnapshot (row : PreparedRow) (world : World) : Prop :=
  ∃ stored, world.prepared.find (row.tenant, row.id) = some stored ∧ SameBatch row stored

theorem batch_snapshot_resealed (row : PreparedRow) (before after : World) (snapshot : BatchSnapshot row before)
    (resealed : Resealed before after) : BatchSnapshot row after := by
  obtain ⟨stored, there, same⟩ := snapshot
  obtain ⟨newer, renewed, kept⟩ := Table.aligned_some _ _ _ resealed.prepared _ _ there
  exact ⟨newer, renewed, same_batch_trans _ _ _ same kept⟩

theorem mem_stale_batches (world : World) (active : String) (now : Int) (row : PreparedRow) :
    row ∈ world.staleBatches active now ↔
      row ∈ world.prepared.rows ∧ row.envelope.keyId ≠ active ∧ now < row.expiresAt := by
  rw [World.staleBatches, List.mem_filter, Bool.and_eq_true, decide_eq_true_eq, decide_eq_true_eq]

theorem stale_batch_snapshots (world : World) (active : String) (now : Int) :
    ∀ row ∈ world.staleBatches active now, BatchSnapshot row world := by
  intro row member
  have there := ((mem_stale_batches world active now row).mp member).1
  exact ⟨row, Table.find_of_mem _ _ there, same_batch_refl row⟩

theorem reseal_row_keeps (row : PreparedRow) (before after : World) (done : Unit) (snapshot : BatchSnapshot row before)
    (ran : resealRow platform store row before = (.ok done, after)) : Resealed before after := by
  obtain ⟨bytes, opened, _, rfl⟩ := (reseal_row_ok platform store row done before after).mp ran
  refine ⟨rfl, rfl, Table.aligned_amend SameBatch same_batch_refl before.prepared _ (PreparedRow.holding _)
    (fun _ => rfl) ?_⟩
  intro stored found
  obtain ⟨known, there, same⟩ := snapshot
  cases found.symm.trans there
  refine ⟨rfl, fun aad plaintext => ?_⟩
  rw [← same.2 aad plaintext]
  exact reseal_content store.keyring _ _ _ _ opened store.keyring aad plaintext

theorem reseal_row_find (row : PreparedRow) (before after : World) (done : Unit)
    (ran : resealRow platform store row before = (.ok done, after)) (address : String × Uuid) (stored : PreparedRow)
    (found : after.prepared.find address = some stored) :
    FreshlySealed store.keyring stored.envelope ∨ before.prepared.find address = some stored ∧ row.address ≠ address := by
  obtain ⟨bytes, _, _, rfl⟩ := (reseal_row_ok platform store row done before after).mp ran
  rw [find_set_prepared] at found
  by_cases hit : (row.tenant, row.id) = address
  · rw [if_pos hit] at found
    obtain ⟨old, _, rfl⟩ := Option.map_eq_some_iff.mp found
    exact .inl (envelope_of_fresh _ _ _ _)
  · rw [if_neg hit] at found
    exact .inr ⟨found, hit⟩

theorem reseal_batches_ok (before after : World) (done : Unit)
    (ran : resealBatches platform store clock before = (.ok done, after)) :
    forEach (resealRow platform store)
      ((before.purgedAll clock.transaction).staleBatches store.keyring.active clock.transaction)
      (before.purgedAll clock.transaction) = (.ok (), after) := by
  rw [resealBatches, atomic_ok] at ran
  simp only [deleteExpired, selectStaleBatches, bind_ok, bind_text_ok, read_run, write_run, Prod.mk.injEq,
    Except.ok.injEq] at ran
  obtain ⟨_, _, ⟨_, rfl⟩, rows, _, ⟨_, _, ⟨_, rfl⟩, rfl, rfl⟩, looped⟩ := ran
  exact looped

theorem reseal_batches_keep (before after : World) (done : Unit)
    (ran : resealBatches platform store clock before = (.ok done, after)) :
    Resealed (before.purgedAll clock.transaction) after :=
  for_each_frame resealing _ _ BatchSnapshot _ _ _
    (fun row first last finished ready turn => reseal_row_keeps platform store row first last finished ready turn)
    batch_snapshot_resealed (stale_batch_snapshots _ _ _) (reseal_batches_ok platform store clock before after done ran)

theorem rewrap_all_secrets (before : World) (actor : String) :
    (rewrapAll platform store clock actor before).2.secrets = before.secrets := by
  have rewrapped := (rewrap_versions_keep platform store actor before).secrets
  rw [rewrapAll, bind_run]
  cases first : rewrapVersions platform store actor before with
  | mk outcome middle =>
      rw [first] at rewrapped
      cases outcome with
      | error error => exact rewrapped
      | ok count =>
          refine Eq.trans ?_ rewrapped
          change ((resealBatches platform store clock >>= fun _ => pure count) middle).2.secrets = middle.secrets
          rw [bind_run]
          cases second : resealBatches platform store clock middle with
          | mk outcome last =>
              cases outcome with
              | ok done => exact (reseal_batches_keep platform store clock middle last done second).secrets
              | error error => rw [atomic_rollback _ _ _ _ second]; rfl

end Batches
end Secrets
