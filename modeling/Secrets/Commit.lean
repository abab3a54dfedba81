import Secrets.StoreSpec
import Secrets.Wire

set_option autoImplicit false

namespace Secrets

open Effects Effects.Tx Tables

-- What PostgreSQL guarantees of a row it stores: its texts have no U+0000 and
-- its index entries fitted a page.
structure PreparedRow.Storable (platform : Platform) (row : PreparedRow) : Prop where
  clean : Clean [row.tenant, row.actor]
  fits : platform.indexFits [row.tenant] = true

def World.withPrepared (prepared : Table PreparedRow (String × Uuid) PreparedRow.address) (world : World) : World :=
  { world with prepared := prepared }

section Mutations
variable (platform : Platform) (store : PostgresStore) (clock : Clock) (actor : String)

-- Applying mutations in order, each on the state the one before left.
def applyAll : List Mutation → World → Except StoreError Unit × World
  | [], world => (.ok (), world)
  | .put secret :: rest, world =>
      match putTx platform store clock secret actor world with
      | (.ok _, after) => applyAll rest after
      | (.error error, after) => (.error error, after)
  | .delete reference :: rest, world =>
      match deleteTx platform reference actor world with
      | (.ok _, after) => applyAll rest after
      | (.error .notFound, after) => (.error .deleteTargetMissing, after)
      | (.error error, after) => (.error error, after)

theorem apply_mutation_put (secret : PutSecret) (rest : List Mutation) (world : World) :
    forEach (applyMutation platform store clock actor) (.put secret :: rest) world =
      match putTx platform store clock secret actor world with
      | (.ok _, after) => forEach (applyMutation platform store clock actor) rest after
      | (.error error, after) => (.error error, after) := by
  rw [for_each_cons, applyMutation, bind_run, bind_run]
  cases putTx platform store clock secret actor world with
  | mk outcome after => cases outcome <;> rfl

theorem apply_mutation_delete (reference : SecretRef) (rest : List Mutation) (world : World) :
    forEach (applyMutation platform store clock actor) (.delete reference :: rest) world =
      match deleteTx platform reference actor world with
      | (.ok _, after) => forEach (applyMutation platform store clock actor) rest after
      | (.error error, after) => (.error (deleteTargetMissing error), after) := by
  rw [for_each_cons, applyMutation, bind_run, mapError]
  cases deleteTx platform reference actor world with
  | mk outcome after => cases outcome <;> rfl

theorem for_each_apply_all (mutations : List Mutation) (world : World) :
    forEach (applyMutation platform store clock actor) mutations world = applyAll platform store clock actor mutations world := by
  induction mutations generalizing world with
  | nil => rfl
  | cons mutation rest ih =>
      cases mutation with
      | put secret =>
          rw [apply_mutation_put, applyAll]
          cases putTx platform store clock secret actor world with
          | mk outcome after =>
              cases outcome with
              | ok metadata => exact ih after
              | error error => rfl
      | delete reference =>
          rw [apply_mutation_delete, applyAll]
          cases deleteTx platform reference actor world with
          | mk outcome after =>
              cases outcome with
              | ok done => exact ih after
              | error error => cases error <;> rfl

section Blind
variable (prepared : Table PreparedRow (String × Uuid) PreparedRow.address)

theorem blind_audit (tenant : String) (id : Option Uuid) (action : AuditAction) :
    Commutes (World.withPrepared prepared) (audit platform tenant id actor action) :=
  commutes_bind _ _ _ (commutes_ensure _ _ _) fun _ =>
    commutes_bind _ _ _ (commutes_ensure _ _ _) fun _ => commutes_write _ _ fun _ => rfl

theorem blind_select (reference : SecretRef) : Commutes (World.withPrepared prepared) (selectSecret reference) :=
  commutes_bind _ _ _ (commutes_ensure _ _ _) fun _ => commutes_read _ _ fun _ => rfl

theorem blind_upsert (row : SecretRow) (world : World) :
    (world.withPrepared prepared).upsert row = (world.upsert row).map (World.withPrepared prepared) := by
  unfold World.upsert World.withPrepared
  dsimp only
  cases world.secrets.find row.reference with
  | some old => rfl
  | none =>
      dsimp only
      split
      · rfl
      · cases world.secrets.insert row <;> rfl

theorem blind_add_version (row : VersionRow) (world : World) :
    (world.withPrepared prepared).addVersion row = (world.addVersion row).map (World.withPrepared prepared) := by
  unfold World.addVersion World.withPrepared
  dsimp only
  split
  · cases world.versions.insert row <;> rfl
  · rfl

theorem blind_put (input : PutSecret) :
    Commutes (World.withPrepared prepared) (putTx platform store clock input actor) := by
  refine commutes_bind _ _ _ (commutes_lift _ _) fun _ => ?_
  refine commutes_bind _ _ _ (blind_select _ _) fun _ => ?_
  refine commutes_bind _ _ _ (fun _ => rfl) fun _ => ?_
  refine commutes_bind _ _ _ (commutes_lift _ _) fun _ => ?_
  refine commutes_bind _ _ _ ?_ fun _ => ?_
  · refine commutes_bind _ _ _ (commutes_ensure _ _ _) fun _ => ?_
    refine commutes_bind _ _ _ (commutes_ensure _ _ _) fun _ => ?_
    refine commutes_bind _ _ _ (commutes_ensure _ _ _) fun _ => ?_
    exact commutes_attempt _ _ _ (blind_upsert prepared _)
  refine commutes_bind _ _ _ ?_ fun _ => ?_
  · refine commutes_bind _ _ _ (commutes_ensure _ _ _) fun _ => ?_
    exact commutes_attempt _ _ _ (blind_add_version prepared _)
  refine commutes_bind _ _ _ (blind_audit platform actor prepared _ _ _) fun _ => ?_
  refine commutes_bind _ _ _ (blind_select _ _) fun found => ?_
  cases found with
  | none => exact commutes_fail _ _
  | some row => exact commutes_pure _ _

theorem blind_delete (reference : SecretRef) :
    Commutes (World.withPrepared prepared) (deleteTx platform reference actor) := by
  refine commutes_bind _ _ _ ?_ fun gone => ?_
  · refine commutes_bind _ _ _ (commutes_ensure _ _ _) fun _ => ?_
    refine commutes_bind _ _ _ (commutes_read _ _ fun _ => rfl) fun found => ?_
    cases found with
    | none => exact commutes_pure _ _
    | some row => exact commutes_bind _ _ _ (commutes_write _ _ fun _ => rfl) fun _ => commutes_pure _ _
  · cases gone with
    | none => exact commutes_fail _ _
    | some id => exact blind_audit platform actor prepared _ _ _

theorem blind_mutation (mutation : Mutation) :
    Commutes (World.withPrepared prepared) (applyMutation platform store clock actor mutation) := by
  cases mutation with
  | put secret =>
      exact commutes_bind _ _ _ (blind_put platform store clock actor prepared secret) fun _ => commutes_pure _ _
  | delete reference => exact commutes_map_error _ _ _ (blind_delete platform actor prepared reference)

theorem apply_all_prepared (mutations : List Mutation) (world : World) :
    applyAll platform store clock actor mutations (world.withPrepared prepared) =
      ((applyAll platform store clock actor mutations world).1,
        ((applyAll platform store clock actor mutations world).2).withPrepared prepared) := by
  simp only [← for_each_apply_all]
  exact commutes_for_each _ _ mutations (blind_mutation platform store clock actor prepared) world

end Blind

theorem put_tx_invalid (input : PutSecret) (refused : StoreError) (world : World)
    (invalid : validateRef input.reference = .error refused) :
    putTx platform store clock input actor world = (.error refused, world) := by
  have failed : lift (validateRef input.reference) world = (.error refused, world) := by rw [lift_run, invalid]
  exact bind_of_error _ _ _ _ _ failed

theorem delete_tx_missing (reference : SecretRef) (world : World) (clean : Clean reference.parts)
    (missing : world.secrets.find reference = none) :
    deleteTx platform reference actor world = (.error .notFound, world) := by
  rw [deleteTx, deleteSecret, bind_run, bind_of_ok _ _ _ _ _ ((bind_text_ok _ () _ _).mpr ⟨clean, rfl⟩), bind_run, read_run,
    missing]
  rfl

def FailsWith (error : StoreError) (world : World) : Mutation → Prop
  | .put secret => (putTx platform store clock secret actor world).1 = .error error ∧
      ∀ refused, validateRef secret.reference = .error refused → error = refused
  | .delete reference => (∃ own, (deleteTx platform reference actor world).1 = .error own ∧ error = deleteTargetMissing own) ∧
      (Clean reference.parts → world.secrets.find reference = none → error = .deleteTargetMissing)

theorem put_fails_with (secret : PutSecret) (error : StoreError) (world after : World)
    (ran : putTx platform store clock secret actor world = (.error error, after)) :
    FailsWith platform store clock actor error world (.put secret) := by
  refine ⟨by rw [ran], fun refused invalid => ?_⟩
  rw [put_tx_invalid platform store clock actor secret refused world invalid] at ran
  cases ran
  rfl

theorem delete_fails_with (reference : SecretRef) (own : StoreError) (world after : World)
    (ran : deleteTx platform reference actor world = (.error own, after)) :
    FailsWith platform store clock actor (deleteTargetMissing own) world (.delete reference) := by
  refine ⟨⟨own, by rw [ran], rfl⟩, fun clean missing => ?_⟩
  rw [delete_tx_missing platform actor reference world clean missing] at ran
  cases ran
  rfl

theorem apply_all_fails (mutations : List Mutation) (world failed : World) (error : StoreError)
    (ran : applyAll platform store clock actor mutations world = (.error error, failed)) :
    ∃ done failing rest reached, mutations = done ++ failing :: rest ∧
      applyAll platform store clock actor done world = (.ok (), reached) ∧
      FailsWith platform store clock actor error reached failing := by
  induction mutations generalizing world with
  | nil => cases ran
  | cons mutation rest ih =>
      cases mutation with
      | put secret =>
          cases here : putTx platform store clock secret actor world with
          | mk outcome after =>
              cases outcome with
              | ok metadata =>
                  simp only [applyAll, here] at ran
                  obtain ⟨done, failing, others, reached, rfl, earlier, fails⟩ := ih after ran
                  exact ⟨.put secret :: done, failing, others, reached, rfl, by simp only [applyAll, here, earlier], fails⟩
              | error own =>
                  simp only [applyAll, here, Prod.mk.injEq, Except.error.injEq] at ran
                  obtain ⟨rfl, rfl⟩ := ran
                  exact ⟨[], .put secret, rest, world, rfl, rfl,
                    put_fails_with platform store clock actor secret own world after here⟩
      | delete reference =>
          cases here : deleteTx platform reference actor world with
          | mk outcome after =>
              cases outcome with
              | ok gone =>
                  simp only [applyAll, here] at ran
                  obtain ⟨done, failing, others, reached, rfl, earlier, fails⟩ := ih after ran
                  exact ⟨.delete reference :: done, failing, others, reached, rfl, by simp only [applyAll, here, earlier],
                    fails⟩
              | error own =>
                  have fails := delete_fails_with platform store clock actor reference own world after here
                  have named : deleteTargetMissing own = error := by
                    simp only [applyAll, here] at ran
                    cases own <;> simpa [deleteTargetMissing] using congrArg Prod.fst ran
                  rw [named] at fails
                  exact ⟨[], .delete reference, rest, world, rfl, rfl, fails⟩

end Mutations

section Commits
variable (platform : Platform) (store : PostgresStore) (clock : Clock) (tenant : String) (transaction : Uuid)
  (before : World) (row : PreparedRow) (sealedExpiry : Int) (mutations : List Mutation)

theorem take_prepared_run (now : Int) (world : World) (clean : Clean [tenant])
    (held : world.held tenant transaction now = some row) :
    takePrepared tenant transaction now world = (.ok (some row), world.dropPrepared tenant transaction) := by
  rw [takePrepared, bind_of_ok _ _ _ _ _ ((bind_text_ok _ () _ _).mpr ⟨clean, rfl⟩), bind_run, read_run, held]
  rfl

theorem claimed_with_prepared :
    claimed clock tenant transaction before =
      before.withPrepared (claimed clock tenant transaction before).prepared := rfl

theorem commit_tx_run (held : before.prepared.find (tenant, transaction) = some row)
    (storable : row.Storable platform) (live : clock.transaction < row.expiresAt)
    (opens : BatchOpens platform store row sealedExpiry mutations) (sealedLive : clock.transaction < sealedExpiry * 1000000) :
    commitTx platform store clock tenant transaction (before.purged tenant clock.statement) =
      match applyAll platform store clock row.actor mutations (claimed clock tenant transaction before) with
      | (.ok _, applied) => (.ok true, auditing applied tenant none row.actor .commitBatch)
      | (.error error, failed) => (.error error, failed) := by
  obtain ⟨batch, json, opened, split, decoded⟩ := opens
  have address : row.tenant = tenant ∧ row.id = transaction := by
    simpa [PreparedRow.address] using Table.find_key _ _ _ held
  rw [address.1, address.2] at opened
  have clean := storable.clean
  have fits := storable.fits
  rw [address.1] at clean fits
  have cleanTenant : Clean [tenant] := by
    simpa [Clean] using clean_mem _ clean tenant (by simp)
  have taken := take_prepared_run tenant transaction row clock.transaction (before.purged tenant clock.statement) cleanTenant
    ((purged_held clock before tenant transaction row).mpr ⟨held, live⟩)
  have unexpired : ¬ sealedExpiry * 1000000 ≤ clock.transaction := by omega
  rw [commitTx, bind_of_ok _ _ _ _ _ taken]
  dsimp only
  rw [bind_of_ok _ _ _ _ _ ((crypto_ok _ _ _ _ _).mpr ⟨opened, rfl⟩), split]
  dsimp only
  rw [if_neg unexpired, decoded]
  dsimp only
  rw [bind_run, for_each_apply_all]
  unfold claimed
  cases applyAll platform store clock row.actor mutations
      ((before.purged tenant clock.statement).dropPrepared tenant transaction) with
  | mk outcome after =>
      cases outcome with
      | error error => rfl
      | ok done =>
          dsimp only
          rw [bind_of_ok _ _ _ _ _ ((audit_ok _ _ _ _ _ () _ _).mpr ⟨clean, fits, rfl⟩), pure_run]

/-- A commit is the fold of its mutations, or the first error among them with everything
rolled back. -/
theorem commit_exact (held : before.prepared.find (tenant, transaction) = some row)
    (storable : row.Storable platform) (live : clock.transaction < row.expiresAt)
    (opens : BatchOpens platform store row sealedExpiry mutations) (sealedLive : clock.transaction < sealedExpiry * 1000000) :
    (∀ applied, applyAll platform store clock row.actor mutations before = (.ok (), applied) →
      ∃ after, commit platform store clock tenant transaction before = (.ok (), after) ∧
        after.secrets = applied.secrets ∧ after.versions = applied.versions ∧
        after.auditEvents = applied.auditEvents ++ [⟨tenant, none, row.actor, .commitBatch⟩] ∧
        after.prepared.find (tenant, transaction) = none ∧
        after.prepared = (claimed clock tenant transaction before).prepared) ∧
    (∀ error failed, applyAll platform store clock row.actor mutations before = (.error error, failed) →
      ∃ after, commit platform store clock tenant transaction before = (.error error, after) ∧
        after.secrets = before.secrets ∧ after.versions = before.versions ∧ after.auditEvents = before.auditEvents ∧
        after.prepared.find (tenant, transaction) = some row ∧
        after.prepared = (before.purged tenant clock.statement).prepared ∧
        ∃ done failing rest reached, mutations = done ++ failing :: rest ∧
          applyAll platform store clock row.actor done before = (.ok (), reached) ∧
          FailsWith platform store clock row.actor error reached failing) := by
  have body := commit_tx_run platform store clock tenant transaction before row sealedExpiry mutations held storable live
    opens sealedLive
  have blind := apply_all_prepared platform store clock row.actor (claimed clock tenant transaction before).prepared
    mutations before
  rw [← claimed_with_prepared] at blind
  have cleanTenant : Clean [tenant] := by
    have address : row.tenant = tenant := congrArg Prod.fst (Table.find_key _ _ _ held)
    simpa [Clean, address] using clean_mem _ storable.clean row.tenant (by simp)
  have purge := (purge_expired_ok clock tenant () before _).mpr ⟨cleanTenant, rfl⟩
  constructor
  · intro applied ran
    rw [ran] at blind
    rw [blind] at body
    refine ⟨auditing (applied.withPrepared (claimed clock tenant transaction before).prepared) tenant none row.actor
      .commitBatch, ?_, rfl, rfl, rfl, ?_, rfl⟩
    · rw [commit, bind_of_ok _ _ _ _ _ purge, bind_of_ok _ _ _ _ _ ((atomic_ok _ _ _ _ _).mpr body)]
      rfl
    · exact (find_drop_prepared _ _ _ _).trans (if_pos rfl)
  · intro error failed ran
    rw [ran] at blind
    rw [blind] at body
    have undone := (atomic_error rollback _ _ _ _).mpr ⟨_, body, rfl⟩
    refine ⟨rollback (before.purged tenant clock.statement) failed, ?_, rfl, rfl, rfl, ?_, rfl,
      apply_all_fails platform store clock row.actor mutations before failed error ran⟩
    · rw [commit, bind_of_ok _ _ _ _ _ purge, bind_of_error _ _ _ _ _ undone]
      rfl
    · exact ((held_some _ _ _ _ _).mp ((purged_held clock before tenant transaction row).mpr ⟨held, live⟩)).1

end Commits

namespace Sample

def shortLived : List Mutation := [.put (secret .workloadOnly 1), .delete reference]

def heldRow (mutations : List Mutation) : PreparedRow :=
  preparedRow countingPlatform oldStore (clockAt 1) "t" transaction mutations "user:one" World.empty

def heldWorld (mutations : List Mutation) : World :=
  { World.empty with prepared := ⟨[heldRow mutations], List.nodup_singleton _⟩ }

theorem held_row_opens (mutations : List Mutation) :
    BatchOpens countingPlatform oldStore (heldRow mutations) 601 mutations :=
  ⟨_, _, (open_ok _ _ _ _).mpr ⟨key 201, rfl, envelope_of_sealed _ _ _ _⟩,
    split_expiry_payload _ _ (saturating_add_fits _ _), jsonCodec.readsBack mutations⟩

end Sample

theorem short_lived_commits :
    ∃ after, commit countingPlatform Sample.oldStore (Sample.clockAt 2) "t" Sample.transaction
      (Sample.heldWorld Sample.shortLived) = (.ok (), after) ∧ after.prepared.find ("t", Sample.transaction) = none := by
  have applied : (applyAll countingPlatform Sample.oldStore (Sample.clockAt 2) "user:one" Sample.shortLived
      (Sample.heldWorld Sample.shortLived)).1 = .ok () := rfl
  have exactly := commit_exact countingPlatform Sample.oldStore (Sample.clockAt 2) "t" Sample.transaction
    (Sample.heldWorld Sample.shortLived) (Sample.heldRow Sample.shortLived) 601 Sample.shortLived rfl
    ⟨by decide, by decide⟩ (by decide) (Sample.held_row_opens _) (by decide)
  obtain ⟨after, ran, _, _, _, gone, _⟩ := exactly.1 _ (Prod.ext applied rfl)
  exact ⟨after, ran, gone⟩

end Secrets
