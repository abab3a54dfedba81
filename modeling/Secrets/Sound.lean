import Secrets.Runs

set_option autoImplicit false

namespace Secrets

open Effects Effects.Tx Tables

-- Draws are not given back: who is under a limit now was under it before.
def spending (limit : Nat) : Frame World := Frame.reflecting fun world => world.drawn < limit

section Spending
variable (platform : Platform) (store : PostgresStore) (clock : Clock) (limit : Nat)

theorem spending_write (change : World → World) (kept : ∀ world, (change world).drawn = world.drawn) :
    Within (spending limit) (write change : Sql Unit) :=
  within_write _ _ fun world room => by
    change (change world).drawn < limit at room
    rwa [kept] at room

theorem spending_draw : Within (spending limit) (draw platform) :=
  fun _ room => Nat.lt_of_succ_lt room

theorem spending_audit (tenant : String) (id : Option Uuid) (actor : String) (action : AuditAction) :
    Within (spending limit) (audit platform tenant id actor action) :=
  within_bind _ _ _ (within_ensure _ _ _) fun _ => within_bind _ _ _ (within_ensure _ _ _) fun _ =>
    spending_write limit _ fun _ => rfl

theorem spending_select (reference : SecretRef) : Within (spending limit) (selectSecret reference) :=
  within_bind _ _ _ (within_ensure _ _ _) fun _ => within_read _ _

theorem upsert_drawn (row : SecretRow) (world after : World) (made : world.upsert row = some after) :
    after.drawn = world.drawn := by
  unfold World.upsert at made
  split at made
  · cases made
    rfl
  · split at made
    · cases made
    · obtain ⟨_, _, rfl⟩ := Option.map_eq_some_iff.mp made
      rfl

theorem add_version_drawn (row : VersionRow) (world after : World) (made : world.addVersion row = some after) :
    after.drawn = world.drawn := by
  unfold World.addVersion at made
  split at made
  · obtain ⟨_, _, rfl⟩ := Option.map_eq_some_iff.mp made
    rfl
  · cases made

theorem spending_put (input : PutSecret) (actor : String) : Within (spending limit) (putTx platform store clock input actor) := by
  refine within_bind _ _ _ (within_lift _ _) fun _ => ?_
  refine within_bind _ _ _ (spending_select limit _) fun _ => ?_
  refine within_bind _ _ _ (spending_draw platform limit) fun _ => ?_
  refine within_bind _ _ _ (within_lift _ _) fun _ => ?_
  refine within_bind _ _ _ ?_ fun _ => ?_
  · refine within_bind _ _ _ (within_ensure _ _ _) fun _ => ?_
    refine within_bind _ _ _ (within_ensure _ _ _) fun _ => ?_
    refine within_bind _ _ _ (within_ensure _ _ _) fun _ => ?_
    refine within_attempt _ _ _ fun world after made room => ?_
    change after.drawn < limit at room
    rwa [upsert_drawn _ _ _ made] at room
  refine within_bind _ _ _ ?_ fun _ => ?_
  · refine within_bind _ _ _ (within_ensure _ _ _) fun _ => ?_
    refine within_attempt _ _ _ fun world after made room => ?_
    change after.drawn < limit at room
    rwa [add_version_drawn _ _ _ made] at room
  refine within_bind _ _ _ (spending_audit platform limit _ _ _ _) fun _ => ?_
  refine within_bind _ _ _ (spending_select limit _) fun found => ?_
  cases found with
  | none => exact within_fail _ _
  | some row => exact within_pure _ _

theorem spending_delete (reference : SecretRef) (actor : String) : Within (spending limit) (deleteTx platform reference actor) := by
  refine within_bind _ _ _ ?_ fun gone => ?_
  · refine within_bind _ _ _ (within_ensure _ _ _) fun _ => ?_
    refine within_bind _ _ _ (within_read _ _) fun found => ?_
    cases found with
    | none => exact within_pure _ _
    | some row => exact within_bind _ _ _ (spending_write limit _ fun _ => rfl) fun _ => within_pure _ _
  · cases gone with
    | none => exact within_fail _ _
    | some id => exact spending_audit platform limit _ _ _ _

theorem spending_mutation (actor : String) (mutation : Mutation) :
    Within (spending limit) (applyMutation platform store clock actor mutation) := by
  cases mutation with
  | put secret => exact within_bind _ _ _ (spending_put platform store clock limit secret actor) fun _ => within_pure _ _
  | delete reference => exact within_map_error _ _ _ (spending_delete platform limit reference actor)

theorem spending_atomic {Value : Type} (body : Sql Value) (inner : Within (spending limit) body) :
    Within (spending limit) (atomic rollback body) :=
  within_atomic _ _ _ inner fun _ _ kept => kept

theorem spending_revoke (reference : SecretRef) (actor : String) : Within (spending limit) (revoke platform clock reference actor) := by
  refine spending_atomic limit _ (within_bind _ _ _ ?_ fun changed => ?_)
  · refine within_bind _ _ _ (within_ensure _ _ _) fun _ => ?_
    refine within_bind _ _ _ (within_read _ _) fun found => ?_
    cases found with
    | none => exact within_pure _ _
    | some row => exact within_bind _ _ _ (spending_write limit _ fun _ => rfl) fun _ => within_pure _ _
  · cases changed with
    | none => exact within_fail _ _
    | some id =>
        refine within_bind _ _ _ (spending_audit platform limit _ _ _ _) fun _ => ?_
        refine within_bind _ _ _ (spending_select limit _) fun found => ?_
        cases found with
        | none => exact within_fail _ _
        | some row => exact within_pure _ _

theorem spending_purge (tenant : String) : Within (spending limit) (purgeExpired clock tenant) :=
  within_bind _ _ _ (within_ensure _ _ _) fun _ => spending_write limit _ fun _ => rfl

theorem spending_prepare (tenant : String) (transaction : Uuid) (mutations : List Mutation) (actor : String) :
    Within (spending limit) (prepare platform store clock tenant transaction mutations actor) := by
  refine within_bind _ _ _ (within_ensure _ _ _) fun _ => ?_
  refine within_bind _ _ _ (within_ensure _ _ _) fun _ => ?_
  refine within_bind _ _ _ (within_lift _ _) fun _ => ?_
  refine within_bind _ _ _ (within_ensure _ _ _) fun _ => ?_
  refine within_bind _ _ _ (within_lift _ _) fun _ => ?_
  refine within_bind _ _ _ (spending_draw platform limit) fun _ => ?_
  refine within_bind _ _ _ (within_lift _ _) fun _ => ?_
  refine within_bind _ _ _ (spending_purge clock limit tenant) fun _ => ?_
  refine within_bind _ _ _ (within_ensure _ _ _) fun _ => ?_
  refine within_bind _ _ _ (within_ensure _ _ _) fun _ => ?_
  refine within_bind _ _ _ (within_ensure _ _ _) fun _ => ?_
  refine within_attempt _ _ _ fun world after made room => ?_
  obtain ⟨_, _, rfl⟩ := Option.map_eq_some_iff.mp made
  exact room

theorem spending_commit (tenant : String) (transaction : Uuid) :
    Within (spending limit) (commit platform store clock tenant transaction) := by
  refine within_bind _ _ _ (spending_purge clock limit tenant) fun _ => ?_
  refine within_bind _ _ _ (spending_atomic limit _ ?_) fun live => within_ensure _ _ _
  refine within_bind _ _ _ ?_ fun claimed => ?_
  · refine within_bind _ _ _ (within_ensure _ _ _) fun _ => ?_
    refine within_bind _ _ _ (within_read _ _) fun found => ?_
    cases found with
    | none => exact within_pure _ _
    | some row => exact within_bind _ _ _ (spending_write limit _ fun _ => rfl) fun _ => within_pure _ _
  cases claimed with
  | none => exact within_fail _ _
  | some row =>
      refine within_bind _ _ _ (within_lift _ _) fun batch => ?_
      cases splitExpiry batch with
      | none => exact within_fail _ _
      | some pair =>
          dsimp only
          split
          · exact within_pure _ _
          · cases platform.codec.fromSlice pair.2 with
            | none => exact within_fail _ _
            | some mutations =>
                refine within_bind _ _ _ (within_for_each _ _ _ fun mutation _ =>
                  spending_mutation platform store clock limit row.actor mutation) fun _ => ?_
                exact within_bind _ _ _ (spending_audit platform limit _ _ _ _) fun _ => within_pure _ _

theorem spending_abort (tenant : String) (transaction : Uuid) : Within (spending limit) (abort store clock tenant transaction) := by
  refine within_bind _ _ _ ?_ fun affected => within_ensure _ _ _
  refine within_bind _ _ _ (within_ensure _ _ _) fun _ => ?_
  refine within_bind _ _ _ (within_read _ _) fun found => ?_
  cases found with
  | none => exact within_pure _ _
  | some row => exact within_bind _ _ _ (spending_write limit _ fun _ => rfl) fun _ => within_pure _ _

theorem spending_rewrap_versions (actor : String) : Within (spending limit) (rewrapVersions platform store actor) := by
  refine spending_atomic limit _ (within_bind _ _ _ ?_ fun rows => ?_)
  · exact within_bind _ _ _ (within_ensure _ _ _) fun _ => within_read _ _
  refine within_bind _ _ _ (within_for_each _ _ _ fun entry _ => ?_) fun _ => within_pure _ _
  refine within_bind _ _ _ (within_lift _ _) fun _ => ?_
  refine within_bind _ _ _ (spending_draw platform limit) fun _ => ?_
  refine within_bind _ _ _ (within_lift _ _) fun _ => ?_
  refine within_bind _ _ _ ?_ fun _ => spending_audit platform limit _ _ _ _
  exact within_bind _ _ _ (within_ensure _ _ _) fun _ => spending_write limit _ fun _ => rfl

theorem spending_reseal_batches : Within (spending limit) (resealBatches platform store clock) := by
  refine spending_atomic limit _ (within_bind _ _ _ (spending_write limit _ fun _ => rfl) fun _ => ?_)
  refine within_bind _ _ _ ?_ fun rows => within_for_each _ _ _ fun row _ => ?_
  · exact within_bind _ _ _ (within_ensure _ _ _) fun _ => within_read _ _
  refine within_bind _ _ _ (spending_draw platform limit) fun _ => ?_
  refine within_bind _ _ _ (within_lift _ _) fun _ => ?_
  exact within_bind _ _ _ (within_ensure _ _ _) fun _ => spending_write limit _ fun _ => rfl

theorem spending_rewrap (actor : String) : Within (spending limit) (rewrapAll platform store clock actor) :=
  within_bind _ _ _ (spending_rewrap_versions platform store limit actor) fun _ =>
    within_bind _ _ _ (spending_reseal_batches platform store clock limit) fun _ => within_pure _ _

theorem spending_perform (call : StoreCall) : Within (spending limit) (call.perform platform store clock) := by
  have reading {Value : Type} (body : Sql Value) (reads : Within still body) : Within (spending limit) body := by
    intro world room
    have same : (body world).2 = world := reads world
    rwa [same] at room
  cases call with
  | put input => exact spending_atomic limit _ (spending_put platform store clock limit input _)
  | get reference => exact reading _ (get_still store reference)
  | existsActive reference => exact reading _ (exists_still reference)
  | delete reference actor => exact spending_atomic limit _ (spending_delete platform limit reference actor)
  | revoke reference actor => exact spending_revoke platform clock limit reference actor
  | list tenant owner => exact reading _ (list_still tenant owner)
  | prepare tenant transaction mutations actor => exact spending_prepare platform store clock limit tenant transaction mutations actor
  | commit tenant transaction => exact spending_commit platform store clock limit tenant transaction
  | abort tenant transaction => exact spending_abort store clock limit tenant transaction

theorem spending_operation (operation : Operation) : Within (spending limit) (operation.perform platform store clock) := by
  cases operation with
  | call call => exact spending_perform platform store clock limit call
  | rewrapAll actor => exact spending_rewrap platform store clock limit actor

end Spending

section Ids
variable (platform : Platform) (store : PostgresStore) (clock : Clock) (before after : World)

theorem drawn_grows (operation : Operation) (outcome : Except StoreError operation.Answer)
    (ran : operation.perform platform store clock before = (outcome, after)) : before.drawn ≤ after.drawn := by
  have spent := spending_operation platform store clock before.drawn operation before
  rw [ran] at spent
  by_contra shrunk
  exact Nat.lt_irrefl _ (spent (Nat.lt_of_not_le shrunk))

theorem mutation_grows (actor : String) (mutation : Mutation) (done : Unit)
    (ran : applyMutation platform store clock actor mutation before = (.ok done, after)) : before.drawn ≤ after.drawn := by
  have spent := spending_mutation platform store clock before.drawn actor mutation before
  rw [ran] at spent
  by_contra shrunk
  exact Nat.lt_irrefl _ (spent (Nat.lt_of_not_le shrunk))

def IdsDrawn (world : World) : Prop :=
  ∀ reference row, world.secrets.find reference = some row → ∃ count < world.drawn, row.id = (platform.random count).uuid

theorem ids_drawn_kept (ids : IdsDrawn platform before) (grows : before.drawn ≤ after.drawn)
    (kept : ∀ reference row, after.secrets.find reference = some row →
      ∃ other old, before.secrets.find other = some old ∧ old.id = row.id) : IdsDrawn platform after := by
  intro reference row found
  obtain ⟨other, old, there, same⟩ := kept reference row found
  obtain ⟨count, early, drawn⟩ := ids other old there
  exact ⟨count, Nat.lt_of_lt_of_le early grows, same.symm.trans drawn⟩

theorem ids_drawn_same (ids : IdsDrawn platform before) (grows : before.drawn ≤ after.drawn)
    (same : after.secrets = before.secrets) : IdsDrawn platform after :=
  ids_drawn_kept platform before after ids grows fun reference row found => ⟨reference, row, by rwa [same] at found, rfl⟩

theorem ids_drawn_put (ids : IdsDrawn platform before) (input : PutSecret) (actor : String) (metadata : SecretMetadata)
    (done : PutDone platform store clock input actor before after metadata) : IdsDrawn platform after := by
  have grows : before.drawn ≤ after.drawn := by rw [done.drawn]; exact Nat.le_succ _
  intro reference row found
  rw [done.secrets] at found
  split at found
  · cases found
    unfold putRow SecretRow.over putPlace nextVersion
    cases old : before.secrets.find input.reference with
    | none => exact ⟨before.drawn, by rw [done.drawn]; exact Nat.lt_succ_self _, rfl⟩
    | some row =>
        obtain ⟨count, early, drawn⟩ := ids _ row old
        exact ⟨count, Nat.lt_of_lt_of_le early grows, drawn⟩
  · obtain ⟨count, early, drawn⟩ := ids _ row found
    exact ⟨count, Nat.lt_of_lt_of_le early grows, drawn⟩

theorem ids_drawn_drop (ids : IdsDrawn platform before) (row : SecretRow) : IdsDrawn platform (before.dropSecret row) := by
  refine ids_drawn_kept platform before _ ids (Nat.le_refl _) fun reference kept found => ?_
  rw [find_drop_secret] at found
  split at found
  · cases found
  · exact ⟨reference, kept, found, rfl⟩

theorem ids_drawn_mutation (ids : IdsDrawn platform before) (actor : String) (mutation : Mutation) (done : Unit)
    (ran : applyMutation platform store clock actor mutation before = (.ok done, after)) : IdsDrawn platform after := by
  cases mutation with
  | put secret =>
      simp only [applyMutation, bind_ok, pure_run, Prod.mk.injEq] at ran
      obtain ⟨metadata, _, stored, _, rfl⟩ := ran
      exact ids_drawn_put platform store clock _ _ ids secret actor metadata (put_tx_ok platform store clock secret actor _ _ _ stored)
  | delete reference =>
      rw [applyMutation, map_error_ok, delete_tx_ok] at ran
      obtain ⟨_, _, _, row, _, rfl⟩ := ran
      exact ids_drawn_drop platform before ids row

theorem ids_drawn_mutations (ids : IdsDrawn platform before) (actor : String) (mutations : List Mutation) (done : Unit)
    (ran : forEach (applyMutation platform store clock actor) mutations before = (.ok done, after)) : IdsDrawn platform after :=
  for_each_frame (Frame.preserving (IdsDrawn platform)) _ mutations (fun _ _ => True) before after done
    (fun mutation first last finished _ turn held => ids_drawn_mutation platform store clock first last held actor mutation finished turn)
    (fun _ _ _ _ _ => trivial) (fun _ _ => trivial) ran ids

theorem ids_drawn_operation (ids : IdsDrawn platform before) (operation : Operation) (outcome : Except StoreError operation.Answer)
    (ran : operation.perform platform store clock before = (outcome, after)) : IdsDrawn platform after := by
  have grows := drawn_grows platform store clock before after operation outcome ran
  cases operation with
  | rewrapAll actor =>
      refine ids_drawn_same platform before after ids grows ?_
      have kept := rewrap_all_secrets platform store clock before actor
      rwa [show rewrapAll platform store clock actor before = (outcome, after) from ran] at kept
  | call call =>
      cases call with
      | put input =>
          cases outcome with
          | ok metadata =>
              exact ids_drawn_put platform store clock before after ids input _ metadata
                (put_tx_ok platform store clock input _ _ _ _ ((atomic_ok _ _ _ _ _).mp ran))
          | error error => exact ids_drawn_same platform before after ids grows (by rw [atomic_rollback _ _ _ _ ran]; rfl)
      | get reference =>
          rwa [still_after _ (get_still store reference) before after outcome ran]
      | existsActive reference =>
          rwa [still_after _ (exists_still reference) before after outcome ran]
      | list tenant owner =>
          rwa [still_after _ (list_still tenant owner) before after outcome ran]
      | delete reference actor =>
          cases outcome with
          | ok done =>
              obtain ⟨_, _, _, row, _, rfl⟩ := (delete_tx_ok _ _ _ _ _ _).mp ((atomic_ok _ _ _ _ _).mp ran)
              exact ids_drawn_drop platform before ids row
          | error error => exact ids_drawn_same platform before after ids grows (by rw [atomic_rollback _ _ _ _ ran]; rfl)
      | revoke reference actor =>
          cases outcome with
          | ok metadata =>
              obtain ⟨_, _, row, _, _, rfl⟩ := revoke_ok platform clock reference actor metadata before after ran
              refine ids_drawn_kept platform before _ ids grows fun target kept found => ?_
              obtain ⟨old, there, same, _⟩ := find_revoked_row before reference target clock.transaction kept found
              exact ⟨target, old, there, same.symm⟩
          | error error => exact ids_drawn_same platform before after ids grows (by rw [atomic_rollback _ _ _ _ ran]; rfl)
      | prepare tenant transaction mutations actor =>
          refine ids_drawn_same platform before after ids grows ?_
          cases outcome with
          | ok done => rw [(prepare_ok platform store clock tenant transaction mutations actor done before after ran).rest]
          | error error => exact (prepare_error platform store clock tenant transaction mutations actor before error after ran).secrets
      | commit tenant transaction =>
          cases outcome with
          | ok done =>
              obtain ⟨row, expiry, mutations, applied, done⟩ := commit_ok platform store clock tenant transaction done before after ran
              rw [done.rest]
              have start : IdsDrawn platform (claimed clock tenant transaction before) := ids
              exact ids_drawn_mutations platform store clock _ applied start row.actor mutations () done.ran
          | error error =>
              exact ids_drawn_same platform before after ids grows
                (commit_error platform store clock tenant transaction before error after ran).secrets
      | abort tenant transaction =>
          refine ids_drawn_same platform before after ids grows ?_
          cases outcome with
          | ok done =>
              obtain ⟨_, _, _, rfl⟩ := abort_ok store clock tenant transaction done before after ran
              rfl
          | error error => rw [abort_error store clock tenant transaction before after error ran]

end Ids

def OwnBatches (batches : String × Uuid → Option Batch) : Prop :=
  ∀ address batch, batches address = some batch → ∀ mutation ∈ batch.mutations, mutation.reference.tenant = address.1

-- What holds of every store that calls made.
structure Sound (platform : Platform) (ledger : Ledger) (world : World) : Prop where
  represents : Represents platform ledger world
  batches : OwnBatches ledger.batches
  ids : IdsDrawn platform world

theorem own_batches_step (platform : Platform) (invocation : Invocation) (state : World × Ledger)
    (own : OwnBatches state.2.batches) : OwnBatches (invocation.step platform state).2.batches := by
  obtain ⟨world, ledger⟩ := state
  obtain ⟨store, clock, operation⟩ := invocation
  unfold Invocation.step
  cases ran : operation.perform platform store clock world with
  | mk outcome after =>
      unfold Ledger.after
      dsimp only at own ⊢
      split
      · exact own
      · exact own
      · exact own
      · rename_i tenant transaction mutations actor done
        have prepared := prepare_ok platform store clock tenant transaction mutations actor _ world after ran
        intro address batch known
        dsimp only at known
        unfold Ledger.prepares at known
        by_cases hit : address = (tenant, transaction)
        · subst hit
          rw [Function.update_self] at known
          cases known
          exact prepared.sameTenant
        · rw [Function.update_of_ne hit] at known
          exact own address batch known
      · split <;> exact own
      · exact own

theorem sound_step (platform : Platform) (invocation : Invocation) (state : World × Ledger) (sound : Sound platform state.2 state.1) :
    Sound platform (invocation.step platform state).2 (invocation.step platform state).1 :=
  ⟨represents_step platform invocation state sound.represents, own_batches_step platform invocation state sound.batches,
    ids_drawn_operation platform invocation.store invocation.clock state.1 _ sound.ids invocation.operation _ rfl⟩

theorem sound_from (platform : Platform) (invocations : List Invocation) (state : World × Ledger)
    (sound : Sound platform state.2 state.1) :
    Sound platform (invocations.foldl (Invocation.step platform) state).2 (invocations.foldl (Invocation.step platform) state).1 := by
  induction invocations generalizing state with
  | nil => exact sound
  | cons invocation rest ih => exact ih _ (sound_step platform invocation state sound)

theorem run_sound (platform : Platform) (invocations : List Invocation) :
    Sound platform (runAll platform invocations).2 (runAll platform invocations).1 := by
  refine sound_from platform invocations _ ⟨represents_empty platform, ?_, ?_⟩
  · intro address batch known
    cases known
  · intro reference row found
    cases found

end Secrets
