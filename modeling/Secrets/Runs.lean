import Secrets.Represents

set_option autoImplicit false

namespace Secrets

open Effects Effects.Tx Tables

-- Everything that is done to a store: the trait's calls, and the rotation
-- command that runs beside the service.
inductive Operation where
  | call (call : StoreCall)
  | rewrapAll (actor : String)

namespace Operation

abbrev Answer : Operation → Type
  | .call method => method.Answer
  | .rewrapAll _ => Nat

def perform (platform : Platform) (store : PostgresStore) (clock : Clock) :
    (operation : Operation) → Sql operation.Answer
  | .call method => method.perform platform store clock
  | .rewrapAll actor => Secrets.rewrapAll platform store clock actor

end Operation

structure Invocation where
  store : PostgresStore
  clock : Clock
  operation : Operation

def Ledger.after (ledger : Ledger) (store : PostgresStore) (clock : Clock) :
    (operation : Operation) → Except StoreError operation.Answer → Ledger
  | .call (.put input), .ok _ => { ledger with records := Ledger.puts ledger.records input }
  | .call (.delete reference _), .ok _ => { ledger with records := Ledger.deletes ledger.records reference }
  | .call (.revoke reference _), .ok _ => { ledger with records := Ledger.revokes ledger.records reference }
  | .call (.prepare tenant transaction mutations actor), .ok _ =>
      let batch : Batch := ⟨mutations, actor, prepareExpiry store clock⟩
      { ledger with batches := Ledger.prepares ledger.batches (tenant, transaction) batch }
  | .call (.commit tenant transaction), .ok _ =>
      match ledger.batches (tenant, transaction) with
      | none => ledger
      | some batch => { ledger with records := batch.mutations.foldl Ledger.mutates ledger.records }
  | _, _ => ledger

def Invocation.step (platform : Platform) (state : World × Ledger) (invocation : Invocation) : World × Ledger :=
  let ran := invocation.operation.perform platform invocation.store invocation.clock state.1
  (ran.2, state.2.after invocation.store invocation.clock invocation.operation ran.1)

def runAll (platform : Platform) (invocations : List Invocation) : World × Ledger :=
  invocations.foldl (Invocation.step platform) (World.empty, Ledger.empty)

structure Represents (platform : Platform) (ledger : Ledger) (world : World) : Prop where
  records : RecordsMatch platform ledger.records world
  batches : BatchesMatch platform ledger.batches world

theorem represents_empty (platform : Platform) : Represents platform Ledger.empty World.empty := by
  constructor
  · constructor
    · exact fun _ _ => rfl
    · intro reference record known
      cases known
    · intro address version found
      cases found
    · intro first row second other found
      cases found
    · intro reference row found
      cases found
  · intro address row found
    cases found

def still : Frame World := Frame.keeping id

theorem still_after {Value : Type} (body : Sql Value) (reads : Within still body) (before after : World)
    (outcome : Except StoreError Value) (ran : body before = (outcome, after)) : after = before := by
  have kept := reads before
  rw [ran] at kept
  exact kept

theorem still_select {Value : Type} (texts : List String) (view : World → Value) :
    Within still (do bindText texts; read view) :=
  within_bind _ _ _ (within_ensure _ _ _) fun _ => within_read _ _

theorem get_still (store : PostgresStore) (reference : SecretRef) : Within still (get store reference) := by
  refine within_bind _ _ _ (still_select _ _) fun found => ?_
  cases found with
  | none => exact within_fail _ _
  | some pair => exact within_bind _ _ _ (within_lift _ _) fun _ => within_pure _ _

theorem exists_still (reference : SecretRef) : Within still (existsActive reference) := still_select _ _

theorem list_still (tenant : String) (owner : Option String) : Within still (list tenant owner) :=
  within_bind _ _ _ (still_select _ _) fun _ => within_pure _ _

section Steps
variable (platform : Platform) (store : PostgresStore) (clock : Clock) (ledger : Ledger) (before after : World)

theorem represents_unapplied (tenant : String) (unapplied : Unapplied tenant before after) (represents : Represents platform ledger before) :
    Represents platform ledger after :=
  ⟨records_match_same _ _ _ _ unapplied.secrets unapplied.versions represents.records,
    batches_match_fewer _ _ _ _ unapplied.fewer represents.batches⟩

theorem represents_rollback (represents : Represents platform ledger before) :
    Represents platform ledger (rollback before after) :=
  ⟨records_match_same _ _ before _ rfl rfl represents.records,
    batches_match_fewer _ _ before _ (fun _ _ found => found) represents.batches⟩

theorem batches_match_same (same : after.prepared = before.prepared)
    (matched : BatchesMatch platform ledger.batches before) : BatchesMatch platform ledger.batches after :=
  batches_match_fewer _ _ _ _ (fun address row found => by rwa [same] at found) matched

theorem represents_put (input : PutSecret) (metadata : SecretMetadata) (represents : Represents platform ledger before)
    (ran : put platform store clock input before = (.ok metadata, after)) :
    Represents platform { ledger with records := Ledger.puts ledger.records input } after := by
  rw [put, atomic_ok] at ran
  have done := put_tx_ok platform store clock input _ before after metadata ran
  exact ⟨records_match_put platform _ before after store clock represents.records input _ metadata done,
    batches_match_same platform ledger before after done.prepared represents.batches⟩

theorem represents_delete (reference : SecretRef) (actor : String) (finished : Unit)
    (represents : Represents platform ledger before)
    (ran : delete platform reference actor before = (.ok finished, after)) :
    Represents platform { ledger with records := Ledger.deletes ledger.records reference } after := by
  rw [delete, atomic_ok, delete_tx_ok] at ran
  obtain ⟨_, _, _, row, found, rfl⟩ := ran
  exact ⟨records_match_same _ _ (before.dropSecret row) _ rfl rfl
      (records_match_drop platform _ before represents.records reference row found), represents.batches⟩

theorem represents_revoke (reference : SecretRef) (actor : String) (metadata : SecretMetadata)
    (represents : Represents platform ledger before)
    (ran : revoke platform clock reference actor before = (.ok metadata, after)) :
    Represents platform { ledger with records := Ledger.revokes ledger.records reference } after := by
  obtain ⟨_, _, row, found, _, rfl⟩ := revoke_ok platform clock reference actor metadata before after ran
  exact ⟨records_match_same _ _ (before.revoking reference clock.transaction) _ rfl rfl
      (records_match_revoke platform _ before represents.records reference clock.transaction), represents.batches⟩

theorem represents_prepare (tenant : String) (transaction : Uuid) (mutations : List Mutation) (actor : String)
    (finished : Unit) (represents : Represents platform ledger before)
    (ran : prepare platform store clock tenant transaction mutations actor before = (.ok finished, after)) :
    let batch : Batch := ⟨mutations, actor, prepareExpiry store clock⟩
    Represents platform { ledger with batches := Ledger.prepares ledger.batches (tenant, transaction) batch } after := by
  have done := prepare_ok platform store clock tenant transaction mutations actor finished before after ran
  refine ⟨?_, batches_match_prepare platform store clock _ before after tenant transaction mutations actor
    represents.batches done⟩
  refine records_match_same _ _ before _ ?_ ?_ represents.records
  · rw [done.rest]
  · rw [done.rest]

theorem represents_commit (tenant : String) (transaction : Uuid) (finished : Unit)
    (represents : Represents platform ledger before)
    (ran : commit platform store clock tenant transaction before = (.ok finished, after)) :
    ∃ batch, ledger.batches (tenant, transaction) = some batch ∧
      Represents platform { ledger with records := batch.mutations.foldl Ledger.mutates ledger.records } after := by
  obtain ⟨row, expiry, mutations, applied, done⟩ := commit_ok platform store clock tenant transaction finished before after ran
  obtain ⟨batch, known, held⟩ := represents.batches _ _ done.held
  obtain ⟨_, rfl⟩ := batch_held_opens platform store _ batch row expiry mutations
    (Table.find_key _ _ _ done.held) held done.opens
  refine ⟨batch, known, ?_⟩
  have start : RecordsMatch platform ledger.records (claimed clock tenant transaction before) :=
    records_match_same _ _ before _ rfl rfl represents.records
  obtain ⟨folded, same⟩ := records_match_mutations platform store clock row.actor batch.mutations ledger.records _ applied
    start () done.ran
  rw [done.rest]
  refine ⟨records_match_same _ _ applied _ rfl rfl folded, ?_⟩
  refine batches_match_fewer _ _ before _ ?_ represents.batches
  intro address stored found
  rw [auditing, same] at found
  exact fewer_purged _ _ _ _ _ (fewer_drop _ _ _ _ _ found)

theorem represents_abort (tenant : String) (transaction : Uuid) (represents : Represents platform ledger before) :
    Represents platform ledger (abort store clock tenant transaction before).2 := by
  cases ran : abort store clock tenant transaction before with
  | mk outcome after =>
      cases outcome with
      | ok finished =>
          obtain ⟨_, _, _, rfl⟩ := abort_ok store clock tenant transaction finished before after ran
          exact represents_unapplied platform ledger before _ tenant (unapplied_drop tenant transaction before) represents
      | error error =>
          rw [abort_error store clock tenant transaction before after error ran]
          exact represents

theorem represents_reseal (represents : Represents platform ledger before) :
    Represents platform ledger (resealBatches platform store clock before).2 := by
  cases ran : resealBatches platform store clock before with
  | mk outcome after =>
      cases outcome with
      | ok finished =>
          have resealed := reseal_batches_keep platform store clock before after finished ran
          refine ⟨records_match_same _ _ before _ resealed.secrets resealed.versions represents.records, ?_⟩
          exact batches_match_resealed platform _ _ _ resealed
            (batches_match_fewer _ _ _ _ (fewer_purged_all before _) represents.batches)
      | error error =>
          rw [atomic_rollback _ _ _ _ ran]
          exact represents_rollback platform ledger _ _ represents

theorem represents_rewrap (actor : String) (represents : Represents platform ledger before) :
    Represents platform ledger (rewrapAll platform store clock actor before).2 := by
  have rewrapped := rewrap_versions_keep platform store actor before
  have middle : Represents platform ledger (rewrapVersions platform store actor before).2 :=
    ⟨records_match_rewrapped _ _ _ _ rewrapped represents.records,
      batches_match_same platform ledger _ _ rewrapped.prepared represents.batches⟩
  rw [rewrapAll, bind_run]
  cases ran : rewrapVersions platform store actor before with
  | mk outcome after =>
      rw [ran] at middle
      cases outcome with
      | error error => exact middle
      | ok count =>
          have resealed := represents_reseal platform store clock ledger after middle
          change Represents platform ledger ((resealBatches platform store clock >>= fun _ => pure count) after).2
          rw [bind_run]
          cases second : resealBatches platform store clock after with
          | mk outcome last =>
              rw [second] at resealed
              cases outcome <;> exact resealed

end Steps

theorem represents_step (platform : Platform) (invocation : Invocation) (state : World × Ledger)
    (represents : Represents platform state.2 state.1) :
    Represents platform (invocation.step platform state).2 (invocation.step platform state).1 := by
  obtain ⟨world, ledger⟩ := state
  obtain ⟨store, clock, operation⟩ := invocation
  unfold Invocation.step
  cases operation with
  | rewrapAll actor => exact represents_rewrap platform store clock ledger world actor represents
  | call call =>
      cases ran : Operation.perform platform store clock (.call call) world with
      | mk outcome after =>
          cases call with
          | put input =>
              cases outcome with
              | ok metadata => exact represents_put platform store clock ledger world after input metadata represents ran
              | error error =>
                  rw [atomic_rollback _ _ _ _ ran]
                  exact represents_rollback platform ledger _ _ represents
          | get reference =>
              have same := still_after _ (get_still store reference) world after outcome ran
              subst same
              cases outcome <;> exact represents
          | existsActive reference =>
              have same := still_after _ (exists_still reference) world after outcome ran
              subst same
              cases outcome <;> exact represents
          | list tenant owner =>
              have same := still_after _ (list_still tenant owner) world after outcome ran
              subst same
              cases outcome <;> exact represents
          | delete reference actor =>
              cases outcome with
              | ok finished => exact represents_delete platform ledger world after reference actor finished represents ran
              | error error =>
                  rw [atomic_rollback _ _ _ _ ran]
                  exact represents_rollback platform ledger _ _ represents
          | revoke reference actor =>
              cases outcome with
              | ok metadata =>
                  exact represents_revoke platform clock ledger world after reference actor metadata represents ran
              | error error =>
                  rw [atomic_rollback _ _ _ _ ran]
                  exact represents_rollback platform ledger _ _ represents
          | prepare tenant transaction mutations actor =>
              cases outcome with
              | ok finished =>
                  exact represents_prepare platform store clock ledger world after tenant transaction mutations actor
                    finished represents ran
              | error error =>
                  exact represents_unapplied platform ledger world after tenant
                    (prepare_error platform store clock tenant transaction mutations actor world error after ran) represents
          | commit tenant transaction =>
              cases outcome with
              | ok finished =>
                  obtain ⟨batch, known, folded⟩ :=
                    represents_commit platform store clock ledger world after tenant transaction finished represents ran
                  simp only [Ledger.after, known]
                  exact folded
              | error error =>
                  exact represents_unapplied platform ledger world after tenant
                    (commit_error platform store clock tenant transaction world error after ran) represents
          | abort tenant transaction =>
              have kept := represents_abort platform store clock ledger world tenant transaction represents
              rw [show abort store clock tenant transaction world = (outcome, after) from ran] at kept
              cases outcome <;> exact kept

theorem represents_from (platform : Platform) (invocations : List Invocation) (state : World × Ledger)
    (represents : Represents platform state.2 state.1) :
    Represents platform (invocations.foldl (Invocation.step platform) state).2
      (invocations.foldl (Invocation.step platform) state).1 := by
  induction invocations generalizing state with
  | nil => exact represents
  | cons invocation rest ih => exact ih _ (represents_step platform invocation state represents)

theorem run_represents (platform : Platform) (invocations : List Invocation) :
    Represents platform (runAll platform invocations).2 (runAll platform invocations).1 :=
  represents_from platform invocations _ (represents_empty platform)

end Secrets
