import Secrets.Answers
import Secrets.OwnerView

set_option autoImplicit false

namespace Secrets

open Effects Effects.Tx Tables

structure PutRoom (platform : Platform) (store : PostgresStore) (records : SecretRef → Option Record) (input : PutSecret)
    (actor : String) : Prop extends PutFits platform store input actor where
  successor : ∀ record, records input.reference = some record → record.version ≠ i64Max

section Puts
variable (platform : Platform) (store : PostgresStore) (clock : Clock) (world : World) (records : SecretRef → Option Record)
  (input : PutSecret) (actor : String)

theorem put_tx_unavailable (valid : validateRef input.reference = .ok ()) (error : StoreError) (after : World)
    (ran : putTx platform store clock input actor world = (.error error, after)) : error = .unavailable := by
  by_contra other
  apply put_tx_never (fun failed => failed ≠ .unavailable) (by simp) platform store clock input actor _ world error after ran other
  intro refused found
  rw [valid] at found
  cases found

theorem put_tx_fits (metadata : SecretMetadata) (after : World)
    (ran : putTx platform store clock input actor world = (.ok metadata, after)) :
    platform.indexFits input.reference.parts = true ∧ platform.indexFits [input.reference.tenant, input.ownerSubject] = true := by
  simp only [putTx, upsertSecret, bind_ok, ensure_ok, lift_run, draw_run, crypto_ok, Keyring.encryptValue, seal_envelope_of,
    Prod.mk.injEq, Except.ok.injEq] at ran
  obtain ⟨_, _, _, _, _, _, _, _, ⟨rfl, rfl⟩, _, _, _, _, _, ⟨_, _, _, _, _, _, _, _, ⟨fits, _⟩, _⟩, _⟩ := ran
  simpa using fits

theorem put_place_new (unknown : world.secrets.find input.reference = none) :
    putPlace platform input world = ((platform.random world.drawn).uuid, 1) := by
  rw [putPlace, unknown]
  rfl

theorem put_place_old (row : SecretRow) (found : world.secrets.find input.reference = some row) :
    putPlace platform input world = (row.id, i64Succ row.currentVersion) := by
  rw [putPlace, found]
  rfl

variable (matched : RecordsMatch platform records world) (fresh : Fresh platform world)
  (valid : validateRef input.reference = .ok ())
include matched

theorem next_positive (row : SecretRow) (found : world.secrets.find input.reference = some row) :
    i64Succ row.currentVersion > 0 ↔ ∀ record, records input.reference = some record → record.version ≠ i64Max := by
  obtain ⟨record, known, shows⟩ := record_of_row platform records world matched _ _ found
  have least : record.version ≥ 1 := by
    rw [Record.version]
    omega
  rw [known, shows.version, i64Succ]
  constructor
  · intro positive other same top
    cases same
    rw [if_pos top] at positive
    simp [i64Min] at positive
  · intro below
    rw [if_neg (below record rfl)]
    omega

include fresh in
theorem put_place_free : world.versions.find (putPlace platform input world) = none ∨
    ∃ row, world.secrets.find input.reference = some row ∧ ¬i64Succ row.currentVersion > 0 := by
  cases there : world.versions.find (putPlace platform input world) with
  | none => exact .inl rfl
  | some version =>
      right
      obtain ⟨reference, owner, found, same, _, high⟩ := matched.owned _ version there
      cases known : world.secrets.find input.reference with
      | none =>
          rw [put_place_new platform world input known] at same
          exact absurd same (fresh reference owner found)
      | some row =>
          rw [put_place_old platform world input row known] at same high
          have here : reference = input.reference := matched.distinct _ _ _ _ found known same
          rw [here, known] at found
          cases found
          refine ⟨owner, rfl, fun positive => ?_⟩
          rw [i64_succ_positive _ positive] at high
          omega

include fresh valid

theorem put_tx_room (room : PutRoom platform store records input actor) :
    ∃ metadata after, putTx platform store clock input actor world = (.ok metadata, after) := by
  have positive : (putPlace platform input world).2 > 0 := by
    cases found : world.secrets.find input.reference with
    | none =>
        rw [put_place_new platform world input found]
        exact Int.one_pos
    | some row =>
        rw [put_place_old platform world input row found]
        exact (next_positive platform world records input matched row found).mpr room.successor
  apply put_tx_runs platform store clock world input actor valid room.toPutFits positive
  · intro unknown other member
    rw [put_place_new platform world input unknown]
    exact fresh _ other (Table.find_of_mem _ _ member)
  · rcases put_place_free platform world records input matched fresh with free | ⟨row, found, wraps⟩
    · exact free
    · rw [put_place_old platform world input row found] at positive
      exact absurd positive wraps

omit fresh in
theorem put_tx_no_room (none : ¬PutRoom platform store records input actor) :
    ∃ after, putTx platform store clock input actor world = (.error .unavailable, after) := by
  cases ran : putTx platform store clock input actor world with
  | mk outcome after =>
      cases outcome with
      | error error => exact ⟨after, by rw [put_tx_unavailable platform store clock world input actor valid error after ran]⟩
      | ok metadata =>
          have done := put_tx_ok platform store clock input actor world after metadata ran
          have fits := put_tx_fits platform store clock world input actor metadata after ran
          have cleanActor : Clean [actor] := clean_of_mem _ _ done.cleanActor (by simp)
          refine absurd ⟨⟨done.clean, done.cleanKeyId, cleanActor, fits.1, fits.2, done.fits⟩, ?_⟩ none
          intro record known
          obtain ⟨row, found, _⟩ := matched.present _ _ known
          have positive := done.positive
          rw [put_place_old platform world input row found] at positive
          exact (next_positive platform world records input matched row found).mp positive record known

end Puts

section Deletes
variable (platform : Platform) (world : World) (records : SecretRef → Option Record) (reference : SecretRef) (actor : String)

theorem delete_tx_dirty (dirty : ¬Clean reference.parts) :
    deleteTx platform reference actor world = (.error .unavailable, world) :=
  bind_of_error _ _ _ _ _ (bind_of_error _ _ _ _ _ (dirty_text_refused _ world dirty))

theorem delete_tx_run (row : SecretRow) (found : world.secrets.find reference = some row) (clean : Clean reference.parts) :
    (deleteTx platform reference actor world).1 =
      if !([reference.tenant, actor].any hasNul) && platform.indexFits [reference.tenant] then .ok () else .error .unavailable := by
  have removed : deleteSecret reference world = (.ok (some row.id), world.dropSecret row) := by
    rw [deleteSecret, bind_of_ok _ _ _ _ _ ((bind_text_ok _ () _ _).mpr ⟨clean, rfl⟩), bind_run, read_run, found]
    rfl
  rw [deleteTx, bind_of_ok _ _ _ _ _ removed]
  dsimp only
  rw [audit_run]
  split <;> rfl

variable (matched : RecordsMatch platform records world)
include matched

theorem found_changeable (row : SecretRow) (found : world.secrets.find reference = some row) :
    Clean reference.parts ∧ platform.indexFits [reference.tenant] = true := by
  obtain ⟨valid, fits⟩ := matched.valid reference row found
  obtain ⟨tenant, nameSpace, key⟩ := valid_ref_no_nul reference valid
  exact ⟨by simp [Clean, SecretRef.parts, hasNul, tenant, nameSpace, key], fits⟩

theorem found_logged (row : SecretRow) (found : world.secrets.find reference = some row) :
    (!([reference.tenant, actor].any hasNul) && platform.indexFits [reference.tenant]) = true ↔ Clean [actor] := by
  obtain ⟨clean, fits⟩ := found_changeable platform world records reference matched row found
  have tenant : hasNul reference.tenant = false := clean_mem _ clean _ (by simp [SecretRef.parts])
  simp [Clean, tenant, fits]

theorem delete_tx_room (row : SecretRow) (found : world.secrets.find reference = some row) (cleanActor : Clean [actor]) :
    ∃ after, deleteTx platform reference actor world = (.ok (), after) := by
  obtain ⟨clean, _⟩ := found_changeable platform world records reference matched row found
  have logged := (found_logged platform world records reference actor matched row found).mpr cleanActor
  have ran := delete_tx_run platform world reference actor row found clean
  rw [if_pos logged] at ran
  exact ⟨_, Prod.ext ran rfl⟩

end Deletes

def Applies (platform : Platform) (store : PostgresStore) (actor : String) (done : Prop) :
    (SecretRef → Option Record) → List Mutation → Prop
  | _, [] => done
  | records, .put secret :: rest => validateRef secret.reference = .ok () →
      PutRoom platform store records secret actor ∧ Applies platform store actor done (Ledger.puts records secret) rest
  | records, .delete reference :: rest => Clean reference.parts ∧
      (records reference ≠ none → Applies platform store actor done (Ledger.deletes records reference) rest)

-- A batch is refused for its own sake: a put of it has an invalid reference, or a
-- delete of it finds no record.
inductive Excused (error : StoreError) : (SecretRef → Option Record) → List Mutation → Prop where
  | invalid (records : SecretRef → Option Record) (secret : PutSecret) (rest : List Mutation)
      (refused : validateRef secret.reference = .error error) : Excused error records (.put secret :: rest)
  | missing (records : SecretRef → Option Record) (reference : SecretRef) (rest : List Mutation)
      (unknown : records reference = none) (same : error = .deleteTargetMissing) : Excused error records (.delete reference :: rest)
  | later (records : SecretRef → Option Record) (mutation : Mutation) (rest : List Mutation)
      (after : Excused error (Ledger.mutates records mutation) rest) : Excused error records (mutation :: rest)

theorem validate_invalid (reference : SecretRef) (error : StoreError) (refused : validateRef reference = .error error) :
    ∃ rule, error = .invalid rule := by
  unfold validateRef at refused
  dsimp only at refused
  split at refused
  · cases refused
    exact ⟨_, rfl⟩
  · split at refused
    · cases refused
      exact ⟨_, rfl⟩
    · cases refused

theorem excused_other (error : StoreError) (records : SecretRef → Option Record) (mutations : List Mutation)
    (excused : Excused error records mutations) : error = .deleteTargetMissing ∨ ∃ rule, error = .invalid rule := by
  induction excused with
  | invalid records secret rest refused => exact .inr (validate_invalid _ _ refused)
  | missing records reference rest unknown same => exact .inl same
  | later records mutation rest after ih => exact ih

-- The three ways a batch can go: through, refused for its own sake, or refused by
-- the database for want of room.
inductive Answered (platform : Platform) (store : PostgresStore) (actor : String) (done : Prop)
    (records : SecretRef → Option Record) (mutations : List Mutation) : Except StoreError Unit → Prop where
  | through (applies : Applies platform store actor done records mutations ↔ done) : Answered platform store actor done records mutations (.ok ())
  | excused (error : StoreError) (excuse : Excused error records mutations)
      (applies : Applies platform store actor done records mutations) : Answered platform store actor done records mutations (.error error)
  | refused (full : ¬Applies platform store actor done records mutations) :
      Answered platform store actor done records mutations (.error .unavailable)

theorem answered_later (platform : Platform) (store : PostgresStore) (actor : String) (done : Prop)
    (records : SecretRef → Option Record) (mutation : Mutation) (rest : List Mutation) (outcome : Except StoreError Unit)
    (continues : Applies platform store actor done records (mutation :: rest) ↔
      Applies platform store actor done (Ledger.mutates records mutation) rest)
    (answered : Answered platform store actor done (Ledger.mutates records mutation) rest outcome) :
    Answered platform store actor done records (mutation :: rest) outcome := by
  cases answered with
  | through applies => exact .through (continues.trans applies)
  | excused error excuse applies => exact .excused error (.later _ _ _ excuse) (continues.mpr applies)
  | refused full => exact .refused fun applies => full (continues.mp applies)

section Batches
variable (platform : Platform) (store : PostgresStore) (clock : Clock) (limit : Nat) (distinct : Distinct platform limit)
  (actor : String) (cleanActor : Clean [actor]) (done : Prop)

theorem apply_all_grows (mutations : List Mutation) (world : World)
    (last : (applyAll platform store clock actor mutations world).2.drawn < limit) : world.drawn < limit := by
  rw [← for_each_apply_all] at last
  exact within_for_each (spending limit) _ mutations
    (fun mutation _ => spending_mutation platform store clock limit actor mutation) world last

include distinct cleanActor

theorem apply_all_answer (mutations : List Mutation) (records : SecretRef → Option Record) (world : World)
    (matched : RecordsMatch platform records world) (ids : IdsDrawn platform world)
    (last : (applyAll platform store clock actor mutations world).2.drawn < limit) :
    Answered platform store actor done records mutations (applyAll platform store clock actor mutations world).1 := by
  induction mutations generalizing records world with
  | nil => exact .through Iff.rfl
  | cons mutation rest ih =>
      have grows := apply_all_grows platform store clock limit actor (mutation :: rest) world last
      cases mutation with
      | put secret =>
          cases valid : validateRef secret.reference with
          | error error =>
              rw [applyAll, put_tx_invalid platform store clock actor secret error world valid]
              apply Answered.excused error (.invalid records secret rest valid)
              intro accepted
              rw [valid] at accepted
              cases accepted
          | ok accepted =>
              have fresh := ids_fresh platform limit world distinct ids grows
              by_cases room : PutRoom platform store records secret actor
              · obtain ⟨metadata, after, ran⟩ := put_tx_room platform store clock world records secret actor matched fresh valid room
                have put := put_tx_ok platform store clock secret actor world after metadata ran
                rw [applyAll, ran] at last ⊢
                apply answered_later platform store actor done records (.put secret) rest
                · simp only [Applies, Ledger.mutates, valid, room, true_and, true_implies]
                · exact ih (Ledger.puts records secret) after
                    (records_match_put platform records world after store clock matched secret actor metadata put)
                    (ids_drawn_put platform store clock world after ids secret actor metadata put) last
              · obtain ⟨after, ran⟩ := put_tx_no_room platform store clock world records secret actor matched valid room
                rw [applyAll, ran]
                exact .refused fun applies => room (applies valid).1
      | delete reference =>
          by_cases clean : Clean reference.parts
          · cases known : records reference with
            | none =>
                rw [applyAll, delete_tx_missing platform actor reference world clean (matched.absent reference known)]
                exact .excused _ (.missing records reference rest known rfl) ⟨clean, fun there => absurd known there⟩
            | some record =>
                obtain ⟨row, found, _⟩ := matched.present reference record known
                obtain ⟨after, removed⟩ := delete_tx_room platform world records reference actor matched row found cleanActor
                obtain ⟨_, _, _, other, again, rfl⟩ := (delete_tx_ok platform reference actor () world after).mp removed
                cases found.symm.trans again
                rw [applyAll, removed] at last ⊢
                apply answered_later platform store actor done records (.delete reference) rest
                · simp [Applies, Ledger.mutates, clean, known]
                · exact ih (Ledger.deletes records reference) _
                    (records_match_same platform _ (world.dropSecret row) _ rfl rfl
                      (records_match_drop platform records world matched reference row found))
                    (ids_drawn_drop platform world ids row) last
          · rw [applyAll, delete_tx_dirty platform world reference actor clean]
            exact .refused fun applies => clean applies.1

end Batches

structure PrepareRoom (platform : Platform) (store : PostgresStore) (clock : Clock) (tenant actor : String) : Prop where
  service : 0 ≤ clock.service ∧ clock.service ≤ i64Max
  lifetime : (store.batchLifetime : Int) ≤ i64Max
  expiry : prepareExpiry store clock * 1000000 < timestampEnd
  clean : Clean [tenant, actor, store.keyring.active]
  fits : platform.indexFits [tenant] = true

section Inserts
variable (platform : Platform) (row : PreparedRow) (world : World)

theorem insert_prepared_room (clean : Clean [row.tenant, row.actor, row.envelope.keyId]) (early : row.expiresAt < timestampEnd)
    (fits : platform.indexFits [row.tenant] = true) :
    (insertPrepared platform row world).1 = .ok () ∨ (insertPrepared platform row world).1 = .error .conflict := by
  rw [insertPrepared, bind_of_ok _ _ _ _ _ ((bind_text_ok _ () _ _).mpr ⟨clean, rfl⟩),
    bind_of_ok _ _ _ _ _ ((ensure_ok _ _ () _ _).mpr ⟨decide_eq_true early, rfl⟩),
    bind_of_ok _ _ _ _ _ ((ensure_ok _ _ () _ _).mpr ⟨fits, rfl⟩), attempt]
  cases world.prepared.insert row with
  | none => exact .inr rfl
  | some prepared => exact .inl rfl

theorem insert_prepared_no_room (full : ¬(Clean [row.tenant, row.actor, row.envelope.keyId] ∧ row.expiresAt < timestampEnd ∧
    platform.indexFits [row.tenant] = true)) : (insertPrepared platform row world).1 = .error .unavailable := by
  rw [insertPrepared]
  by_cases clean : Clean [row.tenant, row.actor, row.envelope.keyId]
  · rw [bind_of_ok _ _ _ _ _ ((bind_text_ok _ () _ _).mpr ⟨clean, rfl⟩)]
    by_cases early : row.expiresAt < timestampEnd
    · rw [bind_of_ok _ _ _ _ _ ((ensure_ok _ _ () _ _).mpr ⟨decide_eq_true early, rfl⟩)]
      have unfit : platform.indexFits [row.tenant] = false := by
        by_contra fits
        exact full ⟨clean, early, by simpa using fits⟩
      rw [bind_of_error _ _ _ _ _ ((ensure_error _ _ _ _ _).mpr ⟨unfit, rfl, rfl⟩)]
    · rw [bind_of_error _ _ _ _ _ ((ensure_error _ _ _ _ _).mpr ⟨decide_eq_false early, rfl, rfl⟩)]
  · rw [bind_of_error _ _ _ _ _ (dirty_text_refused _ world clean)]

end Inserts

section Prepares
variable (platform : Platform) (store : PostgresStore) (clock : Clock) (world : World) (tenant : String) (transaction : Uuid)
  (mutations : List Mutation) (actor : String)

theorem prepare_invalid (invalid : mutations = [] ∨ ∃ mutation ∈ mutations, mutation.reference.tenant ≠ tenant) :
    ∃ rule, (prepare platform store clock tenant transaction mutations actor world).1 = .error (.invalid rule) := by
  by_cases empty : mutations = []
  · subst empty
    exact ⟨.emptyBatch, rfl⟩
  · have foreign : (mutations.all fun mutation => decide (mutation.reference.tenant = tenant)) = false := by
      obtain ⟨mutation, member, other⟩ := invalid.resolve_left empty
      exact List.all_eq_false.mpr ⟨mutation, member, by simp [other]⟩
    have first : ensure (!mutations.isEmpty) (StoreError.invalid .emptyBatch) world = (.ok (), world) :=
      (ensure_ok _ _ _ _ _).mpr ⟨by simp [empty], rfl⟩
    have second : ensure (mutations.all fun mutation => decide (mutation.reference.tenant = tenant))
        (StoreError.invalid .crossTenantBatch) world = (.error (.invalid .crossTenantBatch), world) :=
      (ensure_error _ _ _ _ _).mpr ⟨foreign, rfl, rfl⟩
    refine ⟨.crossTenantBatch, ?_⟩
    rw [prepare, bind_of_ok _ _ _ _ _ first, bind_of_error _ _ _ _ _ second]

variable (some : mutations ≠ []) (own : ∀ mutation ∈ mutations, mutation.reference.tenant = tenant)
include some own

theorem prepare_checked : prepare platform store clock tenant transaction mutations actor world =
    (do let now ← lift (unixSeconds clock)
        ensure (decide ((store.batchLifetime : Int) ≤ i64Max)) .unavailable
        let expiresAt := saturatingAdd now store.batchLifetime
        let batch ← lift (batchPayload platform expiresAt mutations)
        let drawn ← draw platform
        let envelope ← crypto (store.keyring.sealBatch drawn tenant transaction actor batch) .crypto
        purgeExpired clock tenant
        insertPrepared platform ⟨transaction, tenant, actor, envelope, expiresAt * 1000000⟩ : Sql Unit) world := by
  have first : ensure (!mutations.isEmpty) (StoreError.invalid .emptyBatch) world = (.ok (), world) :=
    (ensure_ok _ _ _ _ _).mpr ⟨by simp [some], rfl⟩
  have second : ensure (mutations.all fun mutation => decide (mutation.reference.tenant = tenant))
      (StoreError.invalid .crossTenantBatch) world = (.ok (), world) :=
    (ensure_ok _ _ _ _ _).mpr ⟨by simpa using own, rfl⟩
  rw [prepare, bind_of_ok _ _ _ _ _ first, bind_of_ok _ _ _ _ _ second]

theorem prepare_timed (service : 0 ≤ clock.service ∧ clock.service ≤ i64Max) (lifetime : (store.batchLifetime : Int) ≤ i64Max) :
    prepare platform store clock tenant transaction mutations actor world =
      (purgeExpired clock tenant >>= fun _ =>
        insertPrepared platform (preparedRow platform store clock tenant transaction mutations actor world))
          { world with drawn := world.drawn + 1 } := by
  have now : lift (unixSeconds clock) world = (.ok clock.service, world) := by rw [lift_run, unixSeconds, if_pos service]
  have short : ensure (decide ((store.batchLifetime : Int) ≤ i64Max)) StoreError.unavailable world = (.ok (), world) :=
    (ensure_ok _ _ _ _ _).mpr ⟨decide_eq_true lifetime, rfl⟩
  rw [prepare_checked platform store clock world tenant transaction mutations actor some own, bind_of_ok _ _ _ _ _ now,
    bind_of_ok _ _ _ _ _ short]
  have payload : lift (batchPayload platform (prepareExpiry store clock) mutations) world =
      (.ok (toBeBytes (prepareExpiry store clock) ++ platform.codec.toWriter mutations), world) := by
    rw [lift_run, batch_payload_ok]
  refine (bind_of_ok _ _ _ _ _ payload).trans ((bind_of_ok _ _ _ _ _ (draw_run platform world)).trans ?_)
  refine bind_of_ok _ _ _ _ _ ((crypto_ok _ _ _ _ _).mpr ⟨?_, rfl⟩)
  rw [Keyring.sealBatch, seal_envelope_of]

theorem prepare_room (room : PrepareRoom platform store clock tenant actor) :
    (prepare platform store clock tenant transaction mutations actor world).1 = .ok () ∨
      (prepare platform store clock tenant transaction mutations actor world).1 = .error .conflict := by
  have cleanTenant : Clean [tenant] := clean_of_mem _ _ room.clean (by simp)
  rw [prepare_timed platform store clock world tenant transaction mutations actor some own room.service room.lifetime,
    bind_of_ok _ _ _ _ _ ((purge_expired_ok clock tenant () _ _).mpr ⟨cleanTenant, rfl⟩)]
  exact insert_prepared_room platform _ _ room.clean room.expiry room.fits

theorem prepare_no_room (full : ¬PrepareRoom platform store clock tenant actor) :
    (prepare platform store clock tenant transaction mutations actor world).1 = .error .unavailable := by
  by_cases service : 0 ≤ clock.service ∧ clock.service ≤ i64Max
  · by_cases lifetime : (store.batchLifetime : Int) ≤ i64Max
    · rw [prepare_timed platform store clock world tenant transaction mutations actor some own service lifetime]
      by_cases cleanTenant : Clean [tenant]
      · rw [bind_of_ok _ _ _ _ _ ((purge_expired_ok clock tenant () _ _).mpr ⟨cleanTenant, rfl⟩)]
        apply insert_prepared_no_room
        intro ⟨clean, expiry, fits⟩
        exact full ⟨service, lifetime, expiry, clean, fits⟩
      · have refused := bind_of_error _ (fun _ => write fun world => world.purged tenant clock.statement) _ _ _
          (dirty_text_refused [tenant] { world with drawn := world.drawn + 1 } cleanTenant)
        exact congrArg Prod.fst (bind_of_error _ _ _ _ _ refused)
    · have refused : ensure (decide ((store.batchLifetime : Int) ≤ i64Max)) StoreError.unavailable world = (.error .unavailable, world) :=
        (ensure_error _ _ _ _ _).mpr ⟨decide_eq_false lifetime, rfl, rfl⟩
      have now : lift (unixSeconds clock) world = (.ok clock.service, world) := by rw [lift_run, unixSeconds, if_pos service]
      rw [prepare_checked platform store clock world tenant transaction mutations actor some own, bind_of_ok _ _ _ _ _ now,
        bind_of_error _ _ _ _ _ refused]
  · have refused : lift (unixSeconds clock) world = (.error .unavailable, world) := by rw [lift_run, unixSeconds, if_neg service]
    rw [prepare_checked platform store clock world tenant transaction mutations actor some own, bind_of_error _ _ _ _ _ refused]

end Prepares

structure Live (clock : Clock) (ledger : Ledger) (world : World) (tenant : String) (transaction : Uuid) (batch : Batch)
    (row : PreparedRow) : Prop where
  known : ledger.batches (tenant, transaction) = some batch
  found : world.prepared.find (tenant, transaction) = some row
  unexpired : clock.transaction < row.expiresAt

structure CommitRoom (platform : Platform) (store : PostgresStore) (clock : Clock) (ledger : Ledger) (world : World)
    (tenant : String) (transaction : Uuid) : Prop where
  clean : Clean [tenant]
  applies : ∀ batch row, Live clock ledger world tenant transaction batch row →
    Applies platform store batch.actor (platform.indexFits [tenant] = true) ledger.records batch.mutations

section Commits
variable (platform : Platform) (store : PostgresStore) (clock : Clock) (ledger : Ledger) (world : World) (tenant : String)
  (transaction : Uuid)

theorem commit_dirty (dirty : ¬Clean [tenant]) : (commit platform store clock tenant transaction world).1 = .error .unavailable := by
  have refused := bind_of_error _ (fun _ => write fun world => world.purged tenant clock.statement) _ _ _
    (dirty_text_refused [tenant] world dirty)
  exact congrArg Prod.fst (bind_of_error _ _ _ _ _ refused)

theorem commit_unheld (clean : Clean [tenant]) (sound : Sound platform ledger world)
    (dead : ∀ batch row, ¬Live clock ledger world tenant transaction batch row) :
    (commit platform store clock tenant transaction world).1 = .error .notFound := by
  have gone : (world.purged tenant clock.statement).held tenant transaction clock.transaction = none := by
    cases held : (world.purged tenant clock.statement).held tenant transaction clock.transaction with
    | none => rfl
    | some row =>
        obtain ⟨found, live⟩ := (purged_held clock world tenant transaction row).mp held
        obtain ⟨batch, known, _⟩ := sound.represents.batches _ row found
        exact absurd ⟨known, found, live⟩ (dead batch row)
  have taken : takePrepared tenant transaction clock.transaction (world.purged tenant clock.statement) =
      (.ok none, world.purged tenant clock.statement) := by
    rw [takePrepared, bind_of_ok _ _ _ _ _ ((bind_text_ok _ () _ _).mpr ⟨clean, rfl⟩), bind_run, read_run, gone]
    rfl
  have refused : commitTx platform store clock tenant transaction (world.purged tenant clock.statement) =
      (.error .notFound, world.purged tenant clock.statement) := by
    rw [commitTx, bind_of_ok _ _ _ _ _ taken]
    rfl
  rw [commit, bind_of_ok _ _ _ _ _ ((purge_expired_ok clock tenant () _ _).mpr ⟨clean, rfl⟩),
    bind_of_error _ _ _ _ _ ((atomic_error _ _ _ _ _).mpr ⟨_, refused, rfl⟩)]

variable (batch : Batch) (row : PreparedRow) (live : Live clock ledger world tenant transaction batch row)
  (sound : Sound platform ledger world) (holds : store.keyring.Holds row.envelope)
include live sound holds

theorem commit_live : commit platform store clock tenant transaction world =
    match applyAll platform store clock batch.actor batch.mutations (claimed clock tenant transaction world) with
    | (.ok _, applied) =>
        if platform.indexFits [tenant] then (.ok (), auditing applied tenant none batch.actor .commitBatch)
        else (.error .unavailable, rollback (world.purged tenant clock.statement) applied)
    | (.error error, failed) => (.error error, rollback (world.purged tenant clock.statement) failed) := by
  obtain ⟨other, known, held⟩ := sound.represents.batches _ row live.found
  cases live.known.symm.trans known
  have opened := holds_opens _ _ _ _ holds held.content
  rw [← held.actor] at opened
  have body := commit_tx_opened platform store clock world tenant transaction batch row live.found held live.unexpired _ opened
  have clean := held.clean
  have cleanTenant : Clean [tenant] := clean_of_mem _ _ clean (by simp)
  rw [commit, bind_of_ok _ _ _ _ _ ((purge_expired_ok clock tenant () _ _).mpr ⟨cleanTenant, rfl⟩), bind_run, atomic, body,
    held.actor, bind_run, for_each_apply_all]
  cases applyAll platform store clock batch.actor batch.mutations (claimed clock tenant transaction world) with
  | mk outcome after =>
      cases outcome with
      | error error => rfl
      | ok done =>
          dsimp only
          rw [bind_run, audit_run]
          have logged : [tenant, batch.actor].any hasNul = false := clean
          rw [logged]
          cases platform.indexFits [tenant] <;> rfl

variable (limit : Nat) (distinct : Distinct platform limit)
  (last : (commit platform store clock tenant transaction world).2.drawn < limit)
include distinct last

theorem commit_answered : Answered platform store batch.actor (platform.indexFits [tenant] = true) ledger.records batch.mutations
    (applyAll platform store clock batch.actor batch.mutations (claimed clock tenant transaction world)).1 := by
  obtain ⟨other, known, held⟩ := sound.represents.batches _ row live.found
  cases live.known.symm.trans known
  apply apply_all_answer platform store clock limit distinct batch.actor (clean_of_mem _ _ held.clean (by simp))
  · exact records_match_same _ _ world _ rfl rfl sound.represents.records
  · exact sound.ids
  · rw [commit_live platform store clock ledger world tenant transaction batch row live sound holds] at last
    cases ran : applyAll platform store clock batch.actor batch.mutations (claimed clock tenant transaction world) with
    | mk outcome after =>
        rw [ran] at last
        cases outcome with
        | error error => exact last
        | ok done =>
            dsimp only at last
            split at last
            · exact last
            · exact last

theorem commit_room (applies : Applies platform store batch.actor (platform.indexFits [tenant] = true) ledger.records batch.mutations) :
    (commit platform store clock tenant transaction world).1 = .ok () ∨
      ∃ error, (commit platform store clock tenant transaction world).1 = .error error ∧
        Excused error ledger.records batch.mutations := by
  have answered := commit_answered platform store clock ledger world tenant transaction batch row live sound holds limit distinct last
  rw [commit_live platform store clock ledger world tenant transaction batch row live sound holds]
  cases ran : applyAll platform store clock batch.actor batch.mutations (claimed clock tenant transaction world) with
  | mk outcome after =>
      rw [ran] at answered
      cases answered with
      | through same =>
          left
          dsimp only
          rw [if_pos (same.mp applies)]
      | excused error excuse _ => exact .inr ⟨error, rfl, excuse⟩
      | refused full => exact absurd applies full

theorem commit_no_room (full : ¬Applies platform store batch.actor (platform.indexFits [tenant] = true) ledger.records batch.mutations) :
    (commit platform store clock tenant transaction world).1 = .error .unavailable := by
  have answered := commit_answered platform store clock ledger world tenant transaction batch row live sound holds limit distinct last
  rw [commit_live platform store clock ledger world tenant transaction batch row live sound holds]
  cases ran : applyAll platform store clock batch.actor batch.mutations (claimed clock tenant transaction world) with
  | mk outcome after =>
      rw [ran] at answered
      cases answered with
      | through same =>
          dsimp only
          rw [if_neg fun fits => full (same.mpr fits)]
      | excused error excuse applies => exact absurd applies full
      | refused _ => rfl

end Commits

end Secrets
