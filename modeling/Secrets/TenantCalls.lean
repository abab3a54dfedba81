import Secrets.Authorization
import Secrets.Sound
import Secrets.TenantPart
import Secrets.Wire

set_option autoImplicit false

namespace Secrets

open Effects Effects.Tx Tables

-- What the store cannot see to by itself: no id is drawn twice, up to some
-- number of draws.
def Distinct (platform : Platform) (limit : Nat) : Prop :=
  ∀ first second, first < limit → second < limit → (platform.random first).uuid = (platform.random second).uuid → first = second

theorem counting_distinct (limit : Nat) (small : limit ≤ 256) : Distinct countingPlatform limit := by
  intro first second low high same
  have bytes : UInt8.ofNat first = UInt8.ofNat second := by
    have heads := congrArg (fun id : Uuid => id[0]) same
    simpa [countingPlatform, countingDraw] using heads
  have numbers := congrArg UInt8.toNat bytes
  rw [UInt8.toNat_ofNat', UInt8.toNat_ofNat'] at numbers
  omega

def Fresh (platform : Platform) (world : World) : Prop :=
  ∀ reference row, world.secrets.find reference = some row → row.id ≠ (platform.random world.drawn).uuid

theorem ids_fresh (platform : Platform) (limit : Nat) (world : World) (distinct : Distinct platform limit)
    (ids : IdsDrawn platform world) (room : world.drawn < limit) : Fresh platform world := by
  intro reference row found same
  obtain ⟨count, early, drawn⟩ := ids reference row found
  exact Nat.ne_of_lt early (distinct _ _ (Nat.lt_trans early room) room (drawn.symm.trans same))

section Statements
variable (platform : Platform) (store : PostgresStore) (clock : Clock) (tenant : String) (base : Nat) (world : World)

theorem bind_text_part (texts : List String) : CommutesAt (World.part tenant base) (bindText texts) (bindText texts) world :=
  commutes_at_ensure _ _ _ _

theorem read_part {Value : Type} (texts : List String) (view : World → Value)
    (blind : ∀ world : World, view (world.part tenant base) = view world) :
    CommutesAt (World.part tenant base) (do bindText texts; read view) (do bindText texts; read view) world :=
  commutes_at_bind _ _ _ _ _ _ (bind_text_part tenant base world texts) fun _ middle _ => commutes_at_read _ _ _ (blind middle)

theorem audit_part (id : Option Uuid) (actor : String) (action : AuditAction) :
    CommutesAt (World.part tenant base) (audit platform tenant id actor action)
      (audit (platform.since base) tenant id actor action) world := by
  refine commutes_at_bind _ _ _ _ _ _ (bind_text_part tenant base world _) fun _ middle _ => ?_
  refine commutes_at_bind _ _ _ _ _ _ (commutes_at_ensure _ _ _ _) fun _ middle _ => ?_
  exact commutes_at_write _ _ _ (part_auditing tenant base middle id actor action)

theorem select_secret_part (reference : SecretRef) (own : reference.tenant = tenant) :
    CommutesAt (World.part tenant base) (selectSecret reference) (selectSecret reference) world :=
  read_part tenant base world _ _ fun world => part_find tenant base world reference own

theorem metadata_part (reference : SecretRef) (own : reference.tenant = tenant) :
    CommutesAt (World.part tenant base) (metadataTx reference) (metadataTx reference) world := by
  refine commutes_at_bind _ _ _ _ _ _ (select_secret_part tenant base world reference own) fun found middle _ => ?_
  cases found with
  | none => exact commutes_at_fail _ _ _
  | some row => exact commutes_at_pure _ _ _

theorem crypto_part {Value : Type} (result : Except CryptoError Value) (refused : StoreError) :
    CommutesAt (World.part tenant base) (crypto result refused) (crypto result refused) world := commutes_at_lift _ _ _

-- The same draw, found at its place of the rest of the tape.
theorem draw_part (later : base ≤ world.drawn) :
    CommutesAt (World.part tenant base) (draw platform) (draw (platform.since base)) world := by
  have place : base + (world.drawn - base) = world.drawn := by omega
  have next : world.drawn - base + 1 = world.drawn + 1 - base := by omega
  rw [CommutesAt, draw_run, draw_run]
  simp only [World.part, Platform.since, place, next]
  rfl

theorem purge_part : CommutesAt (World.part tenant base) (purgeExpired clock tenant) (purgeExpired clock tenant) world :=
  commutes_at_bind _ _ _ _ _ _ (bind_text_part tenant base world _) fun _ middle _ =>
    commutes_at_write _ _ _ (part_purged tenant base middle clock.statement)

end Statements

section Puts
variable (platform : Platform) (store : PostgresStore) (clock : Clock) (tenant : String) (base : Nat) (world : World)
  (records : SecretRef → Option Record)

theorem id_fits (matched : RecordsMatch platform records world) (fresh : Fresh platform world) (row : SecretRow) (own : row.reference.tenant = tenant)
    (place : row.id = (nextVersion (world.secrets.find row.reference) (platform.random world.drawn)).1) :
    IdFits tenant { world with drawn := world.drawn + 1 } row := by
  constructor
  · intro other member same
    have there := Table.find_of_mem _ _ member
    cases found : world.secrets.find row.reference with
    | none =>
        rw [found] at place
        exact absurd (same.trans place) (fresh _ other there)
    | some old =>
        rw [found] at place
        have reference : other.reference = row.reference := matched.distinct _ _ _ _ there found (same.trans place)
        rw [reference, own]
  · intro version member
    obtain ⟨reference, other, found, id, _⟩ := matched.owned _ version (Table.find_of_mem _ _ member)
    exact ⟨other, Table.find_mem _ _ _ found, id⟩

theorem over_id (row : SecretRow) (existing : Option SecretRow) (drawn : Draw)
    (place : row.id = (nextVersion existing drawn).1) : (row.over existing).id = row.id := by
  cases existing with
  | none => rfl
  | some old => exact place.symm

theorem put_tx_part (matched : RecordsMatch platform records world) (fresh : Fresh platform world) (input : PutSecret)
    (actor : String) (later : base ≤ world.drawn) (own : input.reference.tenant = tenant) :
    CommutesAt (World.part tenant base) (putTx platform store clock input actor)
      (putTx (platform.since base) store clock input actor) world := by
  refine commutes_at_bind _ _ _ _ _ _ (commutes_at_lift _ _ _) fun _ _ validated => ?_
  rw [lift_run, Prod.mk.injEq] at validated
  obtain ⟨_, rfl⟩ := validated
  refine commutes_at_bind _ _ _ _ _ _ (select_secret_part tenant base world _ own) fun found _ selected => ?_
  obtain ⟨_, rfl, rfl⟩ := (select_secret_ok _ _ _ _).mp selected
  refine commutes_at_bind _ _ _ _ _ _ (draw_part platform tenant base world later) fun drawn middle drew => ?_
  rw [draw_run, Prod.mk.injEq, Except.ok.injEq] at drew
  obtain ⟨rfl, rfl⟩ := drew
  refine commutes_at_bind _ _ _ _ _ _ (crypto_part tenant base _ _ _) fun envelope _ sealed => ?_
  obtain ⟨_, rfl⟩ := (crypto_ok _ _ _ _ _).mp sealed
  refine commutes_at_bind _ _ _ _ _ _ ?_ fun _ upserted stored => ?_
  · refine commutes_at_bind _ _ _ _ _ _ (bind_text_part tenant base _ _) fun _ _ bound => ?_
    obtain ⟨_, rfl⟩ := (bind_text_ok _ _ _ _).mp bound
    refine commutes_at_bind _ _ _ _ _ _ (commutes_at_ensure _ _ _ _) fun _ _ positive => ?_
    obtain ⟨_, rfl⟩ := (ensure_ok _ _ _ _ _).mp positive
    refine commutes_at_bind _ _ _ _ _ _ (commutes_at_ensure _ _ _ _) fun _ _ fitted => ?_
    obtain ⟨_, rfl⟩ := (ensure_ok _ _ _ _ _).mp fitted
    exact commutes_at_attempt _ _ _ _ (part_upsert tenant base _ _ own
      (id_fits platform tenant world records matched fresh _ own rfl))
  obtain ⟨_, _, secrets, _⟩ := upsert_secret_ok platform _ rfl _ _ _ stored
  refine commutes_at_bind _ _ _ _ _ _ ?_ fun _ versioned inserted => ?_
  · refine commutes_at_bind _ _ _ _ _ _ (bind_text_part tenant base _ _) fun _ _ bound => ?_
    obtain ⟨_, rfl⟩ := (bind_text_ok _ _ _ _).mp bound
    refine commutes_at_attempt _ _ _ _ (part_add_version tenant base _ _ ?_)
    have mine := secrets input.reference
    rw [if_pos rfl] at mine
    have owned := owned_id_found tenant _ input.reference _ own mine
    rwa [over_id _ _ _ rfl] at owned
  refine commutes_at_bind _ _ _ _ _ _ (by rw [own]; exact audit_part platform tenant base _ _ _ _) fun _ _ _ => ?_
  exact metadata_part tenant base _ _ own

end Puts

section Others
variable (platform : Platform) (store : PostgresStore) (clock : Clock) (tenant : String) (base : Nat) (world : World)

theorem get_part (reference : SecretRef) (own : reference.tenant = tenant) :
    CommutesAt (World.part tenant base) (get store reference) (get store reference) world := by
  refine commutes_at_bind _ _ _ _ _ _ (read_part tenant base world _ _ fun world => part_readable tenant base world reference own)
    fun found middle _ => ?_
  cases found with
  | none => exact commutes_at_fail _ _ _
  | some pair => exact commutes_at_bind _ _ _ _ _ _ (crypto_part tenant base _ _ _) fun _ _ _ => commutes_at_pure _ _ _

theorem exists_part (reference : SecretRef) (own : reference.tenant = tenant) :
    CommutesAt (World.part tenant base) (existsActive reference) (existsActive reference) world :=
  read_part tenant base world _ _ fun world => by rw [part_find tenant base world reference own]

theorem list_part (owner : Option String) : CommutesAt (World.part tenant base) (list tenant owner) (list tenant owner) world :=
  commutes_at_bind _ _ _ _ _ _ (read_part tenant base world _ _ fun world => by rw [part_matching]) fun _ _ _ => commutes_at_pure _ _ _

theorem delete_tx_part (reference : SecretRef) (actor : String) (own : reference.tenant = tenant) :
    CommutesAt (World.part tenant base) (deleteTx platform reference actor)
      (deleteTx (platform.since base) reference actor) world := by
  refine commutes_at_bind _ _ _ _ _ _ ?_ fun gone middle _ => ?_
  · refine commutes_at_bind _ _ _ _ _ _ (bind_text_part tenant base world _) fun _ middle _ => ?_
    refine commutes_at_bind _ _ _ _ _ _ (commutes_at_read _ _ _ (part_find tenant base middle reference own)) fun found after looked => ?_
    rw [read_run, Prod.mk.injEq, Except.ok.injEq] at looked
    obtain ⟨there, rfl⟩ := looked
    cases found with
    | none => exact commutes_at_pure _ _ _
    | some row =>
        refine commutes_at_bind _ _ _ _ _ _ (commutes_at_write _ _ _ ?_) fun _ _ _ => commutes_at_pure _ _ _
        exact part_drop_secret tenant base middle row (Table.find_mem _ _ _ there)
  · cases gone with
    | none => exact commutes_at_fail _ _ _
    | some id => rw [own]; exact audit_part platform tenant base middle _ _ _

theorem atomic_part {Value : Type} (body other : Sql Value) (inner : CommutesAt (World.part tenant base) body other world) :
    CommutesAt (World.part tenant base) (atomic rollback body) (atomic rollback other) world :=
  commutes_at_atomic _ _ _ _ _ inner fun _ => rfl

theorem revoke_part (reference : SecretRef) (actor : String) (own : reference.tenant = tenant) :
    CommutesAt (World.part tenant base) (revoke platform clock reference actor)
      (revoke (platform.since base) clock reference actor) world := by
  refine atomic_part tenant base world _ _ (commutes_at_bind _ _ _ _ _ _ ?_ fun changed middle _ => ?_)
  · refine commutes_at_bind _ _ _ _ _ _ (bind_text_part tenant base world _) fun _ middle _ => ?_
    refine commutes_at_bind _ _ _ _ _ _ (commutes_at_read _ _ _ (part_find tenant base middle reference own)) fun found after _ => ?_
    cases found with
    | none => exact commutes_at_pure _ _ _
    | some row =>
        exact commutes_at_bind _ _ _ _ _ _ (commutes_at_write _ _ _ (part_revoking tenant base after reference _)) fun _ _ _ =>
          commutes_at_pure _ _ _
  · cases changed with
    | none => exact commutes_at_fail _ _ _
    | some id =>
        refine commutes_at_bind _ _ _ _ _ _ (by rw [own]; exact audit_part platform tenant base middle _ _ _) fun _ _ _ => ?_
        exact metadata_part tenant base _ _ own

theorem prepare_part (transaction : Uuid) (mutations : List Mutation) (actor : String) (later : base ≤ world.drawn) :
    CommutesAt (World.part tenant base) (prepare platform store clock tenant transaction mutations actor)
      (prepare (platform.since base) store clock tenant transaction mutations actor) world := by
  refine commutes_at_bind _ _ _ _ _ _ (commutes_at_ensure _ _ _ _) fun _ _ ensured => ?_
  obtain ⟨_, rfl⟩ := (ensure_ok _ _ _ _ _).mp ensured
  refine commutes_at_bind _ _ _ _ _ _ (commutes_at_ensure _ _ _ _) fun _ _ ensured => ?_
  obtain ⟨_, rfl⟩ := (ensure_ok _ _ _ _ _).mp ensured
  refine commutes_at_bind _ _ _ _ _ _ (commutes_at_lift _ _ _) fun _ _ lifted => ?_
  rw [lift_run, Prod.mk.injEq] at lifted
  obtain ⟨_, rfl⟩ := lifted
  refine commutes_at_bind _ _ _ _ _ _ (commutes_at_ensure _ _ _ _) fun _ _ ensured => ?_
  obtain ⟨_, rfl⟩ := (ensure_ok _ _ _ _ _).mp ensured
  refine commutes_at_bind _ _ _ _ _ _ (commutes_at_lift _ _ _) fun _ _ lifted => ?_
  rw [lift_run, Prod.mk.injEq] at lifted
  obtain ⟨_, rfl⟩ := lifted
  refine commutes_at_bind _ _ _ _ _ _ (draw_part platform tenant base world later) fun _ _ _ => ?_
  refine commutes_at_bind _ _ _ _ _ _ (crypto_part tenant base _ _ _) fun _ _ _ => ?_
  refine commutes_at_bind _ _ _ _ _ _ (purge_part clock tenant base _) fun _ _ _ => ?_
  refine commutes_at_bind _ _ _ _ _ _ (bind_text_part tenant base _ _) fun _ _ _ => ?_
  refine commutes_at_bind _ _ _ _ _ _ (commutes_at_ensure _ _ _ _) fun _ _ _ => ?_
  refine commutes_at_bind _ _ _ _ _ _ (commutes_at_ensure _ _ _ _) fun _ _ _ => ?_
  exact commutes_at_attempt _ _ _ _ (part_insert_prepared tenant base _ _ rfl)

theorem abort_part (transaction : Uuid) : CommutesAt (World.part tenant base) (abort store clock tenant transaction)
      (abort store clock tenant transaction) world := by
  refine commutes_at_bind _ _ _ _ _ _ ?_ fun affected _ _ => commutes_at_ensure _ _ _ _
  refine commutes_at_bind _ _ _ _ _ _ (bind_text_part tenant base world _) fun _ middle _ => ?_
  refine commutes_at_bind _ _ _ _ _ _ (commutes_at_read _ _ _ (by rw [part_held])) fun found after _ => ?_
  cases found with
  | none => exact commutes_at_pure _ _ _
  | some row =>
      exact commutes_at_bind _ _ _ _ _ _ (commutes_at_write _ _ _ (part_drop_prepared tenant base after transaction)) fun _ _ _ =>
        commutes_at_pure _ _ _

end Others

section Commits
variable (platform : Platform) (store : PostgresStore) (clock : Clock) (tenant : String) (base : Nat) (world : World) (limit : Nat)
  (distinct : Distinct platform limit)
include distinct

theorem mutation_part (records : SecretRef → Option Record) (matched : RecordsMatch platform records world)
    (ids : IdsDrawn platform world) (later : base ≤ world.drawn) (actor : String) (mutation : Mutation) (own : mutation.reference.tenant = tenant)
    (last : (applyMutation platform store clock actor mutation world).2.drawn < limit) :
    CommutesAt (World.part tenant base) (applyMutation platform store clock actor mutation)
      (applyMutation (platform.since base) store clock actor mutation) world := by
  have room : world.drawn < limit := spending_mutation platform store clock limit actor mutation world last
  have fresh := ids_fresh platform limit world distinct ids room
  cases mutation with
  | put secret =>
      exact commutes_at_bind _ _ _ _ _ _ (put_tx_part platform store clock tenant base world records matched fresh secret actor later own)
        fun _ _ _ => commutes_at_pure _ _ _
  | delete reference => exact commutes_at_map_error _ _ _ _ _ (delete_tx_part platform tenant base world reference actor own)

theorem mutations_part (records : SecretRef → Option Record) (matched : RecordsMatch platform records world)
    (ids : IdsDrawn platform world) (later : base ≤ world.drawn) (actor : String) (mutations : List Mutation)
    (own : ∀ mutation ∈ mutations, mutation.reference.tenant = tenant)
    (last : (forEach (applyMutation platform store clock actor) mutations world).2.drawn < limit) :
    CommutesAt (World.part tenant base) (forEach (applyMutation platform store clock actor) mutations)
      (forEach (applyMutation (platform.since base) store clock actor) mutations) world := by
  refine commutes_at_for_each _ world _ _ mutations
    (fun world => (∃ records, RecordsMatch platform records world) ∧ IdsDrawn platform world ∧ base ≤ world.drawn)
    (fun world : World => world.drawn < limit)
    (fun mutation _ => spending_mutation platform store clock limit actor mutation) ?_ ?_ ⟨⟨records, matched⟩, ids, later⟩ last
  · rintro mutation member before ⟨⟨records, matched⟩, ids, later⟩ room
    exact mutation_part platform store clock tenant base before limit distinct records matched ids later actor mutation
      (own mutation member) room
  · rintro mutation _ before done after ⟨⟨records, matched⟩, ids, later⟩ ran
    exact ⟨⟨_, (records_match_mutation platform records before after store clock matched actor mutation done ran).1⟩,
      ids_drawn_mutation platform store clock before after ids actor mutation done ran,
      Nat.le_trans later (mutation_grows platform store clock before after actor mutation done ran)⟩

theorem commit_tx_part (records : SecretRef → Option Record) (matched : RecordsMatch platform records world)
    (ids : IdsDrawn platform world) (later : base ≤ world.drawn) (transaction : Uuid)
    (own : ∀ row expiry mutations, world.prepared.find (tenant, transaction) = some row →
      BatchOpens platform store row expiry mutations → ∀ mutation ∈ mutations, mutation.reference.tenant = tenant)
    (last : (commitTx platform store clock tenant transaction world).2.drawn < limit) :
    CommutesAt (World.part tenant base) (commitTx platform store clock tenant transaction)
      (commitTx (platform.since base) store clock tenant transaction) world := by
  refine commutes_at_bind _ _ _ _ _ _ ?_ fun found middle taken => ?_
  · refine commutes_at_bind _ _ _ _ _ _ (bind_text_part tenant base world _) fun _ middle _ => ?_
    refine commutes_at_bind _ _ _ _ _ _ (commutes_at_read _ _ _ (part_held tenant base middle transaction _)) fun found after _ => ?_
    cases found with
    | none => exact commutes_at_pure _ _ _
    | some row =>
        exact commutes_at_bind _ _ _ _ _ _ (commutes_at_write _ _ _ (part_drop_prepared tenant base after transaction)) fun _ _ _ =>
          commutes_at_pure _ _ _
  rw [commitTx, bind_of_ok _ _ _ _ _ taken] at last
  obtain ⟨_, held, rfl⟩ := take_prepared_ok _ _ _ _ _ _ taken
  cases found with
  | none => exact commutes_at_fail _ _ _
  | some row =>
      refine commutes_at_bind _ _ _ _ _ _ (crypto_part tenant base _ _ _) fun batch middle cleared => ?_
      dsimp only at last
      rw [bind_of_ok _ _ _ _ _ cleared] at last
      obtain ⟨opened, rfl⟩ := (crypto_ok _ _ _ _ _).mp cleared
      have there := ((held_some _ _ _ _ _).mp held).1
      have address : row.tenant = tenant ∧ row.id = transaction := by
        simpa [PreparedRow.address] using Table.find_key _ _ _ there
      cases split : splitExpiry batch with
      | none => exact commutes_at_fail _ _ _
      | some pair =>
          rw [split] at last
          dsimp only at last ⊢
          split
          · exact commutes_at_pure _ _ _
          · rename_i unexpired
            rw [if_neg unexpired] at last
            rw [show (platform.since base).codec = platform.codec from rfl]
            cases decoded : platform.codec.fromSlice pair.2 with
            | none => exact commutes_at_fail _ _ _
            | some mutations =>
                rw [decoded] at last
                dsimp only at last ⊢
                have opens : BatchOpens platform store row pair.1 mutations :=
                  ⟨batch, pair.2, by rw [address.1, address.2]; exact opened, split, decoded⟩
                refine commutes_at_bind_bounded _ _ (fun world : World => world.drawn < limit) _ _ _ _ (fun _ =>
                  within_bind (spending limit) _ _ (spending_audit platform limit _ _ _ _) fun _ => within_pure _ _) last
                  (fun between => ?_) fun _ after _ _ => ?_
                · exact mutations_part platform store clock tenant base (world.dropPrepared tenant transaction) limit distinct records
                    (records_match_same _ _ world _ rfl rfl matched) ids later row.actor mutations
                    (own row pair.1 mutations there opens) between
                · exact commutes_at_bind _ _ _ _ _ _ (audit_part platform tenant base after _ _ _) fun _ _ _ => commutes_at_pure _ _ _

theorem commit_part (ledger : Ledger) (sound : Sound platform ledger world) (later : base ≤ world.drawn) (transaction : Uuid)
    (last : (commit platform store clock tenant transaction world).2.drawn < limit) :
    CommutesAt (World.part tenant base) (commit platform store clock tenant transaction)
      (commit (platform.since base) store clock tenant transaction) world := by
  refine commutes_at_bind _ _ _ _ _ _ (purge_part clock tenant base world) fun _ middle purged => ?_
  rw [commit, bind_of_ok _ _ _ _ _ purged] at last
  obtain ⟨_, rfl⟩ := (purge_expired_ok _ _ _ _ _).mp purged
  refine commutes_at_bind_bounded _ _ (fun world : World => world.drawn < limit) _ _ _ _ (fun _ => within_ensure _ _ _) last
    (fun between => ?_) fun _ _ _ _ => commutes_at_ensure _ _ _ _
  refine atomic_part tenant base _ _ _ ?_
  have inner : (commitTx platform store clock tenant transaction (world.purged tenant clock.statement)).2.drawn < limit := by
    rw [atomic] at between
    cases ran : commitTx platform store clock tenant transaction (world.purged tenant clock.statement) with
    | mk outcome after =>
        rw [ran] at between
        cases outcome <;> exact between
  refine commit_tx_part platform store clock tenant base (world.purged tenant clock.statement) limit distinct ledger.records
    (records_match_same _ _ world _ rfl rfl sound.represents.records) sound.ids later transaction ?_ inner
  intro row expiry mutations found opens
  obtain ⟨batch, known, held⟩ := sound.represents.batches _ row (fewer_purged _ _ _ _ _ found)
  obtain ⟨_, rfl⟩ := batch_held_opens platform store _ batch row expiry mutations (Table.find_key _ _ _ found) held opens
  exact sound.batches _ batch known

theorem perform_part (ledger : Ledger) (sound : Sound platform ledger world) (later : base ≤ world.drawn) (call : StoreCall)
    (own : call.tenant = tenant)
    (last : (call.perform platform store clock world).2.drawn < limit) :
    CommutesAt (World.part tenant base) (call.perform platform store clock)
      (call.perform (platform.since base) store clock) world := by
  have room : world.drawn < limit := spending_perform platform store clock limit call world last
  have fresh := ids_fresh platform limit world distinct sound.ids room
  cases call with
  | put input =>
      exact atomic_part tenant base world _ _
        (put_tx_part platform store clock tenant base world ledger.records sound.represents.records fresh input _ later own)
  | get reference => exact get_part store tenant base world reference own
  | existsActive reference => exact exists_part tenant base world reference own
  | delete reference actor => exact atomic_part tenant base world _ _ (delete_tx_part platform tenant base world reference actor own)
  | revoke reference actor => exact revoke_part platform clock tenant base world reference actor own
  | list other owner =>
      cases own
      exact list_part other base world owner
  | prepare other transaction mutations actor =>
      cases own
      exact prepare_part platform store clock other base world transaction mutations actor later
  | commit other transaction =>
      cases own
      exact commit_part platform store clock other base world limit distinct ledger sound later transaction last
  | abort other transaction =>
      cases own
      exact abort_part store clock other base world transaction

end Commits
end Secrets
