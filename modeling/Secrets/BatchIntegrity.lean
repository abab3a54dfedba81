import Secrets.Commit
import Secrets.Provenance

set_option autoImplicit false

namespace Secrets

open Effects Effects.Tx Tables
open Framing (Bytes)

-- A store under watch: every store it was before, and the prepares that
-- succeeded so far.
structure Watched where
  world : World
  past : List World
  prepared : List Preparation

namespace Watched

def start : Watched := ⟨World.empty, [], []⟩

def call (platform : Platform) (state : Watched) (invocation : Invocation) : Watched :=
  { world := (invocation.operation.perform platform invocation.store invocation.clock state.world).2
    past := state.world :: state.past
    prepared := state.prepared ++ (invocation.preparation platform state.world).toList }

def edit (state : Watched) (prepared : Table PreparedRow (String × Uuid) PreparedRow.address) : Watched :=
  { state with world := { state.world with prepared := prepared }, past := state.world :: state.past }

def saw (state : Watched) (world : World) : Prop := world ∈ state.world :: state.past

end Watched

section Outsiders
variable (platform : Platform) (service : Key → Prop) (limit : Nat)

def Withheld (key : Key) : Prop := service key ∨ ∃ count < limit, (platform.random count).dek = key

inductive Known (state : Watched) : Blob → Prop where
  | copied (world : World) (envelope : Envelope) (blob : Blob) (seen : state.saw world) (stored : Stored world envelope)
      (column : blob = envelope.ciphertext ∨ blob = envelope.wrappedKey) : Known state blob
  | raw (bytes : Bytes) : Known state (.raw bytes)
  | own (key : Key) (nonce : Nonce) (aad message : Bytes) (outside : ¬Withheld platform service limit key) :
      Known state (.sealed key nonce aad message)

def Forged (state : Watched) (row : PreparedRow) : Prop :=
  Known platform service limit state row.envelope.ciphertext ∧ Known platform service limit state row.envelope.wrappedKey

-- The runs: calls of processes that hold keys of the service, and in between any
-- change of the prepared rows.
inductive Reached : Watched → Prop where
  | start : Reached .start
  | call (state : Watched) (invocation : Invocation) (reached : Reached state)
      (keys : ∀ id key, invocation.store.keyring.get id = some key → service key)
      (fits : ∀ preparation, invocation.preparation platform state.world = some preparation → FitsU64 preparation.tenant) :
      Reached (state.call platform invocation)
  | edit (state : Watched) (prepared : Table PreparedRow (String × Uuid) PreparedRow.address) (reached : Reached state)
      (forged : ∀ row ∈ prepared.rows, Forged platform service limit state row) : Reached (state.edit prepared)

structure DataKeys : Prop where
  distinct : ∀ first second, first < limit → second < limit → (platform.random first).dek = (platform.random second).dek →
    first = second
  apart : ∀ count, count < limit → ¬service (platform.random count).dek

def Made (log : Nat → Option Seal) (sealing : Seal) : Prop := ∃ count, log count = some sealing

def Derived (log : Nat → Option Seal) (blob : Blob) : Prop :=
  ∀ key, Withheld platform service limit key → blob.madeUnder key → ColumnOf (Made log) blob

structure Accounted (state : Watched) (log : Nat → Option Seal) : Prop where
  early : ∀ count sealing, log count = some sealing → count < state.world.drawn ∧ sealing.draw = platform.random count ∧
    service sealing.keyring.activeKey
  stored : ∀ world envelope, state.saw world → Stored world envelope →
    Derived platform service limit log envelope.ciphertext ∧ Derived platform service limit log envelope.wrappedKey
  backed : ∀ sealing, Made log sealing → OfSecret sealing.aad ∨
    ∃ preparation ∈ state.prepared, sealing.aad = preparation.aad ∧ sealing.plaintext = preparation.payload platform
  honest : ∀ preparation ∈ state.prepared, FitsU64 preparation.tenant ∧ InI64 preparation.expiresAt ∧
    ∀ mutation ∈ preparation.mutations, mutation.reference.tenant = preparation.tenant

section Accounts
variable (state : Watched) (log : Nat → Option Seal)

theorem made_fresh (keys : DataKeys platform service limit) (accounted : Accounted platform service limit state log)
    (room : state.world.drawn ≤ limit) (reader : Keyring) (held : ∀ id key, reader.get id = some key → service key) :
    FreshSeals (Made log) reader := by
  have drawn : ∀ sealing, Made log sealing → ∃ count < limit, log count = some sealing ∧ sealing.draw = platform.random count := by
    rintro sealing ⟨count, made⟩
    obtain ⟨early, draw, _⟩ := accounted.early count sealing made
    exact ⟨count, Nat.lt_of_lt_of_le early room, made, draw⟩
  constructor
  · intro first second left right same
    obtain ⟨count, early, made, draw⟩ := drawn first left
    obtain ⟨other, soon, makes, draws⟩ := drawn second right
    rw [draw, draws] at same
    cases keys.distinct count other early soon same
    exact Option.some.inj (made.symm.trans makes)
  · intro sealing known id there
    obtain ⟨count, early, _, draw⟩ := drawn sealing known
    rw [draw] at there
    exact keys.apart count early (held id _ there)
  · rintro sealing known other ⟨place, makes⟩ same
    obtain ⟨count, early, _, draw⟩ := drawn sealing known
    have active := (accounted.early place other makes).2.2
    rw [same, draw] at active
    exact keys.apart count early active

theorem opens_made (keys : DataKeys platform service limit) (accounted : Accounted platform service limit state log)
    (room : state.world.drawn ≤ limit) (reader : Keyring) (held : ∀ id key, reader.get id = some key → service key)
    (envelope : Envelope) (stored : Stored state.world envelope) (aad plaintext : Bytes)
    (opened : reader.openEnvelope aad envelope = .ok plaintext) :
    ∃ sealing, Made log sealing ∧ sealing.aad = aad ∧ sealing.plaintext = plaintext := by
  obtain ⟨key, found, under⟩ := (open_ok _ _ _ _).mp opened
  obtain ⟨cipher, wrapped⟩ := accounted.stored state.world envelope (by simp [Watched.saw]) stored
  have outer : envelope.wrappedKey.madeUnder key := by
    obtain ⟨dek, made, _⟩ := under
    rw [made]
    rfl
  obtain ⟨sealing, made, aads, plaintexts, _⟩ := opened_made (Made log) reader envelope key aad plaintext
    (made_fresh platform service limit state log keys accounted room reader held)
    (wrapped key (.inl (held _ _ found)) outer) (fun sealing made under => by
      obtain ⟨count, there⟩ := made
      obtain ⟨early, draw, _⟩ := accounted.early count sealing there
      exact cipher _ (.inr ⟨count, Nat.lt_of_lt_of_le early room, by rw [draw]⟩) under) found under
  exact ⟨sealing, made, aads, plaintexts⟩

theorem derived_more (later : Nat → Option Seal) (more : ∀ sealing, Made log sealing → Made later sealing) (blob : Blob)
    (derived : Derived platform service limit log blob) : Derived platform service limit later blob := by
  intro key withheld under
  obtain ⟨sealing, made, column⟩ := derived key withheld under
  exact ⟨sealing, more sealing made, column⟩

theorem accounted_start : Accounted platform service limit .start fun _ => none := by
  constructor
  · intro count sealing made
    cases made
  · intro world envelope seen stored
    simp only [Watched.saw, Watched.start, List.mem_singleton] at seen
    subst seen
    rcases stored with ⟨_, _, found, _⟩ | ⟨_, _, found, _⟩ <;> cases found
  · rintro sealing ⟨count, made⟩
    cases made
  · intro preparation member
    cases member

theorem accounted_edit (accounted : Accounted platform service limit state log)
    (prepared : Table PreparedRow (String × Uuid) PreparedRow.address)
    (forged : ∀ row ∈ prepared.rows, Forged platform service limit state row) :
    Accounted platform service limit (state.edit prepared) log := by
  have known : ∀ blob, Known platform service limit state blob → Derived platform service limit log blob := by
    intro blob known key withheld under
    cases known with
    | copied world envelope _ seen stored column =>
        obtain ⟨cipher, wrapped⟩ := accounted.stored world envelope seen stored
        rcases column with rfl | rfl
        · exact cipher key withheld under
        · exact wrapped key withheld under
    | raw bytes => cases under
    | own used nonce aad message outside =>
        cases (show used = key from under)
        exact absurd withheld outside
  refine ⟨accounted.early, fun world envelope seen stored => ?_, accounted.backed, accounted.honest⟩
  rcases List.mem_cons.mp seen with rfl | old
  · rcases stored with ⟨address, version, found, rfl⟩ | ⟨address, row, found, rfl⟩
    · exact accounted.stored state.world _ (by simp [Watched.saw]) (.inl ⟨address, version, found, rfl⟩)
    · obtain ⟨cipher, wrapped⟩ := forged row (Table.find_mem _ _ _ found)
      exact ⟨known _ cipher, known _ wrapped⟩
  · exact accounted.stored world envelope old stored

theorem preparation_honest (invocation : Invocation) (world : World) (preparation : Preparation)
    (succeeded : invocation.preparation platform world = some preparation) : InI64 preparation.expiresAt ∧
      ∀ mutation ∈ preparation.mutations, mutation.reference.tenant = preparation.tenant := by
  obtain ⟨store, clock, operation⟩ := invocation
  unfold Invocation.preparation at succeeded
  split at succeeded
  · rename_i tenant transaction mutations actor named
    cases ran : prepare platform store clock tenant transaction mutations actor world with
    | mk outcome after =>
        rw [ran] at succeeded
        cases outcome with
        | ok done =>
            cases succeeded
            exact ⟨saturating_add_fits _ _,
              (prepare_ok platform store clock tenant transaction mutations actor done world after ran).sameTenant⟩
        | error error => cases succeeded
  · cases succeeded

theorem accounted_call (keys : DataKeys platform service limit) (accounted : Accounted platform service limit state log)
    (room : state.world.drawn ≤ limit) (invocation : Invocation)
    (held : ∀ id key, invocation.store.keyring.get id = some key → service key)
    (fits : ∀ preparation, invocation.preparation platform state.world = some preparation → FitsU64 preparation.tenant) :
    ∃ later, Accounted platform service limit (state.call platform invocation) later := by
  obtain ⟨grows, made, sources, stored⟩ := invocation_supplies platform invocation.store invocation.clock state.world _
    invocation.operation _ rfl
  have more : ∀ sealing, Made log sealing → Made (spliced state.world.drawn log made) sealing := by
    rintro sealing ⟨count, there⟩
    exact ⟨count, by rw [spliced_early _ _ _ _ (accounted.early count sealing there).1, there]⟩
  have fresh : ∀ count sealing, made count = some sealing → Made (spliced state.world.drawn log made) sealing :=
    fun count sealing there => ⟨count, by rw [spliced_late _ _ _ _ (sources count sealing there).1, there]⟩
  have kinds : ∀ sealing, Made (spliced state.world.drawn log made) sealing →
      Made log sealing ∨ ∃ count, made count = some sealing := by
    rintro sealing ⟨count, there⟩
    rcases Nat.lt_or_ge count state.world.drawn with before | since
    · exact .inl ⟨count, by rwa [spliced_early _ _ _ _ before] at there⟩
    · exact .inr ⟨count, by rwa [spliced_late _ _ _ _ since] at there⟩
  refine ⟨spliced state.world.drawn log made, ?_, ?_, ?_, ?_⟩
  · intro count sealing there
    rcases Nat.lt_or_ge count state.world.drawn with before | since
    · rw [spliced_early _ _ _ _ before] at there
      obtain ⟨early, rest⟩ := accounted.early count sealing there
      exact ⟨Nat.lt_of_lt_of_le early grows, rest⟩
    · rw [spliced_late _ _ _ _ since] at there
      obtain ⟨_, early, ring, draw, _⟩ := sources count sealing there
      exact ⟨early, draw, by rw [ring]; exact held _ _ (Keyring.get_active _)⟩
  · intro world envelope seen there
    have old : ∀ other, state.saw other → Stored other envelope →
        Derived platform service limit (spliced state.world.drawn log made) envelope.ciphertext ∧
          Derived platform service limit (spliced state.world.drawn log made) envelope.wrappedKey := fun other saw kept => by
      obtain ⟨cipher, wrapped⟩ := accounted.stored other envelope saw kept
      exact ⟨derived_more platform service limit log _ more _ cipher, derived_more platform service limit log _ more _ wrapped⟩
    rcases List.mem_cons.mp seen with rfl | earlier
    · rcases stored envelope there with kept | ⟨count, sealing, makes, rfl⟩
      · exact old state.world (by simp [Watched.saw]) kept
      · have now := fresh count sealing makes
        exact ⟨fun _ _ _ => ⟨sealing, now, .inl rfl⟩, fun _ _ _ => ⟨sealing, now, .inr rfl⟩⟩
    · exact old world earlier there
  · intro sealing there
    have known : ∀ old, Made log old → old.aad = sealing.aad → old.plaintext = sealing.plaintext →
        OfSecret sealing.aad ∨ ∃ preparation ∈ (state.call platform invocation).prepared,
          sealing.aad = preparation.aad ∧ sealing.plaintext = preparation.payload platform := fun old made aads plaintexts => by
      rw [← aads, ← plaintexts]
      exact (accounted.backed old made).imp_right fun ⟨preparation, member, same⟩ =>
        ⟨preparation, List.mem_append_left _ member, same⟩
    rcases kinds sealing there with old | ⟨count, there⟩
    · exact known sealing old rfl rfl
    · cases (sources count sealing there).2.2.2.2 with
      | secret kind => exact .inl kind
      | again resealed =>
          obtain ⟨envelope, kept, opened⟩ := resealed
          obtain ⟨old, made, aads, plaintexts⟩ := opens_made platform service limit state log keys accounted room
            invocation.store.keyring held envelope kept sealing.aad sealing.plaintext opened
          exact known old made aads plaintexts
      | prepared preparation succeeded aad plaintext =>
          exact .inr ⟨preparation,
            List.mem_append_right _ (by simp [show invocation.preparation platform state.world = _ from succeeded]), aad, plaintext⟩
  · intro preparation member
    rcases List.mem_append.mp member with old | new
    · exact accounted.honest preparation old
    · have succeeded : invocation.preparation platform state.world = some preparation := by simpa using new
      exact ⟨fits preparation succeeded, preparation_honest platform invocation state.world preparation succeeded⟩

end Accounts

theorem reached_accounted (keys : DataKeys platform service limit) (state : Watched) (reached : Reached platform service limit state)
    (room : state.world.drawn ≤ limit) : ∃ log, Accounted platform service limit state log := by
  induction reached with
  | start => exact ⟨_, accounted_start platform service limit⟩
  | call state invocation _ held fits ih =>
      have grows := drawn_grows platform invocation.store invocation.clock state.world _ invocation.operation _ rfl
      have before : state.world.drawn ≤ limit := Nat.le_trans grows room
      obtain ⟨log, accounted⟩ := ih before
      exact accounted_call platform service limit state log keys accounted before invocation held fits
  | edit state prepared _ forged ih =>
      obtain ⟨log, accounted⟩ := ih room
      exact ⟨log, accounted_edit platform service limit state log accounted prepared forged⟩

theorem opened_prepared (keys : DataKeys platform service limit) (state : Watched) (reached : Reached platform service limit state)
    (room : state.world.drawn ≤ limit) (store : PostgresStore) (held : ∀ id key, store.keyring.get id = some key → service key)
    (tenant : String) (transaction : Uuid) (fits : FitsU64 tenant) (row : PreparedRow)
    (found : state.world.prepared.find (tenant, transaction) = some row) (expiry : Int) (mutations : List Mutation)
    (opens : BatchOpens platform store row expiry mutations) :
    ∃ preparation ∈ state.prepared, preparation.tenant = tenant ∧ preparation.transaction = transaction ∧
      preparation.actor = row.actor ∧ preparation.mutations = mutations ∧ preparation.expiresAt = expiry ∧
      ∀ mutation ∈ preparation.mutations, mutation.reference.tenant = tenant := by
  obtain ⟨log, accounted⟩ := reached_accounted platform service limit keys state reached room
  obtain ⟨batch, json, opened, split, decoded⟩ := opens
  have address : row.tenant = tenant ∧ row.id = transaction := by
    simpa [PreparedRow.address] using Table.find_key _ _ _ found
  obtain ⟨sealing, made, aads, plaintexts⟩ := opens_made platform service limit state log keys accounted room store.keyring held
    row.envelope (.inr ⟨_, row, found, rfl⟩) _ batch opened
  rcases accounted.backed sealing made with ⟨reference, version, disclosure, kind⟩ | ⟨preparation, member, named, payload⟩
  · exact absurd (kind.symm.trans aads) (batch_data_separated _ _ _ _ _ _)
  · obtain ⟨tenantFits, expiryFits, own⟩ := accounted.honest preparation member
    obtain ⟨tenants, ids, actors⟩ := batch_associated_data_unique _ _ _ _ _ _ tenantFits (by rw [address.1]; exact fits)
      (named.symm.trans aads)
    rw [← plaintexts, payload, Preparation.payload, split_expiry_payload _ _ expiryFits] at split
    cases split
    rw [platform.codec.readsBack] at decoded
    cases decoded
    refine ⟨preparation, member, tenants.trans address.1, ids.trans address.2, actors, rfl, rfl, ?_⟩
    rw [← address.1, ← tenants]
    exact own

/-- Whatever outsiders write over the prepared rows, a commit applies a batch that was
prepared there, within the expiry it was sealed with, or nothing. -/
theorem commit_integrity (keys : DataKeys platform service limit) (state : Watched) (reached : Reached platform service limit state)
    (room : state.world.drawn ≤ limit) (store : PostgresStore) (held : ∀ id key, store.keyring.get id = some key → service key)
    (clock : Clock) (tenant : String) (transaction : Uuid) (fits : FitsU64 tenant) :
    (∀ after, commit platform store clock tenant transaction state.world = (.ok (), after) →
      ∃ preparation ∈ state.prepared, preparation.tenant = tenant ∧ preparation.transaction = transaction ∧
        (∀ mutation ∈ preparation.mutations, mutation.reference.tenant = tenant) ∧
        clock.transaction < preparation.expiresAt * 1000000 ∧
        ∃ applied, applyAll platform store clock preparation.actor preparation.mutations state.world = (.ok (), applied) ∧
          after.secrets = applied.secrets ∧ after.versions = applied.versions ∧
          after.auditEvents = applied.auditEvents ++ [⟨tenant, none, preparation.actor, .commitBatch⟩]) ∧
    (∀ error after, commit platform store clock tenant transaction state.world = (.error error, after) →
      after.secrets = state.world.secrets ∧ after.versions = state.world.versions ∧
        after.auditEvents = state.world.auditEvents) := by
  constructor
  · intro after ran
    obtain ⟨row, expiry, mutations, reachedTo, done⟩ := commit_ok platform store clock tenant transaction () state.world after ran
    obtain ⟨preparation, member, tenants, ids, actor, rfl, rfl, own⟩ := opened_prepared platform service limit keys state reached
      room store held tenant transaction fits row done.held expiry mutations done.opens
    have looped := done.ran
    have blind := apply_all_prepared platform store clock row.actor (claimed clock tenant transaction state.world).prepared
      preparation.mutations state.world
    rw [← claimed_with_prepared, ← for_each_apply_all, looped] at blind
    cases applied : applyAll platform store clock row.actor preparation.mutations state.world with
    | mk outcome world =>
        rw [applied] at blind
        obtain ⟨rfl, rfl⟩ := Prod.mk.inj blind
        refine ⟨preparation, member, tenants, ids, own, done.sealedLive, world, by rw [actor, applied], ?_⟩
        rw [done.rest, actor]
        exact ⟨rfl, rfl, rfl⟩
  · intro error after ran
    have kept := commit_error platform store clock tenant transaction state.world error after ran
    exact ⟨kept.secrets, kept.versions, kept.auditEvents⟩

end Outsiders
namespace Sample

def serviceKey (key : Key) : Prop := key = Sample.key 201 ∨ key = Sample.key 202

theorem service_keys (id : String) (key : Key) (held : oldKeyring.get id = some key) : serviceKey key := by
  have listed := Keyring.get_mem _ _ _ held
  simp only [oldKeyring, List.mem_singleton, Prod.mk.injEq] at listed
  exact .inl listed.2

theorem counting_keys : DataKeys countingPlatform serviceKey 3 := by
  have early : ∀ count, count < 3 → count = 0 ∨ count = 1 ∨ count = 2 := by omega
  constructor
  · intro first second low high same
    rcases early first low with rfl | rfl | rfl <;> rcases early second high with rfl | rfl | rfl <;>
      first | rfl | exact absurd same (by decide)
  · intro count low service
    rcases early count low with rfl | rfl | rfl <;> rcases service with same | same <;> exact absurd same (by decide)

theorem fits_tenant : FitsU64 "t" := by
  unfold FitsU64
  decide

def preparing : Invocation := ⟨oldStore, clockAt 1, .call (.prepare "t" transaction shortLived "user:one")⟩

def prolonged : Table PreparedRow (String × Uuid) PreparedRow.address :=
  ⟨[{ heldRow shortLived with expiresAt := 9000000000 }], by decide⟩

def tampered : Watched := (Watched.start.call countingPlatform preparing).edit prolonged

set_option maxRecDepth 8000 in
theorem tampered_reached : Reached countingPlatform serviceKey 3 tampered := by
  refine .edit _ _ (.call _ _ .start service_keys fun preparation succeeded => ?_) fun row member => ?_
  · cases (show some (Preparation.mk "t" transaction shortLived "user:one" 601) = some preparation from succeeded)
    exact fits_tenant
  · have whole : row = { heldRow shortLived with expiresAt := 9000000000 } := by simpa [prolonged] using member
    subst whole
    have there : Stored (Watched.start.call countingPlatform preparing).world (heldRow shortLived).envelope :=
      .inr ⟨("t", transaction), heldRow shortLived, rfl, rfl⟩
    exact ⟨.copied _ _ _ (by simp [Watched.saw]) there (.inl rfl), .copied _ _ _ (by simp [Watched.saw]) there (.inr rfl)⟩

end Sample

set_option maxRecDepth 8000 in
theorem prolonged_batch_commits :
    ∃ preparation ∈ Sample.tampered.prepared, preparation.mutations = Sample.shortLived ∧ (2 : Int) * 1000000 < preparation.expiresAt * 1000000 := by
  have exactly := commit_integrity countingPlatform Sample.serviceKey 3 Sample.counting_keys Sample.tampered
    Sample.tampered_reached (by decide) Sample.oldStore Sample.service_keys (Sample.clockAt 2) "t" Sample.transaction Sample.fits_tenant
  obtain ⟨after, ran⟩ : ∃ after, commit countingPlatform Sample.oldStore (Sample.clockAt 2) "t" Sample.transaction
      Sample.tampered.world = (.ok (), after) := ⟨_, rfl⟩
  obtain ⟨preparation, member, _, _, _, live, _⟩ := exactly.1 after ran
  refine ⟨preparation, member, ?_, live⟩
  have only : Sample.tampered.prepared = [⟨"t", Sample.transaction, Sample.shortLived, "user:one", 601⟩] := rfl
  rw [only, List.mem_singleton] at member
  rw [member]

end Secrets
