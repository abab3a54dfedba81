import Secrets.Runs
import Secrets.Wire

set_option autoImplicit false

namespace Secrets

open Effects Effects.Tx Tables

-- What the map says a record looks like from outside; ids and times are the
-- database's own.
structure Displays (reference : SecretRef) (record : Record) (metadata : SecretMetadata) : Prop where
  reference : metadata.reference = reference
  ownerSubject : metadata.ownerSubject = record.ownerSubject
  disclosure : metadata.disclosure = record.latest.disclosure
  state : metadata.state = record.state
  version : metadata.version = record.version
  labels : metadata.labels = record.labels

def HoldsCurrent (keyring : Keyring) (world : World) : Prop :=
  ∀ reference row version, world.secrets.find reference = some row → world.currentVersion row = some version →
    keyring.Holds version.envelope

theorem get_answer (store : PostgresStore) (reference : SecretRef) (world : World) (clean : Clean reference.parts) :
    (get store reference world).1 =
      match world.readable reference with
      | none => .error .notFound
      | some (row, version) =>
          match store.keyring.decryptValue reference row.currentVersion row.disclosure version.envelope with
          | .ok value => .ok ⟨row.metadata, value⟩
          | .error _ => .error .crypto := by
  have selected : selectReadable reference world = (.ok (world.readable reference), world) := by
    rw [selectReadable, bind_of_ok _ _ _ _ _ ((bind_text_ok _ () _ _).mpr ⟨clean, rfl⟩), read_run]
  rw [get, bind_of_ok _ _ _ _ _ selected]
  cases world.readable reference with
  | none => rfl
  | some pair =>
      obtain ⟨row, version⟩ := pair
      dsimp only
      rw [bind_run, crypto, lift_run]
      simp only [SecretRow.metadata]
      cases store.keyring.decryptValue reference row.currentVersion row.disclosure version.envelope <;> rfl

theorem shows_displays (world : World) (reference : SecretRef) (record : Record) (row : SecretRow)
    (found : world.secrets.find reference = some row) (shows : Shows world reference record row) :
    Displays reference record row.metadata :=
  ⟨Table.find_key world.secrets reference row found, shows.ownerSubject, shows.disclosure, shows.state, shows.version, shows.labels⟩

section Reads
variable (platform : Platform) (ledger : Ledger) (world : World) (represents : Represents platform ledger world)
include represents

theorem current_version (reference : SecretRef) (record : Record) (known : ledger.records reference = some record) :
    ∃ row version, world.secrets.find reference = some row ∧ Shows world reference record row ∧
      world.currentVersion row = some version ∧
      SealedAs reference row.currentVersion record.latest version.envelope := by
  obtain ⟨row, found, shows⟩ := represents.records.present reference record known
  obtain ⟨version, there, sealedAs⟩ := shows.versions _ _ record.history_latest
  refine ⟨row, version, found, shows, ?_, ?_⟩
  · rw [World.currentVersion, shows.version]
    exact there
  · rw [shows.version]
    exact sealedAs

theorem unknown_row (reference : SecretRef) (unknown : ledger.records reference = none) :
    world.secrets.find reference = none := represents.records.absent reference unknown

theorem get_active (store : PostgresStore) (reference : SecretRef) (record : Record) (clean : Clean reference.parts)
    (holds : HoldsCurrent store.keyring world) (known : ledger.records reference = some record)
    (active : record.state = .active) :
    ∃ stored, (get store reference world).1 = .ok stored ∧ stored.value = record.latest.value ∧
      Displays reference record stored.metadata := by
  obtain ⟨row, version, found, shows, current, sealedAs⟩ :=
    current_version platform ledger world represents reference record known
  have readable : world.readable reference = some (row, version) := by
    simp only [World.readable, found, current, if_pos (shows.state.trans active)]
  have opened : store.keyring.decryptValue reference row.currentVersion row.disclosure version.envelope =
      .ok record.latest.value := by
    apply holds_opens _ _ _ _ (holds reference row version found current)
    rw [shows.disclosure]
    exact sealedAs
  refine ⟨⟨row.metadata, record.latest.value⟩, ?_, rfl, shows_displays world reference record row found shows⟩
  rw [get_answer store reference world clean, readable]
  simp only [opened]

theorem get_missing (store : PostgresStore) (reference : SecretRef) (clean : Clean reference.parts)
    (missing : ∀ record, ledger.records reference = some record → record.state = .revoked) :
    (get store reference world).1 = .error .notFound := by
  have readable : world.readable reference = none := by
    cases known : ledger.records reference with
    | none => simp only [World.readable, unknown_row platform ledger world represents reference known]
    | some record =>
        obtain ⟨row, version, found, shows, current, _⟩ :=
          current_version platform ledger world represents reference record known
        have revoked : row.state ≠ .active := by
          rw [shows.state, missing record known]
          decide
        simp only [World.readable, found, current, if_neg revoked]
  rw [get_answer store reference world clean, readable]

theorem exists_answer (reference : SecretRef) (clean : Clean reference.parts) :
    (existsActive reference world).1 =
      .ok ((ledger.records reference).any fun record => decide (record.state = .active)) := by
  rw [existsActive, selectActive, bind_of_ok _ _ _ _ _ ((bind_text_ok _ () _ _).mpr ⟨clean, rfl⟩), read_run]
  cases known : ledger.records reference with
  | none => rw [unknown_row platform ledger world represents reference known]; rfl
  | some record =>
      obtain ⟨row, found, shows⟩ := represents.records.present reference record known
      rw [found]
      simp [shows.state]

def Listed (ledger : Ledger) (tenant : String) (owner : Option String) (reference : SecretRef) (record : Record) : Prop :=
  ledger.records reference = some record ∧ reference.tenant = tenant ∧
    ∀ subject, owner = some subject → record.ownerSubject = subject

theorem list_answer (tenant : String) (owner : Option String) (clean : Clean (tenant :: owner.toList)) :
    ∃ rows, (list tenant owner world).1 = .ok rows ∧ (rows.map SecretMetadata.reference).Nodup ∧
      (∀ metadata ∈ rows, ∃ record, Listed ledger tenant owner metadata.reference record ∧
        Displays metadata.reference record metadata) ∧
      (∀ reference record, Listed ledger tenant owner reference record →
        ∃ metadata ∈ rows, metadata.reference = reference) := by
  obtain ⟨rows, ran⟩ := list_total tenant owner world clean
  have rowed := (list_ok tenant owner rows world world ran).2
  refine ⟨rows, by rw [ran], list_once tenant owner rows world world ran, ?_, ?_⟩
  · intro metadata member
    obtain ⟨row, there, rfl⟩ := (rowed metadata).mp member
    obtain ⟨stored, sameTenant, sameOwner⟩ := (mem_matching world tenant owner row).mp there
    have found := Table.find_of_mem _ _ stored
    obtain ⟨record, known, shows⟩ := record_of_row platform ledger.records world represents.records _ _ found
    refine ⟨record, ⟨known, sameTenant, fun subject asked => ?_⟩,
      shows_displays world _ _ _ found shows⟩
    exact shows.ownerSubject.symm.trans (sameOwner subject asked)
  · rintro reference record ⟨known, sameTenant, sameOwner⟩
    obtain ⟨row, found, shows⟩ := represents.records.present reference record known
    have key := Table.find_key _ _ _ found
    refine ⟨row.metadata, (rowed row.metadata).mpr ⟨row, (mem_matching _ _ _ _).mpr ?_, rfl⟩, key⟩
    refine ⟨Table.find_mem _ _ _ found, by rw [key, sameTenant], fun subject asked => ?_⟩
    exact shows.ownerSubject.trans (sameOwner subject asked)

theorem put_answer (store : PostgresStore) (clock : Clock) (input : PutSecret) (metadata : SecretMetadata) (after : World)
    (ran : put platform store clock input world = (.ok metadata, after)) :
    metadata.state = .active ∧
      metadata.version = (ledger.records input.reference).elim 1 fun record => record.version + 1 := by
  rw [put, atomic_ok] at ran
  have done := put_tx_ok platform store clock input _ world after metadata ran
  obtain ⟨_, _, state, version, _⟩ := put_row_fields platform world clock input
  have number := (put_place platform ledger.records world after store clock represents.records input _ metadata done).1
  rw [done.metadata]
  refine ⟨state, ?_⟩
  change (putRow platform clock input world).currentVersion = _
  rw [version, number]
  cases ledger.records input.reference with
  | none => rfl
  | some record => simp [Record.history, Record.version]

end Reads

theorem dirty_text_refused (texts : List String) (world : World) (dirty : ¬Clean texts) :
    bindText texts world = (.error .unavailable, world) := by
  have found : texts.any hasNul = true := by simpa [Clean] using dirty
  simp [bindText, ensure, found]

theorem dirty_reads (store : PostgresStore) (reference : SecretRef) (world : World) (dirty : ¬Clean reference.parts) :
    (get store reference world).1 = .error .unavailable ∧ (existsActive reference world).1 = .error .unavailable := by
  have refused := dirty_text_refused reference.parts world dirty
  constructor
  · rw [get, selectReadable, bind_of_error _ _ _ _ _ (bind_of_error _ _ _ _ _ refused)]
  · rw [existsActive, selectActive, bind_of_error _ _ _ _ _ refused]

theorem dirty_list (tenant : String) (owner : Option String) (world : World) (dirty : ¬Clean (tenant :: owner.toList)) :
    (list tenant owner world).1 = .error .unavailable := by
  have refused := dirty_text_refused _ world dirty
  rw [list, selectSecrets, bind_of_error _ _ _ _ _ (bind_of_error _ _ _ _ _ refused)]

/-- After any calls the store is the map they made, of every text that PostgreSQL takes. -/
theorem store_refines_map (platform : Platform) (invocations : List Invocation) (reader : PostgresStore)
    (holds : HoldsCurrent reader.keyring (runAll platform invocations).1) :
    let world := (runAll platform invocations).1
    let ledger := (runAll platform invocations).2
    (∀ reference, Clean reference.parts →
      (∀ record, ledger.records reference = some record → record.state = .active →
        ∃ stored, (get reader reference world).1 = .ok stored ∧ stored.value = record.latest.value ∧
          Displays reference record stored.metadata) ∧
      ((∀ record, ledger.records reference = some record → record.state = .revoked) →
        (get reader reference world).1 = .error .notFound) ∧
      ∃ answer, (existsActive reference world).1 = .ok answer ∧
        (answer = true ↔ ∃ stored, (get reader reference world).1 = .ok stored)) ∧
    (∀ tenant owner, Clean (tenant :: owner.toList) →
      ∃ rows, (list tenant owner world).1 = .ok rows ∧ (rows.map SecretMetadata.reference).Nodup ∧
        (∀ metadata ∈ rows, ∃ record, Listed ledger tenant owner metadata.reference record ∧
          Displays metadata.reference record metadata) ∧
        (∀ reference record, Listed ledger tenant owner reference record →
          ∃ metadata ∈ rows, metadata.reference = reference)) ∧
    (∀ store clock input metadata after, put platform store clock input world = (.ok metadata, after) →
      metadata.state = .active ∧
        metadata.version = (ledger.records input.reference).elim 1 fun record => record.version + 1) ∧
    (∀ reference, ¬Clean reference.parts →
      (get reader reference world).1 = .error .unavailable ∧ (existsActive reference world).1 = .error .unavailable) ∧
    (∀ tenant owner, ¬Clean (tenant :: owner.toList) → (list tenant owner world).1 = .error .unavailable) := by
  intro world ledger
  have represents : Represents platform ledger world := run_represents platform invocations
  refine ⟨?_, list_answer platform ledger world represents, put_answer platform ledger world represents,
    fun reference dirty => dirty_reads reader reference world dirty,
    fun tenant owner dirty => dirty_list tenant owner world dirty⟩
  intro reference clean
  have present := get_active platform ledger world represents reader reference
  have missing := get_missing platform ledger world represents reader reference clean
  refine ⟨fun record known active => present record clean holds known active, missing, ?_⟩
  refine ⟨_, exists_answer platform ledger world represents reference clean, ?_⟩
  cases known : ledger.records reference with
  | none =>
      have absent := missing (by simp [known])
      simp [absent]
  | some record =>
      cases state : record.state with
      | active =>
          obtain ⟨stored, answered, _⟩ := present record clean holds known state
          simp [state, answered]
      | revoked =>
          have absent := missing (by simp [known, state])
          simp [state, absent]

theorem nul_reference_unavailable : ¬ ∀ (platform : Platform) (invocations : List Invocation) (reader : PostgresStore)
    (reference : SecretRef), HoldsCurrent reader.keyring (runAll platform invocations).1 →
    (runAll platform invocations).2.records reference = none →
    (get reader reference (runAll platform invocations).1).1 = .error .notFound := by
  intro claim
  have answered := claim countingPlatform [] Sample.oldStore ⟨"t", separator, "k"⟩ (fun _ _ _ found => by cases found) rfl
  have refused : (get Sample.oldStore ⟨"t", separator, "k"⟩ (runAll countingPlatform []).1).1 = .error .unavailable := rfl
  rw [refused] at answered
  cases answered

theorem holds_current_rows (keyring : Keyring) (world : World)
    (versions : ∀ version ∈ world.versions.rows, keyring.Holds version.envelope) : HoldsCurrent keyring world :=
  fun _ _ _ _ found => versions _ (Table.find_mem _ _ _ found)

namespace Sample

def otherReference : SecretRef := ⟨"t", "n", "other"⟩

def rotated : List Invocation :=
  [⟨oldStore, clockAt 1, .call (.put (secret .workloadOnly 1))⟩,
    ⟨oldStore, clockAt 2, .call (.prepare "t" transaction
      [.put (secret .workloadOnly 2), .put ⟨otherReference, "user:two", [3], .workloadOnly, Labels.new⟩] "operator")⟩,
    ⟨oldStore, clockAt 3, .call (.commit "t" transaction)⟩,
    ⟨oldStore, clockAt 4, .call (.revoke otherReference "user:two")⟩,
    ⟨newStore, clockAt 5, .rewrapAll "operator"⟩]

end Sample

theorem rotated_reads_back :
    (∃ stored, (get Sample.newStore Sample.reference (runAll countingPlatform Sample.rotated).1).1 = .ok stored ∧
      stored.value = [2] ∧ stored.metadata.version = 2) ∧
    (get Sample.newStore Sample.otherReference (runAll countingPlatform Sample.rotated).1).1 = .error .notFound ∧
    ∃ rows, (list "t" none (runAll countingPlatform Sample.rotated).1).1 = .ok rows ∧
      ∃ metadata ∈ rows, metadata.reference = Sample.otherReference := by
  have active : ((runAll countingPlatform Sample.rotated).2.records Sample.reference).map
      (fun record => (record.state, record.latest.value, record.version)) = some (.active, [2], 2) := by decide +kernel
  have revoked : ((runAll countingPlatform Sample.rotated).2.records Sample.otherReference).map Record.state = some .revoked := by
    decide +kernel
  have refines := store_refines_map countingPlatform Sample.rotated Sample.newStore (holds_current_rows _ _ (by decide +kernel))
  obtain ⟨record, known, shown⟩ := Option.map_eq_some_iff.mp active
  obtain ⟨other, there, gone⟩ := Option.map_eq_some_iff.mp revoked
  obtain ⟨state, value, version⟩ : record.state = .active ∧ record.latest.value = [2] ∧ record.version = 2 := by
    simpa using shown
  obtain ⟨stored, answered, same, displays⟩ := (refines.1 Sample.reference (by decide +kernel)).1 record known state
  have missing := (refines.1 Sample.otherReference (by decide +kernel)).2.1 (by
    intro found here
    cases there.symm.trans here
    exact gone)
  obtain ⟨rows, listed, _, _, every⟩ := refines.2.1 "t" none (by decide +kernel)
  refine ⟨⟨stored, answered, same.trans value, displays.version.trans version⟩, missing, rows, listed, ?_⟩
  exact every Sample.otherReference other ⟨there, rfl, fun _ asked => by cases asked⟩

end Secrets
