import Secrets.AssociatedData
import Secrets.Runs
import Secrets.Wire

set_option autoImplicit false

namespace Secrets

open Effects Effects.Tx Tables
open Framing (Bytes)

-- Every stored envelope, of versions and of batches, is under a key held.
structure HoldsAll (keyring : Keyring) (world : World) : Prop where
  versions : ∀ address version, world.versions.find address = some version → keyring.Holds version.envelope
  prepared : ∀ address row, world.prepared.find address = some row → keyring.Holds row.envelope

def Keyring.onlyActive (keyring : Keyring) : Keyring :=
  ⟨keyring.active, [(keyring.active, keyring.activeKey)], by simp⟩

def World.staleCount (world : World) (active : String) : Nat :=
  (world.versions.rows.filter fun version => decide (version.envelope.keyId ≠ active)).length

-- What a rotation should achieve, seen from the ledger of what was put.
structure Rotated (platform : Platform) (store : PostgresStore) (clock : Clock) (actor : String) (ledger : Ledger)
    (before : World) : Prop where
  count : (rewrapAll platform store clock actor before).1 = .ok (before.staleCount store.keyring.active)
  secrets : (rewrapAll platform store clock actor before).2.secrets = before.secrets
  sameRows : ∀ address, ((rewrapAll platform store clock actor before).2.versions.find address).isSome =
    (before.versions.find address).isSome
  versions : ∀ address version, (rewrapAll platform store clock actor before).2.versions.find address = some version →
    version.envelope.keyId = store.keyring.active ∧
    ∃ reference row record, ∃ index : Nat, ∃ written, before.secrets.find reference = some row ∧
      ledger.records reference = some record ∧ record.history[index]? = some written ∧
      address = (row.id, (index : Int) + 1) ∧
      store.keyring.onlyActive.decryptValue reference ((index : Int) + 1) written.disclosure version.envelope =
        .ok written.value
  batches : ∀ address row, before.prepared.find address = some row → clock.transaction < row.expiresAt →
    ∃ newer batch, (rewrapAll platform store clock actor before).2.prepared.find address = some newer ∧
      newer = row.holding newer.envelope ∧ newer.envelope.keyId = store.keyring.active ∧
      ledger.batches address = some batch ∧
      store.keyring.onlyActive.openBatch newer.tenant newer.id newer.actor newer.envelope =
        .ok (toBeBytes batch.expiresAt ++ platform.codec.toWriter batch.mutations)
  again : ∀ later operator,
    (rewrapAll platform store later operator (rewrapAll platform store clock actor before).2).1 = .ok 0

structure Rewrappable (store : PostgresStore) (actor : String) (ledger : Ledger) (before : World) : Prop where
  active : Clean [store.keyring.active]
  actor : before.staleCount store.keyring.active ≠ 0 → Clean [actor]
  disclosure : ∀ reference row record (index : Nat) written version, before.secrets.find reference = some row →
    ledger.records reference = some record → record.history[index]? = some written →
    before.versions.find (row.id, (index : Int) + 1) = some version →
    version.envelope.keyId ≠ store.keyring.active → written.disclosure = record.latest.disclosure

section Rotation
variable (platform : Platform) (store : PostgresStore) (clock : Clock) (actor : String) (ledger : Ledger) (before : World)

theorem version_written (matched : RecordsMatch platform ledger.records before) (address : Uuid × Int)
    (version : VersionRow) (found : before.versions.find address = some version) :
    ∃ reference row record, ∃ index : Nat, ∃ written, before.secrets.find reference = some row ∧
      ledger.records reference = some record ∧ record.history[index]? = some written ∧
      address = (row.id, (index : Int) + 1) ∧
      SealedAs reference ((index : Int) + 1) written version.envelope := by
  obtain ⟨reference, row, there, ids, low, high⟩ := matched.owned address version found
  obtain ⟨record, known, shows⟩ := record_of_row platform ledger.records before matched reference row there
  rw [shows.version, Record.version] at high
  have bound : (address.2 - 1).toNat < record.history.length := by
    simp only [Record.history, List.length_append, List.length_singleton]
    omega
  have number : ((address.2 - 1).toNat : Int) + 1 = address.2 := by omega
  have located : address = (row.id, ((address.2 - 1).toNat : Int) + 1) := by rw [number, ids]
  refine ⟨reference, row, record, _, _, there, known, List.getElem?_eq_getElem bound, located, ?_⟩
  obtain ⟨stored, again, sealedAs⟩ := shows.versions _ _ (List.getElem?_eq_getElem bound)
  rw [← located, found] at again
  cases again
  exact sealedAs

theorem stale_count (matched : RecordsMatch platform ledger.records before) (active : String) :
    (before.stale active).length = before.staleCount active := by
  apply join_length before.secrets.rows before.versions.rows SecretRow.id VersionRow.secretId
  · have rows : before.secrets.rows.Nodup := before.secrets.unique.of_map _
    apply rows.map_on
    intro first here second there same
    have left := Table.find_of_mem _ _ here
    have right := Table.find_of_mem _ _ there
    have refs := matched.distinct _ _ _ _ left right same
    rw [refs] at left
    exact Option.some.inj (left.symm.trans right)
  · intro version member
    obtain ⟨_, row, found, same, _⟩ := matched.owned _ _ (Table.find_of_mem _ _ member)
    exact List.mem_map.mpr ⟨row, Table.find_mem _ _ _ found, same⟩

section Possible
variable (represents : Represents platform ledger before) (holds : HoldsAll store.keyring before)
  (rewrappable : Rewrappable store actor ledger before)
include represents holds rewrappable

theorem stale_opens (entry : SecretRow × VersionRow) (member : entry ∈ before.stale store.keyring.active) :
    (∃ value, store.keyring.decryptValue entry.1.reference entry.2.version entry.1.disclosure entry.2.envelope = .ok value) ∧
      Clean [entry.1.reference.tenant, actor] ∧ platform.indexFits [entry.1.reference.tenant] = true := by
  obtain ⟨secret, version⟩ := entry
  obtain ⟨listed, _, owner, foreign⟩ := (mem_stale _ _ _).mp member
  have stored := stale_stored before _ _ member
  have row := Table.find_of_mem _ _ listed
  obtain ⟨reference, other, record, index, written, there, known, put, located, sealedAs⟩ :=
    version_written platform ledger before represents.records _ _ stored
  have ids : secret.id = other.id := congrArg Prod.fst located
  have same : secret.reference = reference := represents.records.distinct _ _ _ _ row there ids
  subst same
  cases row.symm.trans there
  have number : version.version = (index : Int) + 1 := congrArg Prod.snd located
  obtain ⟨_, again, shows⟩ := record_of_row platform ledger.records before represents.records _ _ row
  cases known.symm.trans again
  rw [located] at stored
  have disclosures := rewrappable.disclosure _ _ record index written version row known put stored foreign
  obtain ⟨valid, fits⟩ := represents.records.valid _ _ row
  refine ⟨⟨written.value, ?_⟩, ?_, fits⟩
  · apply holds_opens _ _ _ _ (holds.versions _ _ stored)
    rw [number, shows.disclosure, ← disclosures]
    exact sealedAs
  · have tenant := (valid_ref_no_nul _ valid).1
    have some : before.staleCount store.keyring.active ≠ 0 := by
      rw [← stale_count platform ledger before represents.records]
      exact fun none => absurd member (by rw [List.length_eq_zero_iff.mp none]; simp)
    have person := rewrappable.actor some
    simp only [Clean, List.any_cons, List.any_nil, Bool.or_false, Bool.or_eq_false_iff] at person ⊢
    exact ⟨by simpa [hasNul] using tenant, person⟩

theorem rewrap_versions_total :
    ∃ after, rewrapVersions platform store actor before = (.ok (before.staleCount store.keyring.active), after) := by
  let frame : Frame World := Frame.keeping fun _ => ()
  have total := for_each_total frame (rewrapRow platform store actor) (before.stale store.keyring.active)
    (fun entry _ => entry ∈ before.stale store.keyring.active) before ?_ (fun _ _ _ ready _ => ready) fun _ member => member
  · obtain ⟨last, looped⟩ := total
    refine ⟨last, ?_⟩
    rw [rewrapVersions, atomic_ok, selectStale]
    rw [bind_run, bind_of_ok _ _ _ _ _ ((bind_text_ok _ () _ _).mpr ⟨rewrappable.active, rfl⟩), read_run]
    dsimp only
    rw [bind_of_ok _ _ _ _ _ looped, pure_run, stale_count platform ledger before represents.records]
  · intro entry world member
    obtain ⟨⟨value, opened⟩, clean, fits⟩ :=
      stale_opens platform store actor ledger before represents holds rewrappable entry member
    exact ⟨_, (rewrap_row_ok platform store actor entry () world _).mpr
      ⟨value, opened, rewrappable.active, clean, fits, rfl⟩, rfl⟩

end Possible

theorem reseal_batches_total (represents : Represents platform ledger before)
    (holds : ∀ address row, before.prepared.find address = some row → store.keyring.Holds row.envelope)
    (active : Clean [store.keyring.active]) :
    ∃ after, resealBatches platform store clock before = (.ok (), after) := by
  let start := before.purgedAll clock.transaction
  have total := for_each_total (Frame.keeping fun _ => ()) (resealRow platform store)
    (start.staleBatches store.keyring.active clock.transaction)
    (fun row _ => row ∈ start.staleBatches store.keyring.active clock.transaction) start ?_
    (fun _ _ _ ready _ => ready) fun _ member => member
  · obtain ⟨last, looped⟩ := total
    refine ⟨last, ?_⟩
    rw [resealBatches, atomic_ok, deleteExpired, bind_run, write_run]
    dsimp only
    rw [selectStaleBatches, bind_run, bind_of_ok _ _ _ _ _ ((bind_text_ok _ () _ _).mpr ⟨active, rfl⟩), read_run]
    exact looped
  · intro row world member
    have listed := ((mem_stale_batches _ _ _ _).mp member).1
    have stored := fewer_purged_all before _ _ _ (Table.find_of_mem _ _ listed)
    obtain ⟨batch, _, held⟩ := represents.batches _ _ stored
    have content := held.content
    rw [← held.actor] at content
    have opened := holds_opens _ _ _ _ (holds _ _ stored) content
    refine ⟨_, (reseal_row_ok platform store row () world _).mpr ⟨_, opened, ?_, rfl⟩, rfl⟩
    have clean := held.clean
    simp only [Clean, List.any_cons, List.any_nil, Bool.or_false, Bool.or_eq_false_iff, PreparedRow.address] at active clean ⊢
    exact ⟨clean.1, active⟩

theorem rewrap_all_ok (count : Nat) (after : World)
    (ran : rewrapAll platform store clock actor before = (.ok count, after)) :
    ∃ middle, rewrapVersions platform store actor before = (.ok count, middle) ∧
      resealBatches platform store clock middle = (.ok (), after) := by
  simp only [rewrapAll, bind_ok, pure_run, Prod.mk.injEq, Except.ok.injEq] at ran
  obtain ⟨_, middle, first, _, _, second, rfl, rfl⟩ := ran
  exact ⟨middle, first, second⟩

theorem rewrap_all_run (count : Nat) (middle after : World)
    (first : rewrapVersions platform store actor before = (.ok count, middle))
    (second : resealBatches platform store clock middle = (.ok (), after)) :
    rewrapAll platform store clock actor before = (.ok count, after) := by
  rw [rewrapAll, bind_of_ok _ _ _ _ _ first, bind_of_ok _ _ _ _ _ second, pure_run]

theorem rewrap_all_total (represents : Represents platform ledger before) (holds : HoldsAll store.keyring before)
    (rewrappable : Rewrappable store actor ledger before) :
    ∃ middle after, rewrapVersions platform store actor before = (.ok (before.staleCount store.keyring.active), middle) ∧
      resealBatches platform store clock middle = (.ok (), after) := by
  obtain ⟨middle, first⟩ := rewrap_versions_total platform store actor ledger before represents holds rewrappable
  have rewrapped := rewrap_versions_keep platform store actor before
  rw [first] at rewrapped
  have matched : Represents platform ledger middle :=
    ⟨records_match_rewrapped _ _ _ _ rewrapped represents.records,
      batches_match_same platform ledger _ _ rewrapped.prepared represents.batches⟩
  have kept : ∀ address row, middle.prepared.find address = some row → store.keyring.Holds row.envelope := by
    rw [rewrapped.prepared]
    exact holds.prepared
  obtain ⟨after, second⟩ := reseal_batches_total platform store clock ledger middle matched kept rewrappable.active
  exact ⟨middle, after, first, second⟩

theorem active_freshly_sealed (envelope : Envelope) (named : envelope.keyId = store.keyring.active)
    (held : store.keyring.Holds envelope) : FreshlySealed store.keyring envelope := by
  obtain ⟨key, found, made⟩ := held
  rw [named, Keyring.get_active] at found
  cases found
  exact ⟨named, made⟩

theorem fresh_holds (keyring : Keyring) (envelope : Envelope) (fresh : FreshlySealed keyring envelope) :
    keyring.Holds envelope ∧ keyring.onlyActive.Holds envelope := by
  obtain ⟨named, made⟩ := fresh
  refine ⟨⟨keyring.activeKey, by rw [named, Keyring.get_active], made⟩, ⟨keyring.activeKey, ?_, made⟩⟩
  rw [named]
  simp [Keyring.onlyActive, Keyring.get]

theorem rewrapped_fresh (represents : Represents platform ledger before) (holds : HoldsAll store.keyring before)
    (count : Nat) (middle : World) (ran : rewrapVersions platform store actor before = (.ok count, middle))
    (address : Uuid × Int) (version : VersionRow) (found : middle.versions.find address = some version) :
    FreshlySealed store.keyring version.envelope := by
  obtain ⟨_, _, looped⟩ := rewrap_versions_ok platform store actor count before middle ran
  rcases rewrap_rows_find platform store actor _ _ _ _ looped address version found with fresh | ⟨old, unlisted⟩
  · exact fresh
  · obtain ⟨reference, row, there, ids, _⟩ := represents.records.owned address version old
    have key := Table.find_key _ _ _ old
    have listed : version.envelope.keyId = store.keyring.active := by
      by_contra foreign
      refine unlisted (row, version) ((mem_stale _ _ _).mpr
        ⟨Table.find_mem _ _ _ there, Table.find_mem _ _ _ old, ?_, foreign⟩) ?_
      · rw [ids, ← key]
        rfl
      · rw [← key, entryAddress, ids, ← key]
        rfl
    exact active_freshly_sealed store _ listed (holds.versions address version old)

theorem resealed_fresh (holds : ∀ address row, before.prepared.find address = some row → store.keyring.Holds row.envelope)
    (after : World) (ran : resealBatches platform store clock before = (.ok (), after)) (address : String × Uuid)
    (row : PreparedRow) (found : after.prepared.find address = some row) : FreshlySealed store.keyring row.envelope := by
  have looped := reseal_batches_ok platform store clock before after () ran
  have back := for_each_back _ _ (fun world => world.prepared.find address = some row)
    (FreshlySealed store.keyring row.envelope) (fun other : PreparedRow => other.address ≠ address) _ _ _
    (fun other first last finished turn there =>
      reseal_row_find platform store other first last finished turn address row there) looped found
  rcases back with fresh | ⟨old, unlisted⟩
  · exact fresh
  · have stored := fewer_purged_all before _ _ _ old
    have live : clock.transaction < row.expiresAt := by
      rw [find_purged_all, Option.filter_eq_some_iff] at old
      simpa using old.2
    have named : row.envelope.keyId = store.keyring.active := by
      by_contra foreign
      exact unlisted row ((mem_stale_batches _ _ _ _).mpr ⟨Table.find_mem _ _ _ old, foreign, live⟩)
        (Table.find_key _ _ _ old)
    exact active_freshly_sealed store _ named (holds address row stored)

theorem no_stale_left (world : World) (active : String)
    (named : ∀ address version, world.versions.find address = some version → version.envelope.keyId = active) :
    world.staleCount active = 0 := by
  rw [World.staleCount, List.length_eq_zero_iff, List.filter_eq_nil_iff]
  intro version member
  simp [named _ _ (Table.find_of_mem _ _ member)]

theorem rewrappable_rotates (represents : Represents platform ledger before) (holds : HoldsAll store.keyring before)
    (rewrappable : Rewrappable store actor ledger before) : Rotated platform store clock actor ledger before := by
  obtain ⟨middle, after, first, second⟩ :=
    rewrap_all_total platform store clock actor ledger before represents holds rewrappable
  have ran := rewrap_all_run platform store clock actor before _ middle after first second
  have rewrapped := rewrap_versions_keep platform store actor before
  rw [first] at rewrapped
  have resealed := reseal_batches_keep platform store clock middle after () second
  have finished := represents_rewrap platform store clock ledger before actor represents
  rw [ran] at finished
  have sameSecrets : after.secrets = before.secrets := resealed.secrets.trans rewrapped.secrets
  have freshVersions : ∀ address version, after.versions.find address = some version →
      FreshlySealed store.keyring version.envelope := by
    intro address version found
    rw [resealed.versions] at found
    exact rewrapped_fresh platform store actor ledger before represents holds _ middle first address version found
  have kept : ∀ address row, middle.prepared.find address = some row → store.keyring.Holds row.envelope := by
    rw [rewrapped.prepared]
    exact holds.prepared
  have freshBatches := resealed_fresh platform store clock middle kept after second
  have noneLeft := no_stale_left after store.keyring.active fun address version found => (freshVersions address version found).1
  constructor
  · rw [ran]
  · rw [ran]
    exact sameSecrets
  · intro address
    rw [ran, resealed.versions]
    exact Table.aligned_is_some _ _ _ rewrapped.versions address
  · intro address version found
    rw [ran] at found
    have fresh := freshVersions address version found
    obtain ⟨reference, row, record, index, written, there, known, put, located, sealedAs⟩ :=
      version_written platform ledger after finished.records address version found
    rw [sameSecrets] at there
    exact ⟨fresh.1, reference, row, record, index, written, there, known, put, located,
      holds_opens _ _ _ _ (fresh_holds _ _ fresh).2 sealedAs⟩
  · intro address row found live
    have start : (middle.purgedAll clock.transaction).prepared.find address = some row := by
      rw [find_purged_all, rewrapped.prepared, found]
      simpa using live
    obtain ⟨newer, renewed, columns, _⟩ := Table.aligned_some _ _ _ resealed.prepared _ _ start
    have fresh := freshBatches address newer renewed
    obtain ⟨batch, known, held⟩ := finished.batches address newer renewed
    have key := Table.find_key _ _ _ renewed
    refine ⟨newer, batch, by rw [ran]; exact renewed, columns, fresh.1, known, ?_⟩
    apply holds_opens _ _ _ _ (fresh_holds _ _ fresh).2
    rw [held.actor]
    have content := held.content
    rw [← key] at content
    exact content
  · intro later operator
    rw [ran]
    have holdsAfter : HoldsAll store.keyring after :=
      ⟨fun address version found => (fresh_holds _ _ (freshVersions address version found)).1,
        fun address row found => (fresh_holds _ _ (freshBatches address row found)).1⟩
    have again : Rewrappable store operator ledger after := by
      refine ⟨rewrappable.active, fun some => absurd noneLeft some, ?_⟩
      intro reference row record index written version _ _ _ found foreign
      exact absurd (freshVersions _ version found).1 foreign
    obtain ⟨_, last, repeated, resealedAgain⟩ :=
      rewrap_all_total platform store later operator ledger after finished holdsAfter again
    rw [rewrap_all_run platform store later operator after _ _ last repeated resealedAgain, noneLeft]

theorem rotation_needs (represents : Represents platform ledger before)
    (rotated : Rotated platform store clock actor ledger before) : Rewrappable store actor ledger before := by
  have ran : rewrapAll platform store clock actor before =
      (.ok (before.staleCount store.keyring.active), (rewrapAll platform store clock actor before).2) := by
    rw [← rotated.count]
  obtain ⟨middle, first, _⟩ := rewrap_all_ok platform store clock actor before _ _ ran
  obtain ⟨active, _, looped⟩ := rewrap_versions_ok platform store actor _ before middle first
  have visited := for_each_visits _ _ _ _ _ looped
  refine ⟨active, ?_, ?_⟩
  · intro some
    rw [← stale_count platform ledger before represents.records] at some
    obtain ⟨entry, member⟩ := List.exists_mem_of_length_pos (Nat.pos_of_ne_zero some)
    obtain ⟨start, stop, done, turn⟩ := visited entry member
    obtain ⟨_, _, _, clean, _⟩ := (rewrap_row_ok platform store actor entry done start stop).mp turn
    simp only [Clean, List.any_cons, List.any_nil, Bool.or_false, Bool.or_eq_false_iff] at clean ⊢
    exact clean.2
  · intro reference row record index written version there known put found foreign
    have member : (row, version) ∈ before.stale store.keyring.active := by
      have key := Table.find_key _ _ _ found
      exact (mem_stale _ _ _).mpr ⟨Table.find_mem _ _ _ there, Table.find_mem _ _ _ found, congrArg Prod.fst key, foreign⟩
    obtain ⟨start, stop, done, turn⟩ := visited (row, version) member
    obtain ⟨value, opened, _⟩ := (rewrap_row_ok platform store actor (row, version) done start stop).mp turn
    obtain ⟨_, again, shows⟩ := record_of_row platform ledger.records before represents.records reference row there
    cases known.symm.trans again
    obtain ⟨stored, found', sealedAs⟩ := shows.versions index written put
    cases found.symm.trans found'
    have key := Table.find_key _ _ _ found
    have number : version.version = (index : Int) + 1 := congrArg Prod.snd key
    have name : row.reference = reference := Table.find_key _ _ _ there
    have content := open_content _ _ _ _ opened
    simp only [number, name] at content
    obtain ⟨aads, _⟩ := content_unique _ _ _ _ _ content sealedAs
    rw [← shows.disclosure]
    exact (associated_data_version_disclosure _ _ _ _ _ aads).2.symm

end Rotation

/-- A rotation does what it should exactly when its own texts are ones that PostgreSQL
takes and no stale version was put under another disclosure than its record has now. -/
theorem rewrap_exact (platform : Platform) (invocations : List Invocation) (store : PostgresStore) (clock : Clock)
    (actor : String) (holds : HoldsAll store.keyring (runAll platform invocations).1) :
    Rotated platform store clock actor (runAll platform invocations).2 (runAll platform invocations).1 ↔
      Rewrappable store actor (runAll platform invocations).2 (runAll platform invocations).1 :=
  have represents := run_represents platform invocations
  ⟨rotation_needs platform store clock actor _ _ represents,
    rewrappable_rotates platform store clock actor _ _ represents holds⟩

theorem holds_all_rows (keyring : Keyring) (world : World)
    (versions : ∀ version ∈ world.versions.rows, keyring.Holds version.envelope)
    (prepared : ∀ row ∈ world.prepared.rows, keyring.Holds row.envelope) : HoldsAll keyring world :=
  ⟨fun _ _ found => versions _ (Table.find_mem _ _ _ found), fun _ _ found => prepared _ (Table.find_mem _ _ _ found)⟩

namespace Sample

def reclassified : List Invocation :=
  [⟨oldStore, clockAt 1, .call (.put (secret .workloadOnly 1))⟩, ⟨oldStore, clockAt 2, .call (.put (secret .userRevealable 2))⟩]

end Sample

theorem reclassified_stops_rotation : ¬ ∀ (platform : Platform) (invocations : List Invocation) (store : PostgresStore)
    (clock : Clock) (actor : String), HoldsAll store.keyring (runAll platform invocations).1 →
    Rotated platform store clock actor (runAll platform invocations).2 (runAll platform invocations).1 := by
  intro claim
  have holds : HoldsAll Sample.newKeyring (runAll countingPlatform Sample.reclassified).1 :=
    holds_all_rows _ _ (by decide) (by decide)
  have counted := (claim countingPlatform Sample.reclassified Sample.newStore (Sample.clockAt 3) "operator" holds).count
  have failed : (rewrapAll countingPlatform Sample.newStore (Sample.clockAt 3) "operator"
      (runAll countingPlatform Sample.reclassified).1).1 = .error .crypto := rfl
  rw [failed] at counted
  cases counted

theorem reclassified_not_rewrappable :
    ¬Rewrappable Sample.newStore "operator" (runAll countingPlatform Sample.reclassified).2
      (runAll countingPlatform Sample.reclassified).1 := by
  intro rewrappable
  have holds : HoldsAll Sample.newKeyring (runAll countingPlatform Sample.reclassified).1 :=
    holds_all_rows _ _ (by decide) (by decide)
  have counted := ((rewrap_exact countingPlatform Sample.reclassified Sample.newStore (Sample.clockAt 3) "operator"
    holds).mpr rewrappable).count
  have failed : (rewrapAll countingPlatform Sample.newStore (Sample.clockAt 3) "operator"
      (runAll countingPlatform Sample.reclassified).1).1 = .error .crypto := rfl
  rw [failed] at counted
  cases counted

end Secrets
