import Secrets.RemoteAgreement

set_option autoImplicit false

namespace Secrets

open Effects Effects.Tx Programs Tables Storage
open Framing (Bytes)

-- What a get of the reference would hand out.
def PostgresStore.holds (store : PostgresStore) (world : World) (reference : SecretRef) : Option Bytes :=
  (world.readable reference).bind fun found =>
    (store.keyring.decryptValue reference found.1.currentVersion found.1.disclosure found.2.envelope).toOption

theorem still_rel {Value : Type} (frame : Frame World) (body : Sql Value) (reads : Within still body) :
    Within frame body := by
  intro before
  have same : (body before).2 = before := reads before
  rw [same]
  exact frame.refl before

section Values
variable (platform : Platform) (store : PostgresStore) (clock : Clock) (before after : World)

theorem readable_record (world : World) (reference : SecretRef) : world.readable reference =
    (world.record reference).bind fun record => (record.2 record.1.currentVersion).bind fun version =>
      if record.1.state = .active then some (record.1, version) else none := by
  unfold World.readable World.record World.currentVersion
  cases world.secrets.find reference with
  | none => rfl
  | some row => cases current : world.versions.find (row.id, row.currentVersion) <;> simp [current]

theorem holds_record (reference : SecretRef) (same : after.record reference = before.record reference) :
    store.holds after reference = store.holds before reference := by
  rw [PostgresStore.holds, PostgresStore.holds, readable_record, readable_record, same]

theorem holds_some (reference : SecretRef) (value : Bytes) (held : store.holds before reference = some value) :
    ∃ row version, before.readable reference = some (row, version) ∧
      store.keyring.decryptValue reference row.currentVersion row.disclosure version.envelope = .ok value := by
  obtain ⟨⟨row, version⟩, readable, opened⟩ := Option.bind_eq_some_iff.mp held
  refine ⟨row, version, readable, ?_⟩
  cases outcome : store.keyring.decryptValue reference row.currentVersion row.disclosure version.envelope with
  | error reason =>
      dsimp only at opened
      rw [outcome] at opened
      cases opened
  | ok shown =>
      dsimp only at opened
      rw [outcome] at opened
      cases opened
      rfl

theorem holds_active (address : Address) (value : Bytes) (held : store.holds before (Remote.reference address) = some value) :
    before.active address := by
  obtain ⟨row, version, readable, _⟩ := holds_some store before _ value held
  obtain ⟨found, active, _⟩ := readable_row before _ row version readable
  exact ⟨row, found, active⟩

theorem holds_absent (reference : SecretRef) (unknown : before.secrets.find reference = none) :
    store.holds before reference = none := by
  have unreadable : before.readable reference = none := by
    rw [World.readable, unknown]
  rw [PostgresStore.holds, unreadable]
  rfl

theorem get_holds (reference : SecretRef) (stored : StoredSecret) (ran : get store reference before = (.ok stored, after)) :
    store.holds before reference = some stored.value := by
  obtain ⟨row, version, readable, _, opened⟩ := get_ok store reference stored before after ran
  rw [PostgresStore.holds, readable]
  dsimp only [Option.bind]
  rw [opened]
  rfl

theorem put_holds (input : PutSecret) (actor : String) (metadata : SecretMetadata)
    (done : PutDone platform store clock input actor before after metadata) :
    store.holds after input.reference = some input.value := by
  obtain ⟨_, disclosure, state, version, _⟩ := put_row_fields platform before clock input
  have found := (done.secrets input.reference).trans (if_pos rfl)
  have written : (putRow platform clock input before).id = (putPlace platform input before).1 := by
    unfold putRow SecretRow.over putPlace nextVersion
    cases before.secrets.find input.reference <;> rfl
  have current : after.currentVersion (putRow platform clock input before) =
      some ⟨(putPlace platform input before).1, (putPlace platform input before).2, putEnvelope platform store input before⟩ := by
    rw [World.currentVersion, written, version, done.versions]
    exact if_pos rfl
  have opened : store.keyring.decryptValue input.reference (putPlace platform input before).2 input.disclosure
      (putEnvelope platform store input before) = .ok input.value := by
    refine (open_ok _ _ _ _).mpr ⟨store.keyring.activeKey, store.keyring.get_active, ?_⟩
    exact envelope_of_sealed _ _ _ _
  have readable : after.readable input.reference = some (putRow platform clock input before,
      ⟨(putPlace platform input before).1, (putPlace platform input before).2, putEnvelope platform store input before⟩) := by
    simp only [World.readable, found, current, if_pos state]
  rw [PostgresStore.holds, readable]
  dsimp only [Option.bind]
  rw [version, disclosure, opened]
  rfl

end Values

-- Whatever a request does to a record, it leaves it alone, removes it, or leaves
-- it with a value to be read.
structure Settles (store : PostgresStore) (before after : World) : Prop where
  keyed : after.KeyedById
  each : ∀ reference, after.record reference = before.record reference ∨ after.secrets.find reference = none ∨
    ∃ value, store.holds after reference = some value

theorem record_find (before after : World) (reference : SecretRef) (same : after.record reference = before.record reference) :
    after.secrets.find reference = before.secrets.find reference := by
  have rows := congrArg (Option.map Prod.fst) same
  simpa [World.record, Option.map_map, Function.comp_def] using rows

def settling (store : PostgresStore) : Frame World where
  rel before after := before.KeyedById → Settles store before after
  refl _ keyed := ⟨keyed, fun _ => .inl rfl⟩
  trans first middle last start finish keyed := by
    refine ⟨(finish (start keyed).keyed).keyed, fun reference => ?_⟩
    rcases (finish (start keyed).keyed).each reference with same | gone | held
    · rcases (start keyed).each reference with before | gone | ⟨value, held⟩
      · exact .inl (same.trans before)
      · exact .inr (.inl ((record_find middle last reference same).trans gone))
      · exact .inr (.inr ⟨value, (holds_record store middle last reference same).trans held⟩)
    · exact .inr (.inl gone)
    · exact .inr (.inr held)

section Settling
variable (platform : Platform) (store : PostgresStore) (clock : Clock) (before after : World)

theorem settles_leaves (touched : SecretRef → Prop) (leaves : (leaving touched).rel before after)
    (each : ∀ reference, touched reference → after.secrets.find reference = none ∨ ∃ value, store.holds after reference = some value) :
    (settling store).rel before after := by
  intro keyed
  refine ⟨(leaves keyed).keyed, fun reference => ?_⟩
  by_cases touches : touched reference
  · exact .inr (each reference touches)
  · exact .inl ((leaves keyed).elsewhere reference touches)

theorem settles_same (secrets : after.secrets = before.secrets) (versions : after.versions = before.versions) :
    (settling store).rel before after :=
  settles_leaves store before after (fun _ => False) (leaves_same _ before after secrets versions) fun _ none => none.elim

theorem settles_put (input : PutSecret) (actor : String) (metadata : SecretMetadata)
    (done : PutDone platform store clock input actor before after metadata) : (settling store).rel before after := by
  refine settles_leaves store before after (fun reference => input.reference = reference)
    (leaves_put platform store clock _ input actor before after metadata done rfl) fun reference same => ?_
  subst same
  exact .inr ⟨input.value, put_holds platform store clock before after input actor metadata done⟩

theorem settles_delete (reference : SecretRef) (actor : String) (done : Unit)
    (ran : deleteTx platform reference actor before = (.ok done, after)) : (settling store).rel before after := by
  refine settles_leaves store before after (fun other => reference = other)
    (leaves_delete platform _ before after reference actor done rfl ran) fun other same => ?_
  subst same
  obtain ⟨_, _, _, row, found, rfl⟩ := (delete_tx_ok platform reference actor done before after).mp ran
  refine .inl ?_
  change (before.dropSecret row).secrets.find reference = none
  rw [find_drop_secret, if_pos (Table.find_key _ _ _ found)]

theorem settles_mutation (actor : String) (mutation : Mutation) (done : Unit)
    (ran : applyMutation platform store clock actor mutation before = (.ok done, after)) : (settling store).rel before after := by
  cases mutation with
  | put secret =>
      simp only [applyMutation, bind_ok, pure_run, Prod.mk.injEq] at ran
      obtain ⟨metadata, _, stored, _, rfl⟩ := ran
      exact settles_put platform store clock _ _ secret actor metadata (put_tx_ok platform store clock secret actor _ _ _ stored)
  | delete reference =>
      exact settles_delete platform store before after reference actor done ((map_error_ok _ _ _ _ _).mp ran)

theorem settles_atomic {Value : Type} (body : Sql Value)
    (worked : ∀ value after, body before = (.ok value, after) → (settling store).rel before after) :
    (settling store).rel before (atomic rollback body before).2 := by
  cases ran : atomic rollback body before with
  | mk outcome after =>
      cases outcome with
      | ok value => exact worked value after ((atomic_ok _ _ _ _ _).mp ran)
      | error error =>
          rw [atomic_rollback _ _ _ _ ran]
          exact settles_same store _ _ rfl rfl

theorem settles_commit (tenant : String) (transaction : Uuid) :
    (settling store).rel before (commit platform store clock tenant transaction before).2 := by
  cases ran : commit platform store clock tenant transaction before with
  | mk outcome after =>
      cases outcome with
      | error error =>
          have unapplied := commit_error platform store clock tenant transaction before error after ran
          exact settles_same store _ _ unapplied.secrets unapplied.versions
      | ok done =>
          obtain ⟨row, _, mutations, applied, committed⟩ := commit_ok platform store clock tenant transaction done _ _ ran
          have looped : (settling store).rel (claimed clock tenant transaction before) applied :=
            for_each_frame (settling store) _ _ (fun _ _ => True) _ _ ()
              (fun mutation first last finished _ turn => settles_mutation platform store clock first last row.actor mutation finished turn)
              (fun _ _ _ _ _ => trivial) (fun _ _ => trivial) committed.ran
          rw [committed.rest]
          refine (settling store).trans before (claimed clock tenant transaction before) _ (settles_same store _ _ rfl rfl) ?_
          exact (settling store).trans _ applied _ looped (settles_same store _ _ rfl rfl)

end Settling

def fewerAt (place : String × Uuid) : Frame World where
  rel before after := ∀ row, after.prepared.find place = some row → before.prepared.find place = some row
  refl _ _ found := found
  trans _ _ _ start finish row found := start row (finish row found)

section Places
variable (platform : Platform) (store : PostgresStore) (clock : Clock) (before after : World) (place : String × Uuid)

theorem fewer_same (same : after.prepared = before.prepared) : (fewerAt place).rel before after := by
  intro row found
  rwa [same] at found

theorem fewer_atomic {Value : Type} (body : Sql Value)
    (worked : ∀ value after, body before = (.ok value, after) → after.prepared = before.prepared) :
    (fewerAt place).rel before (atomic rollback body before).2 := by
  cases ran : atomic rollback body before with
  | mk outcome after =>
      cases outcome with
      | ok value => exact fewer_same _ _ place (worked value after ((atomic_ok _ _ _ _ _).mp ran))
      | error error =>
          rw [atomic_rollback _ _ _ _ ran]
          exact fewer_same _ _ place rfl

theorem delete_tx_prepared (reference : SecretRef) (actor : String) (done : Unit)
    (ran : deleteTx platform reference actor before = (.ok done, after)) : after.prepared = before.prepared := by
  obtain ⟨_, _, _, row, _, rfl⟩ := (delete_tx_ok platform reference actor done before after).mp ran
  rfl

theorem mutation_prepared (actor : String) (mutation : Mutation) (done : Unit)
    (ran : applyMutation platform store clock actor mutation before = (.ok done, after)) : after.prepared = before.prepared := by
  cases mutation with
  | put secret =>
      simp only [applyMutation, bind_ok, pure_run, Prod.mk.injEq] at ran
      obtain ⟨metadata, _, stored, _, rfl⟩ := ran
      exact (put_tx_ok platform store clock secret actor _ _ _ stored).prepared
  | delete reference => exact delete_tx_prepared platform before after reference actor done ((map_error_ok _ _ _ _ _).mp ran)

theorem fewer_commit (tenant : String) (transaction : Uuid) :
    (fewerAt place).rel before (commit platform store clock tenant transaction before).2 := by
  cases ran : commit platform store clock tenant transaction before with
  | mk outcome after =>
      cases outcome with
      | error error => exact (commit_error platform store clock tenant transaction before error after ran).fewer place
      | ok done =>
          obtain ⟨row, _, mutations, applied, committed⟩ := commit_ok platform store clock tenant transaction done _ _ ran
          have looped : applied.prepared = (claimed clock tenant transaction before).prepared :=
            for_each_frame (Frame.keeping World.prepared) _ _ (fun _ _ => True) _ _ ()
              (fun mutation first last finished _ turn => mutation_prepared platform store clock first last row.actor mutation finished turn)
              (fun _ _ _ _ _ => trivial) (fun _ _ => trivial) committed.ran
          rw [committed.rest]
          intro other found
          change applied.prepared.find place = some other at found
          rw [looped] at found
          exact fewer_purged _ _ _ place other (fewer_drop _ _ _ place other found)

theorem fewer_abort (tenant : String) (transaction : Uuid) :
    (fewerAt place).rel before (abort store clock tenant transaction before).2 := by
  cases ran : abort store clock tenant transaction before with
  | mk outcome after =>
      cases outcome with
      | ok done =>
          obtain ⟨_, _, _, rfl⟩ := abort_ok store clock tenant transaction done before after ran
          exact fewer_drop _ _ _ place
      | error error =>
          rw [abort_error store clock tenant transaction before after error ran]
          exact (fewerAt place).refl before

theorem fewer_prepare (tenant : String) (transaction : Uuid) (mutations : List Mutation) (actor : String)
    (elsewhere : (tenant, transaction) ≠ place) :
    (fewerAt place).rel before (prepare platform store clock tenant transaction mutations actor before).2 := by
  cases ran : prepare platform store clock tenant transaction mutations actor before with
  | mk outcome after =>
      cases outcome with
      | error error => exact (prepare_error platform store clock tenant transaction mutations actor before error after ran).fewer place
      | ok done =>
          have made := prepare_ok platform store clock tenant transaction mutations actor done before after ran
          intro row found
          rw [made.prepared, if_neg elsewhere] at found
          exact fewer_purged _ _ _ place row found

end Places

def Client.Call.batch : Client.Call → Option (String × Uuid)
  | .prepare tenant transaction _ _ | .commit tenant transaction | .abort tenant transaction => some (tenant, transaction)
  | _ => none

section Requests
variable (custody : Custody) (token : String) (reads : custody.extractors.Reads) (call : Client.Call) (placed : call.Placed)
  (state : Serving)

theorem stored_settles (principal : Principal) :
    (settling custody.service.store).rel state.world (custody.stored principal call state).2.world := by
  cases call with
  | put input =>
      refine settles_atomic _ _ _ fun metadata after ran => ?_
      exact settles_put _ _ _ _ _ _ _ metadata (put_tx_ok _ _ _ _ _ _ _ _ ran)
  | get reference => exact still_rel _ _ (get_still _ reference) state.world
  | «exists» reference => exact still_rel _ _ (exists_still reference) state.world
  | references tenant nameSpace => exact still_rel _ _ (list_still tenant none) state.world
  | delete reference actor =>
      refine settles_atomic _ _ _ fun done after ran => ?_
      exact settles_delete _ _ _ _ reference actor done ran
  | prepare tenant transaction actor mutations =>
      have leaves := leaves_prepare custody.service.platform custody.service.store (custody.service.clocks (state.calls + 1))
        (fun _ => False) tenant transaction mutations actor state.world
      exact settles_leaves _ _ _ _ leaves fun _ none => none.elim
  | commit tenant transaction => exact settles_commit _ _ _ _ tenant transaction
  | abort tenant transaction =>
      have leaves := leaves_abort custody.service.store (custody.service.clocks (state.calls + 1)) (fun _ => False) tenant
        transaction state.world
      exact settles_leaves _ _ _ _ leaves fun _ none => none.elim

theorem stored_fewer_at (principal : Principal) (place : String × Uuid) (elsewhere : call.batch ≠ some place) :
    (fewerAt place).rel state.world (custody.stored principal call state).2.world := by
  cases call with
  | put input =>
      refine fewer_atomic _ _ _ fun metadata after ran => ?_
      exact (put_tx_ok _ _ _ _ _ _ _ _ ran).prepared
  | get reference => exact still_rel _ _ (get_still _ reference) state.world
  | «exists» reference => exact still_rel _ _ (exists_still reference) state.world
  | references tenant nameSpace => exact still_rel _ _ (list_still tenant none) state.world
  | delete reference actor =>
      refine fewer_atomic _ _ _ fun done after ran => ?_
      exact delete_tx_prepared _ _ _ reference actor done ran
  | prepare tenant transaction actor mutations =>
      exact fewer_prepare _ _ _ _ place tenant transaction mutations actor fun same => elsewhere (congrArg some same)
  | commit tenant transaction => exact fewer_commit _ _ _ _ place tenant transaction
  | abort tenant transaction => exact fewer_abort _ _ _ place tenant transaction

include reads placed

theorem send_settles : (settling custody.service.store).rel state.world (custody.send token call state).2.world := by
  rcases send_served custody token reads call placed state with ⟨_, _, _, same⟩ | ⟨principal, _, served⟩
  · rw [same]
    exact (settling custody.service.store).refl state.world
  · rw [served]
    exact stored_settles custody call state principal

theorem send_fewer (place : String × Uuid) (elsewhere : call.batch ≠ some place) :
    (fewerAt place).rel state.world (custody.send token call state).2.world := by
  rcases send_served custody token reads call placed state with ⟨_, _, _, same⟩ | ⟨principal, _, served⟩
  · rw [same]
    exact (fewerAt place).refl state.world
  · rw [served]
    exact stored_fewer_at custody call state principal place elsewhere

end Requests
end Secrets
