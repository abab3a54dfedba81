import Secrets.RequestSizes
import Secrets.Runs

set_option autoImplicit false

namespace Secrets

open Effects Effects.Tx Programs Tables Storage
open Framing (Bytes)

def World.record (world : World) (reference : SecretRef) : Option (SecretRow × (Int → Option VersionRow)) :=
  (world.secrets.find reference).map fun row => (row, fun number => world.versions.find (row.id, number))

def World.KeyedById (world : World) : Prop :=
  ∀ first row second other, world.secrets.find first = some row → world.secrets.find second = some other →
    row.id = other.id → first = second

-- Nothing is created, changed or removed but what is touched.
structure Leaves (touched : SecretRef → Prop) (before after : World) : Prop where
  keyed : after.KeyedById
  elsewhere : ∀ reference, ¬touched reference → after.record reference = before.record reference

def leaving (touched : SecretRef → Prop) : Frame World where
  rel before after := before.KeyedById → Leaves touched before after
  refl _ keyed := ⟨keyed, fun _ _ => rfl⟩
  trans _ _ _ start finish keyed :=
    ⟨(finish (start keyed).keyed).keyed, fun reference apart =>
      ((finish (start keyed).keyed).elsewhere reference apart).trans ((start keyed).elsewhere reference apart)⟩

section Leaving
variable (platform : Platform) (store : PostgresStore) (clock : Clock) (touched : SecretRef → Prop)

theorem leaves_same (before after : World) (secrets : after.secrets = before.secrets)
    (versions : after.versions = before.versions) : (leaving touched).rel before after := by
  intro keyed
  constructor
  · unfold World.KeyedById
    rw [secrets]
    exact keyed
  · intro reference _
    simp only [World.record, secrets, versions]

theorem leaves_put (input : PutSecret) (actor : String) (before after : World) (metadata : Secrets.SecretMetadata)
    (done : PutDone platform store clock input actor before after metadata) (touches : touched input.reference) :
    (leaving touched).rel before after := by
  intro keyed
  have own : ∀ reference row, before.secrets.find reference = some row → row.id = (putPlace platform input before).1 →
      reference = input.reference := by
    intro reference row found same
    have fresh := done.freshId
    unfold putPlace nextVersion at same fresh
    cases there : before.secrets.find input.reference with
    | none =>
        simp only [there] at same fresh
        exact absurd same (fresh trivial row (Table.find_mem _ _ _ found))
    | some old =>
        simp only [there] at same
        exact keyed _ _ _ _ found there same
  have written : (putRow platform clock input before).id = (putPlace platform input before).1 := by
    unfold putRow SecretRow.over putPlace nextVersion
    cases before.secrets.find input.reference <;> rfl
  constructor
  · intro first row second other found there same
    rw [done.secrets] at found there
    split at found <;> split at there
    · rename_i here too
      exact here.symm.trans too
    · rename_i here _
      cases found
      rw [← here]
      exact (own second other there (same.symm.trans written)).symm
    · rename_i _ here
      cases there
      rw [← here]
      exact own first row found (same.trans written)
    · exact keyed _ _ _ _ found there same
  · intro reference apart
    have other : ¬input.reference = reference := fun same => apart (same ▸ touches)
    simp only [World.record, done.secrets, if_neg other]
    cases found : before.secrets.find reference with
    | none => rfl
    | some row =>
        have versions : ∀ number, after.versions.find (row.id, number) = before.versions.find (row.id, number) := by
          intro number
          rw [done.versions, if_neg]
          intro same
          exact other (own reference row found (congrArg Prod.fst same).symm).symm
        simp only [Option.map_some, versions]

theorem leaves_delete (before after : World) (reference : SecretRef) (actor : String) (done : Unit)
    (touches : touched reference) (ran : deleteTx platform reference actor before = (.ok done, after)) :
    (leaving touched).rel before after := by
  obtain ⟨_, _, _, row, found, rfl⟩ := (delete_tx_ok platform reference actor done before after).mp ran
  have here : row.reference = reference := Table.find_key _ _ _ found
  intro keyed
  constructor
  · intro first one second other there elsewhere same
    change (before.dropSecret row).secrets.find _ = _ at there elsewhere
    rw [find_drop_secret] at there elsewhere
    split at there
    · cases there
    split at elsewhere
    · cases elsewhere
    exact keyed _ _ _ _ there elsewhere same
  · intro target apart
    have other : ¬row.reference = target := fun same => apart (same ▸ here ▸ touches)
    change ((before.dropSecret row).secrets.find target).map (fun kept =>
      (kept, fun number => (before.dropSecret row).versions.find (kept.id, number))) = _
    simp only [World.record, find_drop_secret, if_neg other]
    cases there : before.secrets.find target with
    | none => rfl
    | some kept =>
        have apartIds : kept.id ≠ row.id := fun same => other (here.trans (keyed _ _ _ _ there found same).symm)
        simp only [Option.map_some, find_version_drop_secret, if_neg apartIds]

theorem leaves_mutation (actor : String) (mutation : Mutation) (done : Unit) (before after : World)
    (touches : touched mutation.reference) (ran : applyMutation platform store clock actor mutation before = (.ok done, after)) :
    (leaving touched).rel before after := by
  cases mutation with
  | put secret =>
      simp only [applyMutation, bind_ok, pure_run, Prod.mk.injEq] at ran
      obtain ⟨metadata, _, stored, _, rfl⟩ := ran
      exact leaves_put platform store clock touched secret actor _ _ metadata
        (put_tx_ok platform store clock secret actor _ _ _ stored) touches
  | delete reference =>
      exact leaves_delete platform touched before after reference actor done touches ((map_error_ok _ _ _ _ _).mp ran)

theorem leaves_atomic {Value : Type} (body : Sql Value)
    (worked : ∀ before value after, body before = (.ok value, after) → (leaving touched).rel before after) :
    Within (leaving touched) (atomic rollback body) := by
  intro before
  cases ran : atomic rollback body before with
  | mk outcome after =>
      cases outcome with
      | ok value => exact worked before value after ((atomic_ok _ _ _ _ _).mp ran)
      | error error =>
          rw [atomic_rollback _ _ _ _ ran]
          exact leaves_same touched _ _ rfl rfl

theorem leaves_still {Value : Type} (body : Sql Value) (reads : Within still body) : Within (leaving touched) body := by
  intro before
  have same : (body before).2 = before := reads before
  rw [same]
  exact (leaving touched).refl before

theorem leaves_prepare (tenant : String) (transaction : Uuid) (mutations : List Mutation) (actor : String) :
    Within (leaving touched) (prepare platform store clock tenant transaction mutations actor) := by
  intro before
  cases ran : prepare platform store clock tenant transaction mutations actor before with
  | mk outcome after =>
      cases outcome with
      | ok done =>
          have prepared := prepare_ok platform store clock tenant transaction mutations actor done before after ran
          exact leaves_same touched _ _ (by rw [prepared.rest]) (by rw [prepared.rest])
      | error error =>
          have unapplied := prepare_error platform store clock tenant transaction mutations actor before error after ran
          exact leaves_same touched _ _ unapplied.secrets unapplied.versions

theorem leaves_abort (tenant : String) (transaction : Uuid) : Within (leaving touched) (abort store clock tenant transaction) := by
  intro before
  cases ran : abort store clock tenant transaction before with
  | mk outcome after =>
      cases outcome with
      | ok done =>
          obtain ⟨_, _, _, rfl⟩ := abort_ok store clock tenant transaction done before after ran
          exact leaves_same touched _ _ rfl rfl
      | error error =>
          rw [abort_error store clock tenant transaction before after error ran]
          exact (leaving touched).refl before

theorem leaves_commit (tenant : String) (transaction : Uuid) (before : World) (batch : Batch) (row : PreparedRow)
    (found : before.prepared.find (tenant, transaction) = some row) (held : BatchHeld platform (tenant, transaction) batch row)
    (touches : ∀ mutation ∈ batch.mutations, touched mutation.reference) :
    (leaving touched).rel before (commit platform store clock tenant transaction before).2 := by
  cases ran : commit platform store clock tenant transaction before with
  | mk outcome after =>
      cases outcome with
      | error error =>
          have unapplied := commit_error platform store clock tenant transaction before error after ran
          exact leaves_same touched _ _ unapplied.secrets unapplied.versions
      | ok done =>
          obtain ⟨taken, expiry, mutations, applied, done⟩ := commit_ok platform store clock tenant transaction done _ _ ran
          cases found.symm.trans done.held
          obtain ⟨_, rfl⟩ := batch_held_opens platform store _ batch row expiry mutations (Table.find_key _ _ _ found) held
            done.opens
          have looped : (leaving touched).rel (claimed clock tenant transaction before) applied :=
            for_each_frame (leaving touched) _ _ (fun (mutation : Mutation) (_ : World) => touched mutation.reference) _ _ ()
              (fun mutation first last finished ready turn =>
                leaves_mutation platform store clock touched row.actor mutation finished first last ready turn)
              (fun _ _ _ ready _ => ready) touches done.ran
          rw [done.rest]
          refine (leaving touched).trans before (claimed clock tenant transaction before) _ (leaves_same touched _ _ rfl rfl) ?_
          exact (leaving touched).trans _ applied _ looped (leaves_same touched _ _ rfl rfl)

end Leaving

def Client.Call.changes : Client.Call → List SecretRef
  | .put input => [input.reference]
  | .delete reference _ => [reference]
  | _ => []

def Client.Call.Plain (call : Client.Call) : Prop := ∀ tenant transaction, call ≠ .commit tenant transaction

def serving (touched : SecretRef → Prop) : Frame Serving where
  rel before after := (leaving touched).rel before.world after.world
  refl state := (leaving touched).refl state.world
  trans first middle last := (leaving touched).trans first.world middle.world last.world

section Sending
variable (custody : Custody) (token : String) (touched : SecretRef → Prop)

theorem stored_leaves (principal : Principal) (call : Client.Call) (plain : call.Plain)
    (touches : ∀ reference ∈ call.changes, touched reference) (state : Serving) :
    (serving touched).rel state (custody.stored principal call state).2 := by
  cases call with
  | put input =>
      refine leaves_atomic touched _ (fun before metadata after ran => ?_) state.world
      exact leaves_put _ _ _ touched _ _ before after metadata (put_tx_ok _ _ _ _ _ _ _ _ ran) (touches _ (by
        simp [Client.Call.changes]))
  | get reference => exact leaves_still touched _ (get_still _ reference) state.world
  | «exists» reference => exact leaves_still touched _ (exists_still reference) state.world
  | references tenant nameSpace => exact leaves_still touched _ (list_still tenant none) state.world
  | delete reference actor =>
      refine leaves_atomic touched _ (fun before done after ran => ?_) state.world
      exact leaves_delete _ touched before after reference actor done (touches _ (by simp [Client.Call.changes])) ran
  | prepare tenant transaction actor mutations =>
      exact leaves_prepare _ _ _ touched tenant transaction mutations actor state.world
  | commit tenant transaction => exact absurd rfl (plain tenant transaction)
  | abort tenant transaction => exact leaves_abort _ _ touched tenant transaction state.world

variable (reads : custody.extractors.Reads)
include reads

theorem send_leaves (call : Client.Call) (placed : call.Placed) (plain : call.Plain)
    (touches : ∀ reference ∈ call.changes, touched reference) (state : Serving) :
    (serving touched).rel state (custody.send token call state).2 := by
  rcases send_served custody token reads call placed state with ⟨_, _, _, same⟩ | ⟨principal, _, served⟩
  · refine leaves_same touched _ _ ?_ ?_
    · rw [same]
    · rw [same]
  · rw [served]
    exact stored_leaves custody touched principal call plain touches state

end Sending

section Operations

def Storage.Command.addresses : Command → List Address
  | .read target | .write target _ | .delete target => [target.address]
  | .rename target newName => [target.address, target.address.renamed newName]
  | .list _ => []

def Harmless (touched : SecretRef → Prop) (call : Client.Call) : Prop :=
  call.Placed ∧ call.Plain ∧ ∀ reference ∈ call.changes, touched reference

theorem call_asks (touched : SecretRef → Prop) (call : Client.Call) (harmless : Harmless touched call) :
    (Remote.call call).Asks (Harmless touched) := by
  refine ⟨harmless, fun answer => ?_⟩
  cases answer <;> trivial

theorem placed_reference (address : Address) : ∃ name : ScopeName, name.text = (Remote.reference address).tenant :=
  ⟨address.scope.tenant, rfl⟩

theorem operation_asks (transaction : Uuid) (command : Command) (single : ∀ target newName, command ≠ .rename target newName) :
    (Remote.perform transaction command).Asks
      (Harmless fun reference => ∃ address ∈ command.addresses, reference = Remote.reference address) := by
  cases command with
  | read target =>
      refine Prog.asks_bind _ _ _ (call_asks _ _ ⟨placed_reference _, fun _ _ => Client.Call.noConfusion, by
        simp [Client.Call.changes]⟩) fun stored => ?_
      refine Prog.asks_bind _ _ _ ?_ fun _ => Prog.asks_bind _ _ _ ?_ fun _ => trivial
      · unfold Prog.ensure
        split <;> trivial
      · cases (SecretValue.new stored.value).mapError fun _ => StorageError.unavailable <;> trivial
  | write target value =>
      refine Prog.asks_bind _ _ _ ?_ fun _ => ?_
      · unfold Prog.ensure
        split <;> trivial
      refine Prog.asks_bind _ _ _ (call_asks _ _ ⟨placed_reference _, fun _ _ => Client.Call.noConfusion, ?_⟩) fun _ => trivial
      rintro reference (_ | ⟨_, ⟨⟩⟩)
      exact ⟨target.address, List.mem_cons_self .., rfl⟩
  | delete target =>
      refine call_asks _ _ ⟨placed_reference _, fun _ _ => Client.Call.noConfusion, ?_⟩
      rintro reference (_ | ⟨_, ⟨⟩⟩)
      exact ⟨target.address, List.mem_cons_self .., rfl⟩
  | rename target newName => exact absurd rfl (single target newName)
  | list scope =>
      exact Prog.asks_bind _ _ _ (call_asks _ _ ⟨⟨scope.tenant, rfl⟩, fun _ _ => Client.Call.noConfusion, by
        simp [Client.Call.changes]⟩) fun _ => trivial

variable (custody : Custody) (token : String) (reads : custody.extractors.Reads)
include reads

theorem commit_leaves (touched : SecretRef → Prop) (tenant : ScopeName) (transaction : Uuid) (state : Serving) (batch : Batch)
    (row : PreparedRow) (found : state.world.prepared.find (tenant.text, transaction) = some row)
    (held : BatchHeld custody.service.platform (tenant.text, transaction) batch row)
    (touches : ∀ mutation ∈ batch.mutations, touched mutation.reference) :
    (serving touched).rel state (run (custody.send token) (Remote.commit tenant.text transaction) state).2 := by
  have committed : (serving touched).rel state (custody.send token (.commit tenant.text transaction) state).2 := by
    rcases send_served custody token reads (.commit tenant.text transaction) ⟨tenant, rfl⟩ state with
      ⟨_, _, _, same⟩ | ⟨principal, _, served⟩
    · refine leaves_same touched _ _ ?_ ?_
      · rw [same]
      · rw [same]
    · rw [served]
      exact leaves_commit _ _ _ touched tenant.text transaction state.world batch row found held touches
  rw [Remote.commit, run_ask]
  cases (custody.send token (.commit tenant.text transaction) state).1 with
  | ok done => exact committed
  | error error =>
      refine (serving touched).trans _ _ _ committed ?_
      exact send_leaves custody token touched reads (.abort tenant.text transaction) ⟨tenant, rfl⟩
        (fun _ _ => Client.Call.noConfusion) (by simp [Client.Call.changes]) _

theorem rename_leaves (transaction : Uuid) (target : Target) (newName : SecretName) (state : Serving) :
    (serving fun reference => ∃ address ∈ (Command.rename target newName).addresses, reference = Remote.reference address).rel
      state (run (custody.send token) (Remote.rename transaction target newName) state).2 := by
  let touched := fun reference => ∃ address ∈ (Command.rename target newName).addresses, reference = Remote.reference address
  have passes : ∀ (call : Client.Call) (placed : call.Placed) (plain : call.Plain) (none : call.changes = []) (before : Serving),
      (serving touched).rel before (custody.send token call before).2 := fun call placed plain none before =>
    send_leaves custody token touched reads call placed plain (by simp [none]) before
  rw [Remote.rename]
  have first := passes (.get (Remote.reference target.address)) (placed_reference _) (fun _ _ => Client.Call.noConfusion) rfl state
  rcases run_call (custody.send token) (.get (Remote.reference target.address)) _ state with ⟨_, _, ran⟩ | ⟨stored, _, ran⟩
  · rw [ran]
    exact first
  rw [ran]
  refine (serving touched).trans _ _ _ first ?_
  generalize (custody.send token (.get (Remote.reference target.address)) state).2 = second
  have asked := passes (.exists (Remote.reference (target.address.renamed newName))) (placed_reference _)
    (fun _ _ => Client.Call.noConfusion) rfl second
  rcases run_call (custody.send token) (.exists (Remote.reference (target.address.renamed newName))) _ second with
    ⟨_, _, ran⟩ | ⟨taken, _, ran⟩
  · rw [ran]
    exact asked
  rw [ran]
  refine (serving touched).trans _ _ _ asked ?_
  generalize (custody.send token (.exists (Remote.reference (target.address.renamed newName))) second).2 = third
  cases taken with
  | true => exact (serving touched).refl third
  | false =>
      change (serving touched).rel third (run (custody.send token) (Remote.call (.prepare target.address.scope.tenant.text transaction
        (Remote.owner target.address).text (Remote.moves target.address newName stored)) >>= fun _ =>
          Remote.commit target.address.scope.tenant.text transaction) third).2
      let preparing : Client.Call := .prepare target.address.scope.tenant.text transaction (Remote.owner target.address).text
        (Remote.moves target.address newName stored)
      have prepared := passes preparing ⟨target.address.scope.tenant, rfl⟩ (fun _ _ => Client.Call.noConfusion) rfl third
      rcases run_call (custody.send token) preparing (fun _ => Remote.commit target.address.scope.tenant.text transaction) third with
        ⟨_, _, ran⟩ | ⟨done, answered, ran⟩
      · rw [ran]
        exact prepared
      rw [ran]
      refine (serving touched).trans _ _ _ prepared ?_
      rcases send_served custody token reads preparing ⟨target.address.scope.tenant, rfl⟩ third with
        ⟨_, refused, _⟩ | ⟨principal, _, served⟩
      · rw [refused] at answered
        cases answered
      rw [served] at answered ⊢
      obtain ⟨finished, stored, _⟩ := stored_ok custody principal preparing third done answered
      have made := prepare_ok _ _ _ _ transaction _ _ finished _ _ stored
      refine commit_leaves custody token reads touched target.address.scope.tenant transaction _ _ _
        ((made.prepared _).trans (if_pos rfl)) (prepared_row_held _ _ _ _ _ _ _ _ _ made) ?_
      simp only [Remote.moves, List.mem_cons, List.not_mem_nil, or_false]
      rintro mutation (rfl | rfl)
      · exact ⟨target.address.renamed newName, by simp [Command.addresses], rfl⟩
      · exact ⟨target.address, by simp [Command.addresses], rfl⟩

theorem operation_leaves (transaction : Uuid) (command : Command) (state : Serving) :
    (serving fun reference => ∃ address ∈ command.addresses, reference = Remote.reference address).rel state
      (run (custody.send token) (Remote.perform transaction command) state).2 := by
  have plain := fun single => within_run (custody.send token) (serving fun reference =>
      ∃ address ∈ command.addresses, reference = Remote.reference address) _
    (fun call state harmless => send_leaves custody token _ reads call harmless.1 harmless.2.1 harmless.2.2 state)
    _ (operation_asks transaction command single) state
  cases command with
  | rename target newName => exact rename_leaves custody token reads transaction target newName state
  | read target => exact plain fun _ _ => Command.noConfusion
  | write target value => exact plain fun _ _ => Command.noConfusion
  | delete target => exact plain fun _ _ => Command.noConfusion
  | list scope => exact plain fun _ _ => Command.noConfusion

-- What was read is the record at the address's own reference.
structure Reveals (world : World) (address : Address) (revealed : Revealed) : Prop where
  record : ∃ row version, world.readable (Remote.reference address) = some (row, version) ∧
    custody.service.store.keyring.decryptValue (Remote.reference address) row.currentVersion row.disclosure
      version.envelope = .ok revealed.value.bytes ∧ revealed.version = some (Remote.version row.metadata)

theorem asked_once (call : Client.Call) (placed : call.Placed) (value : call.Value) (state : Serving)
    (answered : (custody.send token call state).1 = .ok value) :
    ∃ principal answer after, (call.asked principal).perform custody.service.platform custody.service.store
        (custody.service.clocks (state.calls + 1)) state.world = (.ok answer, after) ∧
      (custody.send token call state).2.world = after ∧ call.decode (call.replied principal answer) = .ok value := by
  rcases send_served custody token reads call placed state with ⟨_, refused, _⟩ | ⟨principal, _, served⟩
  · rw [refused] at answered
    cases answered
  · rw [served] at answered ⊢
    obtain ⟨answer, stored, decoded⟩ := stored_ok custody principal call state value answered
    exact ⟨principal, answer, _, stored, rfl, decoded⟩

theorem read_reveals (target : Target) (revealed : Revealed) (state after : Serving)
    (ran : run (custody.send token) (Remote.read target) state = (.ok revealed, after)) :
    Reveals custody state.world target.address revealed := by
  rw [Remote.read] at ran
  rcases run_call (custody.send token) (.get (Remote.reference target.address)) _ state with ⟨_, _, other⟩ | ⟨stored, answered, other⟩
  · rw [other] at ran
    cases ran
  rw [other] at ran
  obtain ⟨principal, answer, _, got, _, decoded⟩ := asked_once custody token reads (.get (Remote.reference target.address))
    (placed_reference _) stored state answered
  cases decoded
  obtain ⟨row, version, readable, shown, opened⟩ := get_ok _ _ stored _ _ got
  simp only [run_bind_ok, run_ensure, ensure_ok, run_lift, Prog.pure_done, run_done, Prod.mk.injEq, Except.ok.injEq] at ran
  obtain ⟨_, _, _, value, _, ⟨made, rfl⟩, rfl, _⟩ := ran
  refine ⟨row, version, readable, ?_, by rw [shown]⟩
  cases short : SecretValue.new stored.value with
  | error error =>
      rw [short] at made
      cases made
  | ok kept =>
      rw [short] at made
      cases made
      rw [← (secret_value_new value stored.value).mp short]
      exact opened

-- Exactly the active records of the scope, each once and sorted.
structure Lists (world : World) (scope : Scope) (listed : List Storage.SecretMetadata) : Prop where
  sorted : Sorted listed
  once : (listed.map Storage.SecretMetadata.address).Nodup
  exact : ∀ address, address ∈ listed.map Storage.SecretMetadata.address ↔
    address.scope = scope ∧ ∃ row, world.secrets.find (Remote.reference address) = some row ∧ row.state = .active

omit reads in
theorem listed_references (scope : Scope) (rows : List Secrets.SecretMetadata) :
    ((rows.filterMap (Remote.row scope)).map fun listed => Remote.reference listed.address).Sublist
      (rows.map SecretMetadata.reference) := by
  induction rows with
  | nil => exact .slnil
  | cons metadata rest ih =>
      rw [List.filterMap_cons]
      cases shown : Remote.row scope metadata with
      | none => exact .cons _ ih
      | some listed =>
          obtain ⟨address, named, rfl⟩ := Option.map_eq_some_iff.mp shown
          simp only [List.map_cons, (address_some scope metadata.reference address named).2]
          exact .cons_cons _ ih

omit reads in
theorem lists_rows (scope : Scope) (world after : World) (rows : List Secrets.SecretMetadata)
    (ran : Secrets.list scope.tenant.text none world = (.ok rows, after)) :
    Lists world scope (sort (((rows.filter fun metadata => decide (metadata.reference.nameSpace = scope.nameSpace.text)).filter
      fun metadata => decide (metadata.state = .active)).filterMap (Remote.row scope))) := by
  obtain ⟨_, rowed⟩ := list_ok scope.tenant.text none rows world after ran
  have once := list_once scope.tenant.text none rows world after ran
  constructor
  · exact sorted_sort _
  · have permuted := (sort_perm (((rows.filter fun metadata => decide (metadata.reference.nameSpace = scope.nameSpace.text)).filter
      fun metadata => decide (metadata.state = .active)).filterMap (Remote.row scope))).map Storage.SecretMetadata.address
    refine permuted.nodup_iff.mpr (List.Nodup.of_map Remote.reference ?_)
    rw [List.map_map]
    refine ((listed_references scope _).trans ?_).nodup once
    exact (List.filter_sublist.trans List.filter_sublist).map _
  · intro address
    simp only [List.mem_map, mem_sort, List.mem_filterMap, List.mem_filter, decide_eq_true_eq]
    constructor
    · rintro ⟨listed, ⟨metadata, ⟨⟨member, _⟩, active⟩, shown⟩, rfl⟩
      obtain ⟨found, named, rfl⟩ := Option.map_eq_some_iff.mp shown
      obtain ⟨within, referenced⟩ := address_some scope metadata.reference found named
      obtain ⟨row, matching, rfl⟩ := (rowed metadata).mp member
      obtain ⟨stored, _, _⟩ := (mem_matching world _ _ row).mp matching
      refine ⟨within, row, ?_, active⟩
      rw [referenced]
      exact Table.find_of_mem _ _ stored
    · rintro ⟨rfl, row, found, active⟩
      have key : row.reference = Remote.reference address := Table.find_key _ _ _ found
      refine ⟨⟨address, some (Remote.version row.metadata)⟩, ⟨row.metadata, ⟨⟨?_, ?_⟩, active⟩, ?_⟩, rfl⟩
      · refine (rowed _).mpr ⟨row, (mem_matching world _ _ row).mpr ⟨Table.find_mem _ _ _ found, ?_, by simp⟩, rfl⟩
        rw [key]
        rfl
      · change row.reference.nameSpace = _
        rw [key]
        rfl
      · change (Remote.address address.scope row.reference).map _ = _
        rw [key, (address_reference address.scope address).mpr rfl]
        rfl

theorem list_lists (scope : Scope) (listed : List Storage.SecretMetadata) (state after : Serving)
    (ran : run (custody.send token) (Remote.list scope) state = (.ok listed, after)) : Lists state.world scope listed := by
  rw [Remote.list] at ran
  rcases run_call (custody.send token) (.references scope.tenant.text scope.nameSpace.text) _ state with
    ⟨_, _, other⟩ | ⟨references, answered, other⟩
  · rw [other] at ran
    cases ran
  rw [other] at ran
  obtain ⟨principal, rows, _, got, _, decoded⟩ := asked_once custody token reads
    (.references scope.tenant.text scope.nameSpace.text) ⟨scope.tenant, rfl⟩ references state answered
  cases decoded
  cases ran
  exact lists_rows scope state.world _ rows got

theorem list_answers (scope : Scope) (state : Serving) (trusts : custody.Trusts token scope.tenant.text) :
    ∃ listed after, run (custody.send token) (Remote.list scope) state = (.ok listed, after) := by
  obtain ⟨principal, admits⟩ := trusts (.references scope.tenant.text scope.nameSpace.text) state.calls rfl
  have served := send_admitted custody token reads (.references scope.tenant.text scope.nameSpace.text) ⟨scope.tenant, rfl⟩
    (scope_fits scope) principal state admits
  have clean : Clean (scope.tenant.text :: (none : Option String).toList) := by
    have noNul : hasNul scope.tenant.text = false :=
      decide_eq_false fun member => named_not_nul _ ((scope_name_segment scope.tenant).named _ member) rfl
    simp [Clean, noNul]
  obtain ⟨rows, got⟩ := list_total scope.tenant.text none state.world clean
  rw [Remote.list, Remote.call, Prog.ask_bind, run_ask, served]
  simp only [Custody.stored, Client.Call.asked, StoreCall.perform, got]
  exact ⟨_, _, rfl⟩

end Operations

/-- Separate users share a namespace on nothing but the prefixes of their keys. -/
theorem remote_isolated (custody : Custody) (token : String) (reads : custody.extractors.Reads) (state : Serving)
    (keyed : state.world.KeyedById) :
    (∀ (transaction : Uuid) (command : Command) (reference : SecretRef),
      (∀ address ∈ command.addresses, reference ≠ Remote.reference address) →
        (run (custody.send token) (Remote.perform transaction command) state).2.world.record reference =
          state.world.record reference) ∧
    (∀ target revealed after, run (custody.send token) (Remote.read target) state = (.ok revealed, after) →
      Reveals custody state.world target.address revealed) ∧
    (∀ scope : Scope,
      (custody.Trusts token scope.tenant.text →
        ∃ listed after, run (custody.send token) (Remote.list scope) state = (.ok listed, after)) ∧
      ∀ listed after, run (custody.send token) (Remote.list scope) state = (.ok listed, after) →
        Lists state.world scope listed) ∧
    (∀ first second, Remote.reference first = Remote.reference second → first = second) ∧
    ∀ address, validateRef (Remote.reference address) = .ok () := by
  refine ⟨fun transaction command reference apart => ?_, ?_, fun scope => ⟨?_, ?_⟩, reference_injective, reference_valid⟩
  · refine (operation_leaves custody token reads transaction command state keyed).elsewhere reference ?_
    rintro ⟨address, member, same⟩
    exact apart address member same
  · exact fun target revealed after ran => read_reveals custody token reads target revealed state after ran
  · exact list_answers custody token reads scope state
  · exact fun listed after ran => list_lists custody token reads scope listed state after ran

theorem keyed_by_rows (world : World) (ids : (world.secrets.rows.map SecretRow.id).Nodup) : world.KeyedById := by
  intro first row second other found there same
  have here := Table.find_mem _ _ _ found
  have elsewhere := Table.find_mem _ _ _ there
  obtain rfl := List.inj_on_of_nodup_map ids here elsewhere same
  exact (Table.find_key _ _ _ found).symm.trans (Table.find_key _ _ _ there)

namespace Sample

def foreign : Serving := ⟨(Secrets.put countingPlatform oldStore (clockAt 1) (secret .workloadOnly 1) World.empty).2, 0⟩

def besideForeign : Serving :=
  (run (custody.send "token") (Remote.perform transaction (.write held token)) foreign).2

end Sample

theorem foreign_record_stays :
    (run (Sample.custody.send "token") (Remote.perform Sample.transaction (.rename Sample.held Sample.work))
      Sample.besideForeign).2.world.record Sample.reference = Sample.besideForeign.world.record Sample.reference ∧
    (run (Sample.custody.send "token") (Remote.perform Sample.transaction (.rename Sample.held Sample.work))
      Sample.besideForeign).1 = .ok () ∧
    (Sample.besideForeign.world.record Sample.reference).isSome = true := by
  refine ⟨?_, by decide +kernel, by decide +kernel⟩
  refine (remote_isolated Sample.custody "token" wire_reads Sample.besideForeign (keyed_by_rows _ (by decide +kernel))).1
    Sample.transaction _ _ ?_
  intro address member same
  simp only [Command.addresses, List.mem_cons, List.not_mem_nil, or_false] at member
  rcases member with rfl | rfl
  · exact absurd (congrArg SecretRef.key same) (by decide)
  · exact absurd (congrArg SecretRef.key same) (by decide)

end Secrets
