import Secrets.RemoteRuns

set_option autoImplicit false

namespace Secrets

open Effects Effects.Tx Programs Tables Storage

def World.active (world : World) (address : Address) : Prop :=
  ∃ row, world.secrets.find (Remote.reference address) = some row ∧ row.state = .active

def World.revoked (world : World) (address : Address) : Prop :=
  ∃ row, world.secrets.find (Remote.reference address) = some row ∧ row.state = .revoked

section Steps
variable {State Value : Type} (perform : (call : Client.Call) → State → call.Answer × State)

theorem run_call_error (call : Client.Call) (next : call.Value → Remote.Operation Value) (state : State) (error : Client.Error)
    (answered : (perform call state).1 = .error error) :
    run perform (Remote.call call >>= next) state = (.error (Remote.refusal error), (perform call state).2) := by
  rw [Remote.call, Prog.ask_bind, run_ask, answered]
  rfl

theorem run_call_ok (call : Client.Call) (next : call.Value → Remote.Operation Value) (state : State) (value : call.Value)
    (answered : (perform call state).1 = .ok value) :
    run perform (Remote.call call >>= next) state = run perform (next value) (perform call state).2 := by
  rw [Remote.call, Prog.ask_bind, run_ask, answered]
  rfl

end Steps

section Stored
variable (custody : Custody) (principal : Principal) (call : Client.Call) (state : Serving)

theorem stored_error (error : StoreError) (after : World)
    (ran : (call.asked principal).perform custody.service.platform custody.service.store
      (custody.service.clocks (state.calls + 1)) state.world = (.error error, after)) :
    custody.stored principal call state = (.error error.seen, ⟨after, state.calls + 2⟩) := by
  unfold Custody.stored
  dsimp only
  rw [ran]
  exact congrArg (·, _) (respond_store call error)

theorem stored_answer (answer : (call.asked principal).Answer) (after : World)
    (ran : (call.asked principal).perform custody.service.platform custody.service.store
      (custody.service.clocks (state.calls + 1)) state.world = (.ok answer, after)) :
    custody.stored principal call state = (call.decode (call.replied principal answer), ⟨after, state.calls + 2⟩) := by
  unfold Custody.stored
  dsimp only
  rw [ran]
  rfl

end Stored

section Clean

theorem scope_name_clean (name : ScopeName) : hasNul name.text = false :=
  decide_eq_false fun member => named_not_nul _ ((scope_name_segment name).named _ member) rfl

theorem reference_clean (address : Address) : Clean (Remote.reference address).parts := by
  obtain ⟨tenant, nameSpace, key⟩ := valid_ref_no_nul _ (reference_valid address)
  simp only [Clean, SecretRef.parts, List.any_cons, List.any_nil, Bool.or_false, Bool.or_eq_false_iff, hasNul,
    decide_eq_false_iff_not]
  exact ⟨tenant, nameSpace, key⟩

end Clean

theorem readable_row (world : World) (reference : SecretRef) (row : SecretRow) (version : VersionRow)
    (readable : world.readable reference = some (row, version)) :
    world.secrets.find reference = some row ∧ row.state = .active ∧ world.currentVersion row = some version := by
  unfold World.readable at readable
  split at readable
  · cases readable
  · rename_i found
    split at readable
    · cases readable
    · rename_i current
      split at readable
      · rename_i active
        cases readable
        exact ⟨found, active, current⟩
      · cases readable

theorem exists_run (world : World) (address : Address) : existsActive (Remote.reference address) world =
    (.ok ((world.secrets.find (Remote.reference address)).any fun row => decide (row.state = .active)), world) := by
  rw [existsActive, selectActive, bind_of_ok _ _ _ _ _ ((bind_text_ok _ () _ _).mpr ⟨reference_clean address, rfl⟩), read_run]

section Found
variable (platform : Platform) (world : World) (kept : Kept platform world) (address : Address)
include kept

theorem readable_active : (∃ pair, world.readable (Remote.reference address) = some pair) ↔ world.active address := by
  obtain ⟨⟨ledger, represents⟩, _⟩ := kept
  constructor
  · rintro ⟨⟨row, version⟩, readable⟩
    obtain ⟨found, active, _⟩ := readable_row world _ row version readable
    exact ⟨row, found, active⟩
  · rintro ⟨row, found, active⟩
    obtain ⟨record, known, _⟩ := record_of_row platform ledger.records world represents.records _ row found
    obtain ⟨other, version, there, _, current, _⟩ := current_version platform ledger world represents _ record known
    cases found.symm.trans there
    exact ⟨(row, version), by simp only [World.readable, found, current, if_pos active]⟩

theorem unreadable_inactive : world.readable (Remote.reference address) = none ↔ ¬world.active address := by
  rw [← readable_active platform world kept address, Option.eq_none_iff_forall_ne_some]
  simp

end Found

section Operations
variable (custody : Custody) (token tenant : String) (drawn : Nat) (serves : custody.Serves token tenant drawn)
include serves

theorem sent_missing (call : Client.Call) (placed : call.Placed) (own : call.tenant = tenant)
    (short : call.body.length ≤ bodyLimit) (state : Serving) :
    ∃ principal, (custody.send token call state).1 = .error .notFound ↔
      ∃ error, ((call.asked principal).perform custody.service.platform custody.service.store
        (custody.service.clocks (state.calls + 1)) state.world).1 = .error error ∧ Missing error := by
  obtain ⟨principal, sent⟩ := send_stored custody token tenant drawn serves call placed own short state
  refine ⟨principal, ?_⟩
  rw [sent]
  cases ran : (call.asked principal).perform custody.service.platform custody.service.store
    (custody.service.clocks (state.calls + 1)) state.world with
  | mk outcome after =>
      cases outcome with
      | ok answer =>
          rw [stored_answer custody principal call state answer after ran]
          cases call <;> simp [Client.Call.decode, Client.Call.replied]
      | error error =>
          rw [stored_error custody principal call state error after ran]
          simp [seen_missing]

variable (state : Serving) (kept : Kept custody.service.platform state.world) (address : Address)
  (own : address.scope.tenant.text = tenant)
include own kept

theorem get_sent : (custody.send token (.get (Remote.reference address)) state).1 = .error .notFound ↔
    ¬state.world.active address := by
  obtain ⟨principal, sent⟩ := sent_missing custody token tenant drawn serves (.get (Remote.reference address))
    (placed_reference _) own (reference_fits address) state
  rw [sent, ← unreadable_inactive _ _ kept address]
  change (∃ error, (get custody.service.store (Remote.reference address) state.world).1 = .error error ∧ Missing error) ↔ _
  rw [get_answer custody.service.store _ _ (reference_clean address)]
  cases state.world.readable (Remote.reference address) with
  | none => simp [Missing]
  | some pair =>
      simp only [reduceCtorEq, iff_false, not_exists, not_and]
      intro error failed
      split at failed
      · cases failed
      · cases failed
        simp [Missing]

theorem read_missing (locator : Option Locator) :
    (run (custody.send token) (Remote.read ⟨address, locator⟩) state).1 = .error .notFound ↔ ¬state.world.active address := by
  rw [← get_sent custody token tenant drawn serves state kept address own, Remote.read]
  cases answered : (custody.send token (.get (Remote.reference address)) state).1 with
  | error error =>
      rw [run_call_error _ _ _ _ error answered]
      cases error <;> simp [Remote.refusal]
  | ok stored =>
      rw [run_call_ok _ _ _ _ stored answered]
      obtain ⟨_, answer, _, got, _, decoded⟩ := asked_once custody token serves.reads (.get (Remote.reference address))
        (placed_reference _) stored state answered
      cases decoded
      obtain ⟨row, version, readable, shown, _⟩ := get_ok _ _ stored _ _ got
      -- The record that is found is the one that was asked for.
      have same : stored.metadata.reference = Remote.reference address := by
        have found := (readable_row _ _ row version readable).1
        have key : row.reference = Remote.reference address := Table.find_key _ _ _ found
        rw [shown]
        exact key
      simp only [reduceCtorEq, iff_false, same, decide_true, Prog.ensure, if_true, Prog.done_bind]
      unfold SecretValue.new
      split <;> simp [Prog.lift, Except.mapError]

omit kept in
theorem delete_missing (locator : Option Locator) :
    (run (custody.send token) (Remote.delete ⟨address, locator⟩) state).1 = .error .notFound ↔
      state.world.secrets.find (Remote.reference address) = none := by
  let call : Client.Call := .delete (Remote.reference address) (Remote.owner address).text
  have short : call.body.length ≤ bodyLimit := delete_fits address
  have asked : (run (custody.send token) (Remote.delete ⟨address, locator⟩) state).1 = .error .notFound ↔
      (custody.send token call state).1 = .error .notFound := by
    change (run (custody.send token) (Remote.call call) state).1 = _ ↔ _
    rw [Remote.call, run_ask]
    cases answered : (custody.send token call state).1 with
    | ok value => simp
    | error error => cases error <;> simp [Remote.refusal]
  obtain ⟨principal, sent⟩ := sent_missing custody token tenant drawn serves call (placed_reference _) own short state
  rw [asked, sent]
  change (∃ error, (atomic rollback (deleteTx custody.service.platform (Remote.reference address) (Remote.owner address).text)
    state.world).1 = .error error ∧ Missing error) ↔ _
  constructor
  · rintro ⟨error, failed, missing⟩
    cases found : state.world.secrets.find (Remote.reference address) with
    | none => rfl
    | some row =>
        cases ran : atomic rollback (deleteTx custody.service.platform (Remote.reference address) (Remote.owner address).text)
          state.world with
        | mk outcome after =>
            rw [ran] at failed
            cases failed
            obtain ⟨middle, ran, _⟩ := (atomic_error _ _ _ _ _).mp ran
            exact absurd missing (delete_tx_found _ _ _ _ _ row error found ran)
  · intro unknown
    refine ⟨.notFound, ?_, by simp [Missing]⟩
    rw [atomic, delete_tx_missing _ _ _ _ (reference_clean address) unknown]

omit kept in
theorem list_missing :
    (∃ listed, (run (custody.send token) (Remote.list address.scope) state).1 = .ok listed ∧
      address ∉ listed.map Storage.SecretMetadata.address) ↔ ¬state.world.active address := by
  obtain ⟨listed, after, ran⟩ := list_answers custody token serves.reads address.scope state (own ▸ serves.trusts)
  have lists := (list_lists custody token serves.reads address.scope listed state after ran).exact address
  rw [ran]
  constructor
  · rintro ⟨_, ⟨⟩, absent⟩ active
    exact absent (lists.mpr ⟨rfl, active⟩)
  · intro inactive
    exact ⟨listed, rfl, fun member => inactive (lists.mp member).2⟩

omit own kept in
theorem index_entries_fit : custody.service.platform.indexFits (Remote.reference address).parts = true ∧
    custody.service.platform.indexFits [(Remote.reference address).tenant, (Remote.owner address).text] = true ∧
      custody.service.platform.indexFits [(Remote.reference address).tenant] = true := by
  have size := reference_size address
  have owner := scope_name_size (Remote.owner address)
  unfold SecretRef.size maxSegmentBytes maxNameBytes at size
  unfold maxSegmentBytes at owner
  refine ⟨serves.fits _ ?_, serves.fits _ ?_, serves.fits _ ?_⟩
  · simp only [SecretRef.parts, List.map_cons, List.map_nil, List.sum_cons, List.sum_nil]
    omega
  · simp only [List.map_cons, List.map_nil, List.sum_cons, List.sum_nil]
    omega
  · simp only [List.map_cons, List.map_nil, List.sum_cons, List.sum_nil]
    omega

def Creates (outcome : Except StorageError Storage.Written) : Prop := ∃ version, outcome = .ok (.created version)

theorem write_creates (locator : Option Locator) (value : SecretValue) (short : value.bytes.length ≤ Remote.maxValueBytes)
    (same : drawn = state.world.drawn) :
    Creates (run (custody.send token) (Remote.write ⟨address, locator⟩ value) state).1 ↔
      state.world.secrets.find (Remote.reference address) = none := by
  subst same
  obtain ⟨⟨ledger, represents⟩, ids⟩ := kept
  let input := Remote.put (Remote.reference address) (Remote.owner address).text value.bytes .workloadOnly Labels.new
  obtain ⟨principal, sent⟩ := send_stored custody token tenant _ serves (.put input) (placed_reference _) own
    (write_fits address value.bytes short) state
  let stored : PutSecret :=
    { input with ownerSubject := if input.ownerSubject.isEmpty then principal.subject else input.ownerSubject }
  have written : run (custody.send token) (Remote.write ⟨address, locator⟩ value) state =
      run (custody.send token) (Remote.call (.put input) >>= fun metadata =>
        pure (if metadata.version = 1 then Storage.Written.created (some (Remote.version metadata))
          else .replaced (some (Remote.version metadata)))) state := by
    rw [Remote.write, Prog.ensure, if_pos (decide_eq_true short)]
    rfl
  rw [written]
  constructor
  · rintro ⟨version, created⟩
    cases answered : (custody.send token (.put input) state).1 with
    | error error =>
        rw [run_call_error _ _ _ _ error answered] at created
        cases created
    | ok metadata =>
        rw [run_call_ok _ _ _ _ metadata answered] at created
        rw [sent] at answered
        obtain ⟨answer, ran, decoded⟩ := stored_ok custody principal (.put input) state metadata answered
        cases decoded
        obtain ⟨_, number⟩ := put_answer custody.service.platform ledger state.world represents custody.service.store _ stored
          metadata _ ran
        -- A record that is there has a version to continue.
        cases known : ledger.records (Remote.reference address) with
        | none => exact represents.records.absent _ known
        | some record =>
            have counted : metadata.version = record.version + 1 := by
              rw [number, show stored.reference = Remote.reference address from rfl, known]
              rfl
            have later : metadata.version ≠ 1 := by
              rw [counted, Record.version]
              omega
            simp only [if_neg later, Prog.pure_done, run_done] at created
            cases created
  · intro unknown
    have ownerText : stored.ownerSubject = (Remote.owner address).text := by
      have some : (Remote.owner address).text.isEmpty = false := by
        have nonempty := (scope_name_segment (Remote.owner address)).nonempty
        simpa using nonempty
      change (if (Remote.owner address).text.isEmpty then principal.subject else (Remote.owner address).text) = _
      rw [some, if_neg Bool.false_ne_true]
    have cleanOwner := scope_name_clean (Remote.owner address)
    have insertable : Insertable custody.service.platform custody.service.store state.world stored stored.ownerSubject := by
      constructor
      · exact reference_valid address
      · exact unknown
      · exact ids_fresh _ _ _ serves.distinct ids (Nat.lt_succ_self _)
      · intro place version found
        obtain ⟨reference, row, there, same, _⟩ := represents.records.owned place version found
        exact ⟨reference, row, there, same⟩
      · have cleanRef := reference_clean address
        rw [ownerText]
        simp only [Clean, List.any_append, List.any_cons, Bool.or_eq_false_iff] at cleanRef ⊢
        exact ⟨cleanRef, cleanOwner, rfl⟩
      · exact serves.cleanKeyId
      · rw [ownerText]
        simp [Clean, cleanOwner]
      · exact (index_entries_fit custody token tenant _ serves address).1
      · rw [ownerText]
        exact (index_entries_fit custody token tenant _ serves address).2.1
      · exact (index_entries_fit custody token tenant _ serves address).2.2
    obtain ⟨metadata, reached, ran⟩ := put_tx_total custody.service.platform custody.service.store
      (custody.service.clocks (state.calls + 1)) state.world stored stored.ownerSubject insertable
    have put := (atomic_ok rollback _ _ _ _).mpr ran
    have answered : (custody.send token (.put input) state).1 = .ok metadata := by
      rw [sent, stored_answer custody principal (.put input) state metadata reached put]
      rfl
    have first : metadata.version = 1 := by
      obtain ⟨_, number⟩ := put_answer custody.service.platform ledger state.world represents custody.service.store _ stored
        metadata _ put
      have unseen : ledger.records stored.reference = none := by
        cases known : ledger.records stored.reference with
        | none => rfl
        | some record =>
            obtain ⟨row, found, _⟩ := represents.records.present _ record known
            exact absurd (found.symm.trans unknown) (by simp)
      rw [number, unseen]
      rfl
    rw [run_call_ok _ _ _ _ metadata answered, if_pos first]
    exact ⟨_, rfl⟩

omit own kept in
theorem get_passes (own : address.scope.tenant.text = tenant) :
    (custody.send token (.get (Remote.reference address)) state).2 = ⟨state.world, state.calls + 2⟩ := by
  obtain ⟨principal, sent⟩ := send_stored custody token tenant drawn serves (.get (Remote.reference address))
    (placed_reference _) own (reference_fits address) state
  have same : (get custody.service.store (Remote.reference address) state.world).2 = state.world := get_still _ _ _
  rw [sent]
  exact congrArg (fun world => Serving.mk world (state.calls + 2)) same

omit kept in
theorem exists_sent : ∃ taken, custody.send token (.exists (Remote.reference address)) state =
    (.ok taken, ⟨state.world, state.calls + 2⟩) ∧ (taken = true ↔ state.world.active address) := by
  obtain ⟨principal, sent⟩ := send_stored custody token tenant drawn serves (.exists (Remote.reference address))
    (placed_reference _) own (reference_fits address) state
  let taken := (state.world.secrets.find (Remote.reference address)).any fun row => decide (row.state = .active)
  refine ⟨taken, ?_, ?_⟩
  · rw [sent, stored_answer custody principal (.exists (Remote.reference address)) state taken _ (exists_run state.world address)]
    rfl
  · unfold World.active taken
    cases state.world.secrets.find (Remote.reference address) <;> simp

def Remote.place (transaction : Uuid) (address : Address) (newName : SecretName) (stored : StoredSecret) : Remote.Operation Unit :=
  Remote.call (.prepare address.scope.tenant.text transaction (Remote.owner address).text (Remote.moves address newName stored)) >>=
    fun _ => Remote.commit address.scope.tenant.text transaction

omit serves own kept in
theorem rename_run (transaction : Uuid) (locator : Option Locator) (newName : SecretName) (before : Serving)
    (stored : StoredSecret) (taken : Bool) (middle after : Serving)
    (got : custody.send token (.get (Remote.reference address)) before = (.ok stored, middle))
    (asked : custody.send token (.exists (Remote.reference (address.renamed newName))) middle = (.ok taken, after)) :
    run (custody.send token) (Remote.rename transaction ⟨address, locator⟩ newName) before =
      if taken then (.error .conflict, after)
      else run (custody.send token) (Remote.place transaction address newName stored) after := by
  rw [Remote.rename]
  dsimp only
  rw [run_call_ok _ _ _ _ stored (by rw [got]), got, run_call_ok _ _ _ _ taken (by rw [asked]), asked]
  cases taken <;> rfl

omit serves own kept in
theorem place_not_conflict (transaction : Uuid) (newName : SecretName) (stored : StoredSecret) (before : Serving) :
    (run (custody.send token) (Remote.place transaction address newName stored) before).1 ≠ .error .conflict := by
  rw [Remote.place]
  rcases run_call (custody.send token) (.prepare address.scope.tenant.text transaction (Remote.owner address).text
    (Remote.moves address newName stored)) (fun _ => Remote.commit address.scope.tenant.text transaction) before with
    ⟨error, _, ran⟩ | ⟨done, _, ran⟩
  · rw [ran]
    exact fun same => refusal_not_conflict error (Except.error.inj same)
  · rw [ran, Remote.commit, run_ask]
    cases (custody.send token (.commit address.scope.tenant.text transaction) _).1 with
    | ok done => simp
    | error error =>
        rw [run_ask, run_stop]
        exact fun same => refusal_not_conflict error (Except.error.inj same)

omit serves own kept in
theorem moves_found (newName : SecretName) (stored : StoredSecret) (actor : String) (clock : Clock) (world : World)
    (there : world.active address) (free : ¬world.active (address.renamed newName)) (error : StoreError) (failed : World)
    (ran : applyAll custody.service.platform custody.service.store clock actor (Remote.moves address newName stored) world =
      (.error error, failed)) : ¬Missing error := by
  obtain ⟨row, found, active⟩ := there
  have apart : Remote.reference (address.renamed newName) ≠ Remote.reference address := by
    intro same
    exact free ⟨row, by rw [same]; exact found, active⟩
  simp only [Remote.moves, applyAll] at ran
  cases put : putTx custody.service.platform custody.service.store clock (Remote.put (Remote.reference (address.renamed newName))
    (Remote.owner address).text stored.value stored.metadata.disclosure stored.metadata.labels) actor world with
  | mk outcome middle =>
      rw [put] at ran
      cases outcome with
      | error own =>
          cases ran
          exact put_tx_found _ _ _ _ _ _ _ _ put
      | ok metadata =>
          dsimp only at ran
          have done := put_tx_ok _ _ _ _ _ _ _ _ put
          have still : middle.secrets.find (Remote.reference address) = some row := by
            rw [done.secrets]
            exact (if_neg apart).trans found
          cases deleted : deleteTx custody.service.platform (Remote.reference address) actor middle with
          | mk outcome last =>
              rw [deleted] at ran
              cases outcome with
              | ok done => cases ran
              | error own =>
                  have missed := delete_tx_found _ _ _ _ _ row own still deleted
                  split at ran
                  · rename_i same
                    cases same
                  · rename_i same
                    cases same
                    exact absurd (.inl rfl) missed
                  · rename_i same
                    cases same
                    cases ran
                    exact missed

omit kept in
theorem place_found (transaction : Uuid) (newName : SecretName) (stored : StoredSecret) (there : state.world.active address)
    (free : ¬state.world.active (address.renamed newName)) :
    (run (custody.send token) (Remote.place transaction address newName stored) state).1 ≠ .error .notFound := by
  let preparing : Client.Call := .prepare address.scope.tenant.text transaction (Remote.owner address).text
    (Remote.moves address newName stored)
  let committing : Client.Call := .commit address.scope.tenant.text transaction
  have placed : ∃ name : ScopeName, name.text = address.scope.tenant.text := ⟨address.scope.tenant, rfl⟩
  rw [Remote.place]
  by_cases short : preparing.body.length ≤ bodyLimit
  · obtain ⟨principal, sent⟩ := send_stored custody token tenant drawn serves preparing placed own short state
    rcases run_call (custody.send token) preparing (fun _ => Remote.commit address.scope.tenant.text transaction) state with
      ⟨error, answered, ran⟩ | ⟨done, answered, ran⟩
    · rw [ran]
      intro same
      rw [sent] at answered
      have missing := (refusal_missing error).mp (Except.error.inj same)
      subst missing
      cases prepared : prepare custody.service.platform custody.service.store (custody.service.clocks (state.calls + 1))
        address.scope.tenant.text transaction (Remote.moves address newName stored) (Remote.owner address).text state.world with
      | mk outcome after =>
          cases outcome with
          | ok finished =>
              rw [stored_answer custody principal preparing state finished after prepared] at answered
              cases answered
          | error refused =>
              rw [stored_error custody principal preparing state refused after prepared] at answered
              exact prepare_found _ _ _ _ _ _ _ _ _ _ prepared ((seen_missing refused).mp (Except.error.inj answered))
    · rw [ran]
      rw [sent] at answered ⊢
      obtain ⟨finished, prepared, _⟩ := stored_ok custody principal preparing state done answered
      have made := prepare_ok _ _ _ _ transaction _ _ finished _ _ prepared
      have calls : (custody.stored principal preparing state).2.calls = state.calls + 2 := rfl
      generalize (custody.stored principal preparing state).2 = middle at made calls ⊢
      have unchanged : middle.world.secrets = state.world.secrets := by rw [made.rest]
      have still : middle.world.active address := by
        unfold World.active
        rw [unchanged]
        exact there
      have vacant : ¬middle.world.active (address.renamed newName) := by
        unfold World.active
        rw [unchanged]
        exact free
      obtain ⟨caller, committed⟩ := send_stored custody token tenant drawn serves committing placed own (Nat.zero_le _) middle
      rw [Remote.commit, run_ask]
      cases reply : (custody.send token committing middle).1 with
      | ok finished => simp
      | error error =>
          rw [run_ask, run_stop]
          intro same
          rw [committed] at reply
          have missing := (refusal_missing error).mp (Except.error.inj same)
          subst missing
          cases outcome : commit custody.service.platform custody.service.store (custody.service.clocks (middle.calls + 1))
            address.scope.tenant.text transaction middle.world with
          | mk result after =>
              cases result with
              | ok finished =>
                  rw [stored_answer custody caller committing middle finished after outcome] at reply
                  cases reply
              | error refused =>
                  rw [stored_error custody caller committing middle refused after outcome] at reply
                  have missed := (seen_missing refused).mp (Except.error.inj reply)
                  refine commit_found _ _ _ _ _ _ _ _ _ ((made.prepared _).trans (if_pos rfl))
                    (prepared_row_held _ _ _ _ _ _ _ _ _ made) ?_ refused ?_ outcome missed
                  · rw [calls]
                    exact serves.prompt (state.calls + 1)
                  · exact moves_found custody address newName stored _ _ _ still vacant
  · rw [run_call_error _ _ _ _ .refused (by rw [send_oversized custody token preparing short state])]
    simp [Remote.refusal]

theorem rename_missing (transaction : Uuid) (locator : Option Locator) (newName : SecretName) :
    (run (custody.send token) (Remote.rename transaction ⟨address, locator⟩ newName) state).1 = .error .notFound ↔
      ¬state.world.active address := by
  have got := get_sent custody token tenant drawn serves state kept address own
  have passed := get_passes custody token tenant drawn serves state address own
  cases answered : (custody.send token (.get (Remote.reference address)) state).1 with
  | error error =>
      rw [← got, Remote.rename]
      dsimp only
      rw [run_call_error _ _ _ _ error answered, answered]
      cases error <;> simp [Remote.refusal]
  | ok stored =>
      have there : state.world.active address := by
        by_contra inactive
        exact absurd ((got.mpr inactive).symm.trans answered) (by simp)
      obtain ⟨taken, asked, exact⟩ := exists_sent custody token tenant drawn serves ⟨state.world, state.calls + 2⟩
        (address.renamed newName) own
      rw [rename_run custody token address transaction locator newName state stored taken _ _ (Prod.ext answered passed) asked]
      cases taken with
      | true => simp [there]
      | false =>
          have free : ¬state.world.active (address.renamed newName) := fun held => by simpa using exact.mpr held
          have found := place_found custody token tenant drawn serves ⟨state.world, state.calls + 2 + 2⟩ address own transaction
            newName stored there free
          simp only [Bool.false_eq_true, if_false]
          exact iff_of_false found (fun inactive => inactive there)

omit kept in
theorem rename_taken (transaction : Uuid) (locator : Option Locator) (newName : SecretName) (revealed : Revealed)
    (held : (run (custody.send token) (Remote.read ⟨address, locator⟩) state).1 = .ok revealed) :
    (run (custody.send token) (Remote.rename transaction ⟨address, locator⟩ newName) state).1 = .error .conflict ↔
      state.world.active (address.renamed newName) := by
  have passed := get_passes custody token tenant drawn serves state address own
  obtain ⟨taken, asked, exact⟩ := exists_sent custody token tenant drawn serves ⟨state.world, state.calls + 2⟩
    (address.renamed newName) own
  cases answered : (custody.send token (.get (Remote.reference address)) state).1 with
  | error error =>
      rw [Remote.read] at held
      dsimp only at held
      rw [run_call_error _ _ _ _ error answered] at held
      cases held
  | ok stored =>
      rw [rename_run custody token address transaction locator newName state stored taken _ _ (Prod.ext answered passed) asked,
        ← exact]
      cases taken with
      | true => simp
      | false => simp [place_not_conflict custody token address transaction newName stored]

end Operations
-- The six answers that tell whether something is stored at an address, each for
-- every argument it takes besides.
structure OperationsAgree (custody : Custody) (token : String) (state : Serving) (address : Address) : Prop where
  read : ∀ locator, (run (custody.send token) (Remote.read ⟨address, locator⟩) state).1 = .error .notFound ↔
    (run (custody.send token) (Remote.read (.unbound address)) state).1 = .error .notFound
  list : (∃ listed, (run (custody.send token) (Remote.list address.scope) state).1 = .ok listed ∧
      address ∉ listed.map Storage.SecretMetadata.address) ↔
    (run (custody.send token) (Remote.read (.unbound address)) state).1 = .error .notFound
  write : ∀ locator value, value.bytes.length ≤ Remote.maxValueBytes →
    (Creates (run (custody.send token) (Remote.write ⟨address, locator⟩ value) state).1 ↔
      (run (custody.send token) (Remote.read (.unbound address)) state).1 = .error .notFound)
  delete : ∀ locator, (run (custody.send token) (Remote.delete ⟨address, locator⟩) state).1 = .error .notFound ↔
    (run (custody.send token) (Remote.read (.unbound address)) state).1 = .error .notFound
  rename : ∀ transaction locator newName,
    (run (custody.send token) (Remote.rename transaction ⟨address, locator⟩ newName) state).1 = .error .notFound ↔
      (run (custody.send token) (Remote.read (.unbound address)) state).1 = .error .notFound
  onto : ∀ transaction other locator revealed, other.scope = address.scope → other ≠ address →
    (run (custody.send token) (Remote.read ⟨other, locator⟩) state).1 = .ok revealed →
      ((run (custody.send token) (Remote.rename transaction ⟨other, locator⟩ address.name) state).1 ≠ .error .conflict ↔
        (run (custody.send token) (Remote.read (.unbound address)) state).1 = .error .notFound)

theorem renamed_name (other address : Address) (same : other.scope = address.scope) : other.renamed address.name = address := by
  obtain ⟨scope, name⟩ := address
  obtain ⟨_, _⟩ := other
  cases same
  rfl

/-- An address agrees with itself exactly while its record is not revoked: a revoked record
is gone to a read, a list and a rename, and there to a write and a delete. -/
theorem operations_agree_exact (custody : Custody) (token : String) (acts : List Act) (address : Address)
    (serves : custody.Serves token address.scope.tenant.text (custody.after acts).world.drawn) :
    OperationsAgree custody token (custody.after acts) address ↔ ¬(custody.after acts).world.revoked address := by
  have kept := kept_after custody acts
  generalize custody.after acts = state at kept serves ⊢
  have reads := fun locator => read_missing custody token _ _ serves state kept address rfl locator
  have deletes := fun locator => delete_missing custody token _ _ serves state address rfl locator
  constructor
  · rintro agree ⟨row, found, gone⟩
    have inactive : ¬state.world.active address := by
      rintro ⟨other, there, active⟩
      cases found.symm.trans there
      exact absurd (gone.symm.trans active) (by decide)
    have unknown := (deletes none).mp ((agree.delete none).mpr ((reads none).mpr inactive))
    exact absurd (found.symm.trans unknown) (by simp)
  · intro present
    have known : state.world.secrets.find (Remote.reference address) = none ↔ ¬state.world.active address := by
      constructor
      · rintro unknown ⟨row, found, _⟩
        exact absurd (found.symm.trans unknown) (by simp)
      · intro inactive
        cases found : state.world.secrets.find (Remote.reference address) with
        | none => rfl
        | some row =>
            cases standing : row.state with
            | active => exact absurd ⟨row, found, standing⟩ inactive
            | revoked => exact absurd ⟨row, found, standing⟩ present
    have pivot := reads none
    constructor
    · exact fun locator => (reads locator).trans pivot.symm
    · exact (list_missing custody token _ _ serves state address rfl).trans pivot.symm
    · intro locator value short
      rw [write_creates custody token _ _ serves state kept address rfl locator value short rfl, known]
      exact pivot.symm
    · intro locator
      rw [deletes locator, known]
      exact pivot.symm
    · exact fun transaction locator newName =>
        (rename_missing custody token _ _ serves state kept address rfl transaction locator newName).trans pivot.symm
    · intro transaction other locator revealed within _ held
      have taken := rename_taken custody token _ _ serves state other (congrArg (fun scope => scope.tenant.text) within) transaction
        locator address.name revealed held
      rw [renamed_name other address within] at taken
      exact (not_congr taken).trans pivot.symm

namespace Sample

def revokeHeld : HttpRequest :=
  ⟨.userRevoke, [textBytes "Bearer token"], none, ([], []), referenceCodec.print (Remote.reference held.address)⟩

def writing : List Act := [.operation "token" transaction (.write held token)]

def writingRevoked : List Act := writing ++ [.owner revokeHeld (.inl rfl)]

theorem custody_serves (drawn : Nat) (few : drawn < 256) : custody.Serves "token" "t" drawn where
  reads := wire_reads
  trusts call calls own := by
    refine ⟨⟨"workload:one", "t", ["*"]⟩, ?_⟩
    have carried : bearer (call.request "token") = some "token" := by
      change (Option.bind (some (textBytes ("Bearer " ++ "token"))) toStr).bind (stripPrefix "Bearer ") = some "token"
      decide +kernel
    rw [Service.admits, carried]
    cases call <;> rfl
  cleanKeyId := by decide
  fits texts short := by
    refine decide_eq_true ?_
    omega
  prompt calls := (by decide : (clockAt 2).transaction < prepareExpiry oldStore (clockAt 2) * 1000000)
  distinct := counting_distinct _ few

end Sample

theorem revoked_disagrees : ¬ ∀ (custody : Custody) (token : String) (acts : List Act) (address : Address),
    custody.Serves token address.scope.tenant.text (custody.after acts).world.drawn →
      OperationsAgree custody token (custody.after acts) address := by
  intro claim
  have spent : (Sample.custody.after Sample.writingRevoked).world.drawn < 256 := by decide +kernel
  have agree := claim Sample.custody "token" Sample.writingRevoked Sample.held.address (Sample.custody_serves _ spent)
  have gone : (run (Sample.custody.send "token") (Remote.read Sample.held) (Sample.custody.after Sample.writingRevoked)).1 =
      .error .notFound := by decide +kernel
  have deleted : (run (Sample.custody.send "token") (Remote.delete Sample.held) (Sample.custody.after Sample.writingRevoked)).1 =
      .ok () := by decide +kernel
  exact absurd (((agree.delete none).mpr gone).symm.trans deleted) (by simp)

theorem written_agrees : OperationsAgree Sample.custody "token" (Sample.custody.after Sample.writing) Sample.held.address := by
  have spent : (Sample.custody.after Sample.writing).world.drawn < 256 := by decide +kernel
  refine (operations_agree_exact Sample.custody "token" Sample.writing Sample.held.address (Sample.custody_serves _ spent)).mpr ?_
  rintro ⟨row, found, gone⟩
  have standing : (((Sample.custody.after Sample.writing).world.secrets.find (Remote.reference Sample.held.address)).all fun row =>
      decide (row.state = .active)) = true := by decide +kernel
  rw [found] at standing
  rw [Option.all_some, gone] at standing
  exact absurd standing (by decide)

end Secrets
