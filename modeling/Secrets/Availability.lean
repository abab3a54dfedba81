import Secrets.StoreRoom

set_option autoImplicit false

namespace Secrets

open Effects Effects.Tx Programs Tables

namespace StoreCall

def Storable (platform : Platform) : StoreCall → Prop
  | .put input => Clean (input.reference.parts ++ input.ownerSubject :: input.labels.texts) ∧
      platform.indexFits input.reference.parts = true ∧
      platform.indexFits [input.reference.tenant, input.ownerSubject] = true ∧ platform.indexFits [input.reference.tenant] = true
  | .get reference | .existsActive reference => Clean reference.parts
  | .delete reference actor | .revoke reference actor => Clean (reference.parts ++ [actor])
  | .list tenant owner => Clean (tenant :: owner.toList)
  | .prepare tenant _ _ actor => Clean [tenant, actor] ∧ platform.indexFits [tenant] = true
  | .commit tenant _ | .abort tenant _ => Clean [tenant]

def Room (platform : Platform) (store : PostgresStore) (clock : Clock) (ledger : Ledger) (world : World) : StoreCall → Prop
  | .put input => validateRef input.reference = .ok () → PutRoom platform store ledger.records input input.ownerSubject
  | .get reference | .existsActive reference => Clean reference.parts
  | .delete reference actor | .revoke reference actor => Clean (reference.parts ++ [actor])
  | .list tenant owner => Clean (tenant :: owner.toList)
  | .prepare tenant _ mutations actor => mutations ≠ [] → (∀ mutation ∈ mutations, mutation.reference.tenant = tenant) →
      PrepareRoom platform store clock tenant actor
  | .commit tenant transaction => CommitRoom platform store clock ledger world tenant transaction
  | .abort tenant _ => Clean (tenant :: store.keyring.keyIds)

end StoreCall

-- A keyring that holds the key of everything stored.
structure HoldsStored (keyring : Keyring) (world : World) : Prop where
  versions : ∀ address version, world.versions.find address = some version → keyring.Holds version.envelope
  prepared : ∀ address row, world.prepared.find address = some row → keyring.Holds row.envelope

-- How a call has to be answered.
structure Served (platform : Platform) (clock : Clock) (ledger : Ledger) (world : World) (call : StoreCall)
    (outcome : Except StoreError call.Answer) : Prop where
  available : ∀ error, outcome = .error error → Refusal.ofStore error ≠ .unavailable
  refused : ¬call.Storable platform → ∃ rule, outcome = .error (.invalid rule)
  puts : ∀ input, call = .put input → ((∃ answer, outcome = .ok answer) ↔ validateRef input.reference = .ok ())
  commits : ∀ tenant transaction batch row, call = .commit tenant transaction →
    Live clock ledger world tenant transaction batch row →
    (∃ answer, outcome = .ok answer) ∨ ∃ error, outcome = .error error ∧ Excused error ledger.records batch.mutations

section Calls
variable (platform : Platform) (store : PostgresStore) (clock : Clock) (ledger : Ledger) (world : World)

theorem served_plain (call : StoreCall) (outcome : Except StoreError call.Answer) (noPut : ∀ input, call ≠ .put input)
    (noCommit : ∀ tenant transaction, call ≠ .commit tenant transaction)
    (available : ∀ error, outcome = .error error → Refusal.ofStore error ≠ .unavailable)
    (refused : ¬call.Storable platform → ∃ rule, outcome = .error (.invalid rule)) :
    Served platform clock ledger world call outcome :=
  ⟨available, refused, fun input same => absurd same (noPut input), fun tenant transaction _ _ same => absurd same (noCommit tenant transaction)⟩

theorem served_answer (call : StoreCall) (answer : call.Answer) (noPut : ∀ input, call ≠ .put input)
    (noCommit : ∀ tenant transaction, call ≠ .commit tenant transaction) (storable : call.Storable platform) :
    Served platform clock ledger world call (.ok answer) := by
  apply served_plain platform clock ledger world call _ noPut noCommit
  · intro error same
    cases same
  · exact absurd storable

theorem served_refused (call : StoreCall) (error : StoreError) (noPut : ∀ input, call ≠ .put input)
    (noCommit : ∀ tenant transaction, call ≠ .commit tenant transaction) (available : Refusal.ofStore error ≠ .unavailable)
    (storable : call.Storable platform ∨ ∃ rule, error = .invalid rule) :
    Served platform clock ledger world call (.error error) := by
  apply served_plain platform clock ledger world call _ noPut noCommit
  · intro other same
    cases same
    exact available
  · intro unfit
    rcases storable with fits | ⟨rule, rfl⟩
    · exact absurd fits unfit
    · exact ⟨rule, rfl⟩

section Reads
variable (sound : Sound platform ledger world) (holds : HoldsStored store.keyring world) (reference : SecretRef)
include sound holds

theorem get_served (clean : Clean reference.parts) :
    Served platform clock ledger world (.get reference) (get store reference world).1 := by
  have current : HoldsCurrent store.keyring world := fun _ _ version _ there => holds.versions _ version there
  by_cases active : ∃ record, ledger.records reference = some record ∧ record.state = .active
  · obtain ⟨record, known, active⟩ := active
    obtain ⟨stored, answered, _⟩ :=
      get_active platform ledger world sound.represents store reference record clean current known active
    rw [answered]
    exact served_answer platform clock ledger world (.get reference) stored (by simp) (by simp) clean
  · have revoked : ∀ record, ledger.records reference = some record → record.state = .revoked := by
      intro record known
      cases state : record.state with
      | active => exact absurd ⟨record, known, state⟩ active
      | revoked => rfl
    rw [get_missing platform ledger world sound.represents store reference clean revoked]
    exact served_refused platform clock ledger world (.get reference) .notFound (by simp) (by simp) (by simp [Refusal.ofStore]) (.inl clean)

omit holds in
theorem exists_served (clean : Clean reference.parts) :
    Served platform clock ledger world (.existsActive reference) (existsActive reference world).1 := by
  rw [exists_answer platform ledger world sound.represents reference clean]
  exact served_answer platform clock ledger world (.existsActive reference) _ (by simp) (by simp) clean

end Reads

theorem list_served (tenant : String) (owner : Option String) (clean : Clean (tenant :: owner.toList)) :
    Served platform clock ledger world (.list tenant owner) (list tenant owner world).1 := by
  obtain ⟨rows, ran⟩ := list_total tenant owner world clean
  rw [ran]
  exact served_answer platform clock ledger world (.list tenant owner) rows (by simp) (by simp) clean

theorem revoke_missing (reference : SecretRef) (actor : String) (found : world.secrets.find reference = none)
    (clean : Clean reference.parts) : (revoke platform clock reference actor world).1 = .error .notFound := by
  have unchanged : revokeSecret reference clock.transaction world = (.ok none, world) := by
    rw [revokeSecret, bind_of_ok _ _ _ _ _ ((bind_text_ok _ () _ _).mpr ⟨clean, rfl⟩), bind_run, read_run, found]
    rfl
  rw [revoke, atomic, bind_of_ok _ _ _ _ _ unchanged]
  rfl

theorem revoke_dirty (reference : SecretRef) (actor : String) (dirty : ¬Clean reference.parts) :
    (revoke platform clock reference actor world).1 = .error .unavailable := by
  have refused : revokeSecret reference clock.transaction world = (.error .unavailable, world) :=
    bind_of_error _ _ _ _ _ (dirty_text_refused _ world dirty)
  rw [revoke, atomic, bind_of_error _ _ _ _ _ refused]

section Changes
variable (sound : Sound platform ledger world) (reference : SecretRef) (actor : String)

theorem clean_split (clean : Clean (reference.parts ++ [actor])) : Clean reference.parts ∧ Clean [actor] :=
  ⟨clean_of_mem _ _ clean fun text member => by simp [member], clean_of_mem _ _ clean (by simp)⟩

theorem changeable_clean (changes : changeable platform reference actor = true) : Clean (reference.parts ++ [actor]) := by
  simp only [changeable, Bool.and_eq_true, Bool.not_eq_true', List.any_cons, List.any_nil, Bool.or_false, Bool.or_eq_false_iff] at changes
  obtain ⟨⟨clean, _, actorClean⟩, _⟩ := changes
  rw [Clean, List.any_append, clean, Bool.false_or]
  simp [actorClean]

include sound

theorem found_changes (row : SecretRow) (found : world.secrets.find reference = some row) (clean : Clean [actor]) :
    changeable platform reference actor = true := by
  obtain ⟨cleanRef, _⟩ := found_changeable platform world ledger.records reference sound.represents.records row found
  have logged := (found_logged platform world ledger.records reference actor sound.represents.records row found).mpr clean
  have dirtless : reference.parts.any hasNul = false := cleanRef
  rw [changeable, dirtless, Bool.not_false, Bool.true_and]
  exact logged

theorem delete_served (clean : Clean (reference.parts ++ [actor])) :
    Served platform clock ledger world (.delete reference actor) (delete platform reference actor world).1 := by
  obtain ⟨cleanRef, cleanActor⟩ := clean_split reference actor clean
  cases found : world.secrets.find reference with
  | none =>
      have missing := delete_tx_missing platform actor reference world cleanRef found
      rw [delete, (atomic_error _ _ _ _ _).mpr ⟨_, missing, rfl⟩]
      exact served_refused platform clock ledger world (.delete reference actor) .notFound (by simp) (by simp)
        (by simp [Refusal.ofStore]) (.inl clean)
  | some row =>
      rw [delete_run platform world reference actor row found,
        if_pos (found_changes platform ledger world sound reference actor row found cleanActor)]
      exact served_answer platform clock ledger world (.delete reference actor) () (by simp) (by simp) clean

theorem revoke_served (clean : Clean (reference.parts ++ [actor])) :
    Served platform clock ledger world (.revoke reference actor) (revoke platform clock reference actor world).1 := by
  obtain ⟨cleanRef, cleanActor⟩ := clean_split reference actor clean
  cases found : world.secrets.find reference with
  | none =>
      rw [revoke_missing platform clock world reference actor found cleanRef]
      exact served_refused platform clock ledger world (.revoke reference actor) .notFound (by simp) (by simp)
        (by simp [Refusal.ofStore]) (.inl clean)
  | some row =>
      rw [revoke_run platform clock world reference actor row found,
        if_pos (found_changes platform ledger world sound reference actor row found cleanActor)]
      exact served_answer platform clock ledger world (.revoke reference actor) _ (by simp) (by simp) clean

end Changes

theorem delete_prepared_clean (tenant : String) (transaction : Uuid) (now : Int) (keyIds : List String) (clean : Clean (tenant :: keyIds))
    (error : StoreError) (after : World) : deletePrepared tenant transaction now keyIds world ≠ (.error error, after) := by
  rw [deletePrepared, bind_of_ok _ _ _ _ _ ((bind_text_ok _ () _ _).mpr ⟨clean, rfl⟩), bind_run, read_run]
  dsimp only
  cases (world.held tenant transaction now).filter fun row => decide (row.envelope.keyId ∈ keyIds) <;> simp [bind_run]

theorem abort_served (tenant : String) (transaction : Uuid) (clean : Clean (tenant :: store.keyring.keyIds)) :
    Served platform clock ledger world (.abort tenant transaction) (abort store clock tenant transaction world).1 := by
  have storable : Clean [tenant] := clean_of_mem _ _ clean (by simp)
  cases ran : abort store clock tenant transaction world with
  | mk outcome after =>
      cases outcome with
      | ok done => exact served_answer platform clock ledger world (.abort tenant transaction) done (by simp) (by simp) storable
      | error error =>
          have missing : error = .notFound := by
            rcases (bind_error _ _ _ _ _).mp ran with failed | ⟨_, _, _, failed⟩
            · exact absurd failed (delete_prepared_clean world tenant transaction clock.statement store.keyring.keyIds clean error after)
            · exact ((ensure_error _ _ _ _ _).mp failed).2.1.symm
          subst missing
          exact served_refused platform clock ledger world (.abort tenant transaction) .notFound (by simp) (by simp)
            (by simp [Refusal.ofStore]) (.inl storable)

theorem prepare_served (tenant : String) (transaction : Uuid) (mutations : List Mutation) (actor : String)
    (room : mutations ≠ [] → (∀ mutation ∈ mutations, mutation.reference.tenant = tenant) →
      PrepareRoom platform store clock tenant actor) :
    Served platform clock ledger world (.prepare tenant transaction mutations actor)
      (prepare platform store clock tenant transaction mutations actor world).1 := by
  by_cases checked : mutations ≠ [] ∧ ∀ mutation ∈ mutations, mutation.reference.tenant = tenant
  · have room := room checked.1 checked.2
    have storable : (StoreCall.prepare tenant transaction mutations actor).Storable platform :=
      ⟨clean_of_mem _ _ room.clean (by simp), room.fits⟩
    rcases prepare_room platform store clock world tenant transaction mutations actor checked.1 checked.2 room with done | taken
    · rw [done]
      exact served_answer platform clock ledger world (.prepare tenant transaction mutations actor) () (by simp) (by simp) storable
    · rw [taken]
      exact served_refused platform clock ledger world (.prepare tenant transaction mutations actor) .conflict (by simp) (by simp)
        (by simp [Refusal.ofStore]) (.inl storable)
  · have invalid : mutations = [] ∨ ∃ mutation ∈ mutations, mutation.reference.tenant ≠ tenant := by
      by_contra valid
      simp only [not_or, not_exists, not_and, not_not] at valid
      exact checked valid
    obtain ⟨rule, refused⟩ := prepare_invalid platform store clock world tenant transaction mutations actor invalid
    rw [refused]
    apply served_refused platform clock ledger world (.prepare tenant transaction mutations actor) _ (by simp) (by simp)
    · cases rule <;> simp [Refusal.ofStore]
    · exact .inr ⟨rule, rfl⟩

section Writes
variable (sound : Sound platform ledger world) (limit : Nat) (distinct : Distinct platform limit)
include sound distinct

theorem put_served (input : PutSecret) (last : (put platform store clock input world).2.drawn < limit)
    (room : validateRef input.reference = .ok () → PutRoom platform store ledger.records input input.ownerSubject) :
    Served platform clock ledger world (.put input) (put platform store clock input world).1 := by
  have early : world.drawn < limit := spending_perform platform store clock limit (.put input) world last
  cases valid : validateRef input.reference with
  | error error =>
      have refused := put_tx_invalid platform store clock input.ownerSubject input error world valid
      obtain ⟨rule, rfl⟩ := validate_invalid _ _ valid
      rw [put, (atomic_error _ _ _ _ _).mpr ⟨_, refused, rfl⟩]
      constructor
      · intro error same
        cases same
        cases rule <;> simp [Refusal.ofStore]
      · exact fun _ => ⟨rule, rfl⟩
      · intro other same
        cases same
        simp [valid]
      · intro tenant transaction batch row same
        cases same
  | ok accepted =>
      have fits := room valid
      obtain ⟨metadata, after, ran⟩ := put_tx_room platform store clock world ledger.records input input.ownerSubject
        sound.represents.records (ids_fresh platform limit world distinct sound.ids early) valid fits
      rw [put, (atomic_ok _ _ _ _ _).mpr ran]
      constructor
      · intro error same
        cases same
      · exact fun unfit => absurd ⟨fits.clean, fits.fits, fits.fitsOwner, fits.fitsTenant⟩ unfit
      · intro other same
        cases same
        simp [valid]
      · intro tenant transaction batch row same
        cases same

theorem commit_served (holds : HoldsStored store.keyring world) (tenant : String) (transaction : Uuid)
    (last : (commit platform store clock tenant transaction world).2.drawn < limit)
    (room : CommitRoom platform store clock ledger world tenant transaction) :
    Served platform clock ledger world (.commit tenant transaction) (commit platform store clock tenant transaction world).1 := by
  have outcome : ∀ batch row, Live clock ledger world tenant transaction batch row →
      (commit platform store clock tenant transaction world).1 = .ok () ∨
        ∃ error, (commit platform store clock tenant transaction world).1 = .error error ∧
          Excused error ledger.records batch.mutations := by
    intro batch row live
    exact commit_room platform store clock ledger world tenant transaction batch row live sound (holds.prepared _ row live.found)
      limit distinct last (room.applies batch row live)
  constructor
  · intro error failed
    by_cases held : ∃ batch row, Live clock ledger world tenant transaction batch row
    · obtain ⟨batch, row, live⟩ := held
      rcases outcome batch row live with done | ⟨other, refused, excuse⟩
      · cases done.symm.trans failed
      · cases refused.symm.trans failed
        rcases excused_other _ _ _ excuse with rfl | ⟨rule, rfl⟩
        · simp [Refusal.ofStore]
        · cases rule <;> simp [Refusal.ofStore]
    · have missing := commit_unheld platform store clock ledger world tenant transaction room.clean sound
        fun batch row live => held ⟨batch, row, live⟩
      cases missing.symm.trans failed
      simp [Refusal.ofStore]
  · exact absurd room.clean
  · intro input same
    cases same
  · intro other id batch row same live
    cases same
    rcases outcome batch row live with done | refused
    · exact .inl ⟨(), done⟩
    · exact .inr refused

theorem perform_served (holds : HoldsStored store.keyring world) (call : StoreCall)
    (last : (call.perform platform store clock world).2.drawn < limit) (room : call.Room platform store clock ledger world) :
    Served platform clock ledger world call (call.perform platform store clock world).1 := by
  cases call with
  | put input => exact put_served platform store clock ledger world sound limit distinct input last room
  | get reference => exact get_served platform store clock ledger world sound holds reference room
  | existsActive reference => exact exists_served platform clock ledger world sound reference room
  | delete reference actor => exact delete_served platform clock ledger world sound reference actor room
  | revoke reference actor => exact revoke_served platform clock ledger world sound reference actor room
  | list tenant owner => exact list_served platform clock ledger world tenant owner room
  | prepare tenant transaction mutations actor =>
      exact prepare_served platform store clock ledger world tenant transaction mutations actor room
  | commit tenant transaction => exact commit_served platform store clock ledger world sound limit distinct holds tenant transaction last room
  | abort tenant transaction => exact abort_served platform store clock ledger world tenant transaction room

theorem perform_no_room (holds : HoldsStored store.keyring world) (call : StoreCall)
    (last : (call.perform platform store clock world).2.drawn < limit) (full : ¬call.Room platform store clock ledger world) :
    (call.perform platform store clock world).1 = .error .unavailable ∨
      ¬call.Storable platform ∧ (call.perform platform store clock world).1 = .error .notFound := by
  cases call with
  | put input =>
      left
      have valid : validateRef input.reference = .ok () := by
        by_contra refused
        exact full fun accepted => absurd accepted refused
      obtain ⟨after, ran⟩ := put_tx_no_room platform store clock world ledger.records input input.ownerSubject
        sound.represents.records valid fun room => full fun _ => room
      exact congrArg Prod.fst ((atomic_error rollback _ _ _ _).mpr ⟨_, ran, rfl⟩)
  | get reference => exact .inl (dirty_reads store reference world full).1
  | existsActive reference => exact .inl (dirty_reads store reference world full).2
  | list tenant owner => exact .inl (dirty_list tenant owner world full)
  | delete reference actor =>
      cases found : world.secrets.find reference with
      | none =>
          by_cases cleanRef : Clean reference.parts
          · have missing := delete_tx_missing platform actor reference world cleanRef found
            exact .inr ⟨full, congrArg Prod.fst ((atomic_error rollback _ _ _ _).mpr ⟨_, missing, rfl⟩)⟩
          · have refused := delete_tx_dirty platform world reference actor cleanRef
            exact .inl (congrArg Prod.fst ((atomic_error rollback _ _ _ _).mpr ⟨_, refused, rfl⟩))
      | some row =>
          left
          have ran := delete_run platform world reference actor row found
          rw [if_neg fun changes => full (changeable_clean platform reference actor changes)] at ran
          exact congrArg Prod.fst ran
  | revoke reference actor =>
      cases found : world.secrets.find reference with
      | none =>
          by_cases cleanRef : Clean reference.parts
          · exact .inr ⟨full, revoke_missing platform clock world reference actor found cleanRef⟩
          · exact .inl (revoke_dirty platform clock world reference actor cleanRef)
      | some row =>
          left
          have ran := revoke_run platform clock world reference actor row found
          rw [if_neg fun changes => full (changeable_clean platform reference actor changes)] at ran
          exact congrArg Prod.fst ran
  | prepare tenant transaction mutations actor =>
      left
      simp only [StoreCall.Room, not_forall] at full
      obtain ⟨some, own, full⟩ := full
      exact prepare_no_room platform store clock world tenant transaction mutations actor some own full
  | commit tenant transaction =>
      left
      by_cases clean : Clean [tenant]
      · have stuck : ∃ batch row, Live clock ledger world tenant transaction batch row ∧
            ¬Applies platform store batch.actor (platform.indexFits [tenant] = true) ledger.records batch.mutations := by
          by_contra fine
          apply full
          refine ⟨clean, fun batch row live => ?_⟩
          by_contra stops
          exact fine ⟨batch, row, live, stops⟩
        obtain ⟨batch, row, live, stops⟩ := stuck
        exact commit_no_room platform store clock ledger world tenant transaction batch row live sound
          (holds.prepared _ row live.found) limit distinct last stops
      · exact commit_dirty platform store clock world tenant transaction clean
  | abort tenant transaction =>
      have refused : deletePrepared tenant transaction clock.statement store.keyring.keyIds world = (.error .unavailable, world) :=
        bind_of_error _ _ _ _ _ (dirty_text_refused _ world full)
      exact .inl (congrArg Prod.fst (bind_of_error _ _ _ _ _ refused))

end Writes

end Calls

def storeCall (extractors : Extractors) (request : HttpRequest) (principal : Principal) : Except Refusal StoreCall :=
  match request.route with
  | .userList => .ok (.list principal.tenant (some principal.subject))
  | .userDetail | .userRevoke | .userDelete =>
      (jsonBody extractors .reference request).map fun _ => .list principal.tenant (some principal.subject)
  | .workloadPut => (jsonBody extractors .putSecret request).map fun input =>
      .put { input with ownerSubject := if input.ownerSubject.isEmpty then principal.subject else input.ownerSubject }
  | .workloadGet => (jsonBody extractors .reference request).map .get
  | .workloadExists => (jsonBody extractors .reference request).map .existsActive
  | .workloadList => (jsonBody extractors .scope request).map fun scope => .list scope.tenant none
  | .workloadDelete => (jsonBody extractors .deleteRequest request).map fun input =>
      .delete input.reference (input.actor.getD principal.subject)
  | .workloadPrepare =>
      match pathParams extractors request with
      | .error refusal => .error refusal
      | .ok params => (jsonBody extractors .prepareRequest request).map fun input =>
          .prepare params.1 params.2 input.mutations input.actor
  | .workloadCommit => (pathParams extractors request).map fun params => .commit params.1 params.2
  | .workloadAbort => (pathParams extractors request).map fun params => .abort params.1 params.2

-- What a user may do to a record that was listed.
inductive OwnChange (principal : Principal) (reference : SecretRef) : StoreCall → Prop where
  | revoke : OwnChange principal reference (.revoke reference principal.subject)
  | delete : OwnChange principal reference (.delete reference principal.subject)

inductive AfterList (principal : Principal) (rows : List SecretMetadata) : Handler Reply → Prop where
  | shows (reply : Reply) : AfterList principal rows (.done reply)
  | notOwned : AfterList principal rows (.stop .notOwned)
  | changes (metadata : SecretMetadata) (member : metadata ∈ rows) (call : StoreCall)
      (change : OwnChange principal metadata.reference call) (shown : call.Answer → Reply) :
      AfterList principal rows (callStore call >>= fun answer => pure (shown answer))

-- A route's store call, and what is made of its answer.
inductive Turn (principal : Principal) : StoreCall → Handler Reply → Prop where
  | replies (call : StoreCall) (shown : call.Answer → Reply) : Turn principal call (callStore call >>= fun answer => pure (shown answer))
  | lists (finish : List SecretMetadata → Handler Reply) (finishes : ∀ rows, AfterList principal rows (finish rows)) :
      Turn principal (.list principal.tenant (some principal.subject))
        (callStore (.list principal.tenant (some principal.subject)) >>= finish)

def Turns (extractors : Extractors) (request : HttpRequest) : Prop :=
  ∃ body, handle extractors request = admitting extractors request body ∧
    ∀ principal addressed, extraction extractors request = .ok addressed →
      ∃ call, storeCall extractors request principal = .ok call ∧ Turn principal call (body principal)

section Routes
variable (extractors : Extractors) (request : HttpRequest)

theorem turns_input {Input : Type} (parsed : Except Refusal Input) (tenantOf : Input → String)
    (work : Input → Principal → Handler Reply)
    (names : extraction extractors request = parsed.map fun input => some (tenantOf input))
    (written : handle extractors request = Prog.lift parsed >>= fun input =>
      authorize request request.route.family request.route.action >>= fun principal =>
        tenantMatches principal (some (tenantOf input)) >>= fun _ => work input principal)
    (turns : ∀ input principal, parsed = .ok input →
      ∃ call, storeCall extractors request principal = .ok call ∧ Turn principal call (work input principal)) :
    Turns extractors request := by
  obtain ⟨body, same, works⟩ := admitting_input extractors request parsed tenantOf work names written
  refine ⟨body, same, fun principal addressed extracted => ?_⟩
  obtain ⟨input, read, rfl⟩ := extraction_read extractors request parsed tenantOf addressed names extracted
  rw [works input read]
  exact turns input principal read

theorem turns_reference {Input : Type} (parsed : Except Refusal Input) (referenceOf : Input → SecretRef)
    (work : Input → Principal → Handler Reply)
    (names : extraction extractors request = parsed.map fun input => some (referenceOf input).tenant)
    (written : handle extractors request = Prog.lift parsed >>= fun input =>
      authorizeRef request request.route.family request.route.action (referenceOf input) >>= work input)
    (turns : ∀ input principal, parsed = .ok input →
      ∃ call, storeCall extractors request principal = .ok call ∧ Turn principal call (work input principal)) :
    Turns extractors request := by
  apply turns_input extractors request parsed (fun input => (referenceOf input).tenant) work names _ turns
  rw [written]
  simp only [authorize_ref_admits]

theorem owned_listed (rows : List SecretMetadata) (reference : SecretRef)
    (owned : (rows.any fun metadata => decide (metadata.reference = reference)) = true) :
    ∃ metadata ∈ rows, metadata.reference = reference := by
  obtain ⟨metadata, member, same⟩ := List.any_eq_true.mp owned
  exact ⟨metadata, member, of_decide_eq_true same⟩

theorem owner_turn (principal : Principal) (reference : SecretRef) (call : StoreCall) (change : OwnChange principal reference call)
    (shown : call.Answer → Reply) :
    Turn principal (.list principal.tenant (some principal.subject))
      (assertOwner principal reference >>= fun _ => callStore call >>= fun answer => pure (shown answer)) := by
  rw [assertOwner, Prog.bind_assoc]
  apply Turn.lists
  intro rows
  rw [Prog.ensure]
  by_cases owned : (rows.any fun metadata => decide (metadata.reference = reference)) = true
  · rw [if_pos owned]
    obtain ⟨metadata, member, rfl⟩ := owned_listed rows reference owned
    exact .changes metadata member call change shown
  · rw [if_neg owned]
    exact .notOwned

theorem handle_turns : Turns extractors request := by
  obtain ⟨route, authorization, contentLength, segments, body⟩ := request
  cases route with
  | userList =>
      refine ⟨fun principal => callStore (.list principal.tenant (some principal.subject)) >>= fun secrets =>
        pure (.secrets secrets), rfl, fun principal _ _ => ⟨_, rfl, ?_⟩⟩
      exact .lists _ fun rows => .shows (.secrets rows)
  | userDetail =>
      apply turns_reference _ _ _ id _ rfl rfl
      intro reference principal read
      refine ⟨.list principal.tenant (some principal.subject), by simp only [storeCall, read, Except.map], ?_⟩
      apply Turn.lists
      intro rows
      cases rows.find? fun metadata => decide (metadata.reference = reference) with
      | some found => exact .shows (.metadata found)
      | none => exact .notOwned
  | userRevoke =>
      apply turns_reference _ _ _ id _ rfl rfl
      intro reference principal read
      refine ⟨.list principal.tenant (some principal.subject), by simp only [storeCall, read, Except.map], ?_⟩
      exact owner_turn principal reference _ .revoke fun metadata => .metadata metadata
  | userDelete =>
      apply turns_reference _ _ _ id _ rfl rfl
      intro reference principal read
      refine ⟨.list principal.tenant (some principal.subject), by simp only [storeCall, read, Except.map], ?_⟩
      exact owner_turn principal reference _ .delete fun _ => .noContent
  | workloadPut =>
      apply turns_reference _ _ _ PutSecret.reference _ rfl rfl
      intro input principal read
      refine ⟨.put { input with ownerSubject := if input.ownerSubject.isEmpty then principal.subject else input.ownerSubject },
        by simp only [storeCall, read, Except.map], ?_⟩
      exact .replies (.put _) fun metadata => .metadata metadata
  | workloadGet =>
      apply turns_reference _ _ _ id _ rfl rfl
      intro reference principal read
      exact ⟨_, by simp only [storeCall, read, Except.map], .replies (.get reference) fun secret => .stored secret⟩
  | workloadExists =>
      apply turns_reference _ _ _ id _ rfl rfl
      intro reference principal read
      exact ⟨_, by simp only [storeCall, read, Except.map], .replies (.existsActive reference) fun answer => .exists answer⟩
  | workloadList =>
      apply turns_input _ _ _ ScopeRequest.tenant _ rfl rfl
      intro scope principal read
      exact ⟨_, by simp only [storeCall, read, Except.map], .replies (.list scope.tenant none) fun rows =>
        .secrets (rows.filter fun metadata => decide (metadata.reference.nameSpace = scope.nameSpace))⟩
  | workloadDelete =>
      apply turns_reference _ _ _ DeleteRequest.reference _ rfl rfl
      intro input principal read
      exact ⟨_, by simp only [storeCall, read, Except.map],
        .replies (.delete input.reference (input.actor.getD principal.subject)) fun _ => .noContent⟩
  | workloadPrepare =>
      cases params : pathParams extractors ⟨.workloadPrepare, authorization, contentLength, segments, body⟩ with
      | error refusal =>
          refine ⟨fun _ => .stop refusal, ?_, fun principal addressed extracted => ?_⟩
          · simp [handle, workloadPrepare, admitting, extraction, params, Prog.lift]
          · simp [extraction, params] at extracted
      | ok place =>
          apply turns_input _ _ (jsonBody extractors .prepareRequest ⟨.workloadPrepare, authorization, contentLength, segments, body⟩)
            (fun _ => place.1) (fun input _ => callStore (.prepare place.1 place.2 input.mutations input.actor) >>= fun _ => pure .noContent)
          · simp only [extraction, params]
          · simp only [handle, workloadPrepare, params, Prog.lift, Prog.done_bind]
            rfl
          · intro input principal read
            exact ⟨_, by simp only [storeCall, params, read, Except.map],
              .replies (.prepare place.1 place.2 input.mutations input.actor) fun _ => .noContent⟩
  | workloadCommit =>
      apply turns_input _ _ _ Prod.fst _ rfl rfl
      intro place principal read
      exact ⟨_, by simp only [storeCall, read, Except.map], .replies (.commit place.1 place.2) fun _ => .noContent⟩
  | workloadAbort =>
      apply turns_input _ _ _ Prod.fst _ rfl rfl
      intro place principal read
      exact ⟨_, by simp only [storeCall, read, Except.map], .replies (.abort place.1 place.2) fun _ => .noContent⟩

end Routes

structure Passes (service : Service) (extractors : Extractors) (request : HttpRequest) (calls : Nat) (principal : Principal) : Prop where
  readable : ∃ addressed, received extractors request = .ok addressed ∧
    (addressed.all fun tenant => decide (principal.tenant = tenant)) = true
  verified : ∃ token, bearer request = some token ∧ service.authority request.route.family calls token = .ok principal
  permitted : principal.permits request.route.action = true

structure Replied (platform : Platform) (clock : Clock) (ledger : Ledger) (world : World) (call : StoreCall)
    (reply : Except Refusal Reply) : Prop where
  refused : ¬call.Storable platform → ∃ rule, reply = .error (.ofStore (.invalid rule))
  puts : ∀ input, call = .put input → ((∃ answered, reply = .ok answered) ↔ validateRef input.reference = .ok ())
  commits : ∀ tenant transaction batch row, call = .commit tenant transaction →
    Live clock ledger world tenant transaction batch row →
    (∃ answered, reply = .ok answered) ∨ ∃ error, reply = .error (.ofStore error) ∧ Excused error ledger.records batch.mutations

section Serving
variable (service : Service) (extractors : Extractors) (request : HttpRequest) (state : Serving)

theorem passes_unique (first second : Principal) (one : Passes service extractors request state.calls first)
    (other : Passes service extractors request state.calls second) : first = second := by
  obtain ⟨token, carried, verified⟩ := one.verified
  obtain ⟨again, same, answered⟩ := other.verified
  cases carried.symm.trans same
  cases verified.symm.trans answered
  rfl

theorem run_authorized {Value : Type} (family : Family) (action token : String) (principal : Principal)
    (carried : bearer request = some token) (verified : service.authority family state.calls token = .ok principal)
    (next : Principal → Handler Value) :
    run service.perform (authorize request family action >>= next) state =
      run service.perform (Prog.ensure (principal.permits action) .missingAction >>= fun _ => next principal)
        { state with calls := state.calls + 1 } := by
  rw [authorize_bind request family action token carried, run_ask, Service.perform, verified]
  rfl

theorem body_refused (shape : Shape) (refusal : Refusal) (failed : jsonBody extractors shape request = .error refusal) :
    refusal ≠ .unavailable := by
  rw [jsonBody] at failed
  cases read : extractors.json shape request with
  | ok value =>
      rw [read] at failed
      cases failed
  | error status =>
      rw [read] at failed
      dsimp only at failed
      split at failed
      · cases failed
        simp
      · cases failed
        simp

theorem path_refused (refusal : Refusal) (failed : pathParams extractors request = .error refusal) : refusal ≠ .unavailable := by
  rw [pathParams] at failed
  cases read : extractors.path request with
  | some params =>
      rw [read] at failed
      cases failed
  | none =>
      rw [read] at failed
      cases failed
      simp

theorem map_refused {Input : Type} (parsed : Except Refusal Input) (name : Input → Option String) (refusal : Refusal)
    (failed : parsed.map name = .error refusal) : parsed = .error refusal := by
  cases parsed with
  | ok input => cases failed
  | error other =>
      cases failed
      rfl

theorem extraction_refused (refusal : Refusal) (failed : extraction extractors request = .error refusal) : refusal ≠ .unavailable := by
  have body (shape : Shape) (name : shape.Value → Option String) (failed : (jsonBody extractors shape request).map name = .error refusal) :
      refusal ≠ .unavailable := body_refused extractors request shape refusal (map_refused _ _ _ failed)
  rw [extraction] at failed
  cases route : request.route <;> rw [route] at failed <;> dsimp only at failed
  case userList => cases failed
  case workloadPrepare =>
    cases params : pathParams extractors request with
    | error own =>
        rw [params] at failed
        cases failed
        exact path_refused extractors request _ params
    | ok place =>
        rw [params] at failed
        exact body .prepareRequest _ failed
  case workloadCommit => exact path_refused extractors request _ (map_refused _ _ _ failed)
  case workloadAbort => exact path_refused extractors request _ (map_refused _ _ _ failed)
  case workloadPut => exact body .putSecret _ failed
  case workloadList => exact body .scope _ failed
  case workloadDelete => exact body .deleteRequest _ failed
  all_goals exact body .reference _ failed

theorem serve_turns (healthy : ∀ family count token, service.authority family count token ≠ .error .unavailable) :
    (∃ principal call work, Passes service extractors request state.calls principal ∧
      storeCall extractors request principal = .ok call ∧ Turn principal call work ∧
      run service.perform (serve extractors request) state = run service.perform work { state with calls := state.calls + 1 }) ∨
    (¬∃ principal, Passes service extractors request state.calls principal) ∧
      ∃ refusal, (run service.perform (serve extractors request) state).1 = .error refusal ∧ refusal ≠ .unavailable := by
  obtain ⟨body, written, turns⟩ := handle_turns extractors request
  cases read : received extractors request with
  | error refusal =>
      right
      constructor
      · intro ⟨principal, passes⟩
        obtain ⟨addressed, readable, _⟩ := passes.readable
        cases read.symm.trans readable
      · rw [received] at read
        by_cases large : declaredTooLarge request = true
        · rw [serve, if_pos large]
          exact ⟨.tooLarge, rfl, by simp⟩
        · rw [if_neg large] at read
          rw [serve, if_neg large, written, admitting, read]
          exact ⟨refusal, rfl, extraction_refused extractors request refusal read⟩
  | ok addressed =>
      have small : ¬declaredTooLarge request = true := by
        intro large
        rw [received, if_pos large] at read
        cases read
      have extracted := read
      rw [received, if_neg small] at extracted
      have work : serve extractors request = authorize request request.route.family request.route.action >>= fun principal =>
          tenantMatches principal addressed >>= fun _ => body principal := by
        rw [serve, if_neg small, written, admitting, extracted]
        rfl
      rw [work]
      cases carried : bearer request with
      | none =>
          right
          constructor
          · intro ⟨principal, passes⟩
            obtain ⟨token, same, _⟩ := passes.verified
            cases carried.symm.trans same
          · refine ⟨.unauthorized, ?_, by simp⟩
            rw [authorize, carried]
            rfl
      | some token =>
          cases verified : service.authority request.route.family state.calls token with
          | error error =>
              right
              constructor
              · intro ⟨principal, passes⟩
                obtain ⟨other, same, answered⟩ := passes.verified
                cases carried.symm.trans same
                cases verified.symm.trans answered
              · refine ⟨.ofAuth error, ?_, ?_⟩
                · rw [authorize_bind request _ _ token carried, run_ask, Service.perform, verified]
                  rfl
                · cases error with
                  | unauthorized => simp [Refusal.ofAuth]
                  | unavailable => exact absurd verified (healthy _ _ _)
          | ok principal =>
              have only (other : Principal) (passes : Passes service extractors request state.calls other) : other = principal := by
                obtain ⟨again, same, answered⟩ := passes.verified
                cases carried.symm.trans same
                exact (Except.ok.inj (verified.symm.trans answered)).symm
              rw [run_authorized service request state _ _ token principal carried verified]
              by_cases permitted : principal.permits request.route.action = true
              · by_cases matched : (addressed.all fun tenant => decide (principal.tenant = tenant)) = true
                · left
                  obtain ⟨call, called, turn⟩ := turns principal addressed extracted
                  refine ⟨principal, call, body principal, ⟨⟨addressed, read, matched⟩, ⟨token, carried, verified⟩, permitted⟩, called,
                    turn, ?_⟩
                  rw [permitted, tenantMatches, matched]
                  rfl
                · right
                  constructor
                  · intro ⟨other, passes⟩
                    obtain ⟨named, readable, own⟩ := passes.readable
                    cases read.symm.trans readable
                    rw [only other passes] at own
                    exact matched own
                  · refine ⟨.forbidden, ?_, by simp⟩
                    rw [permitted, tenantMatches, Bool.eq_false_iff.mpr matched]
                    rfl
              · right
                constructor
                · intro ⟨other, passes⟩
                  have allowed := passes.permitted
                  rw [only other passes] at allowed
                  exact permitted allowed
                · refine ⟨.missingAction, ?_, by simp⟩
                  rw [Bool.eq_false_iff.mpr permitted]
                  rfl

theorem run_replies_ok (call : StoreCall) (shown : call.Answer → Reply) (answer : call.Answer) (after : World)
    (ran : call.perform service.platform service.store (service.clocks state.calls) state.world = (.ok answer, after)) :
    run service.perform (callStore call >>= fun answer => pure (shown answer)) state = (.ok (shown answer), ⟨after, state.calls + 1⟩) := by
  rw [run_bind, bind_run, run_call_store, ran]
  rfl

theorem run_call_refused (call : StoreCall) (next : call.Answer → Handler Reply) (error : StoreError) (after : World)
    (ran : call.perform service.platform service.store (service.clocks state.calls) state.world = (.error error, after)) :
    run service.perform (callStore call >>= next) state = (.error (.ofStore error), ⟨after, state.calls + 1⟩) := by
  rw [run_bind, bind_run, run_call_store, ran]
  rfl

section Turning
variable (ledger : Ledger) (sound : Sound service.platform ledger state.world) (holds : HoldsStored service.store.keyring state.world)
  (limit : Nat) (distinct : Distinct service.platform limit) (principal : Principal) (call : StoreCall) (work : Handler Reply)
  (turn : Turn principal call work) (last : (run service.perform work state).2.world.drawn < limit)

include sound in
theorem own_change_runs (metadata : SecretMetadata) (clean : Clean [principal.tenant, principal.subject])
    (member : metadata ∈ state.world.shown principal.tenant principal.subject)
    (change : OwnChange principal metadata.reference call) (shown : call.Answer → Reply) :
    ∃ reply, (run service.perform (callStore call >>= fun answer => pure (shown answer)) state).1 = .ok reply := by
  obtain ⟨row, listed, rfl⟩ := (mem_shown state.world principal.tenant principal.subject metadata).mp member
  have found := ((mem_owned _ _ _ _).mp listed).1
  have cleanActor : Clean [principal.subject] := clean_of_mem _ _ clean (by simp)
  have changes := found_changes service.platform ledger state.world sound row.reference principal.subject row found cleanActor
  cases change with
  | revoke =>
      have ran := revoke_run service.platform (service.clocks state.calls) state.world row.reference principal.subject row found
      rw [if_pos changes] at ran
      exact ⟨_, congrArg Prod.fst (run_replies_ok service state (.revoke row.reference principal.subject) shown _ _ ran)⟩
  | delete =>
      have ran := delete_run service.platform state.world row.reference principal.subject row found
      rw [if_pos changes] at ran
      exact ⟨_, congrArg Prod.fst (run_replies_ok service state (.delete row.reference principal.subject) shown _ _ ran)⟩

theorem run_listed (finish : List SecretMetadata → Handler Reply) (clean : Clean [principal.tenant, principal.subject]) :
    run service.perform (callStore (.list principal.tenant (some principal.subject)) >>= finish) state =
      run service.perform (finish (state.world.shown principal.tenant principal.subject)) ⟨state.world, state.calls + 1⟩ := by
  have dirtless : [principal.tenant, principal.subject].any hasNul = false := clean
  rw [run_bind, bind_run, run_list, dirtless]
  rfl

include turn

theorem turn_room (room : call.Room service.platform service.store (service.clocks state.calls) ledger state.world)
    (sound : Sound service.platform ledger state.world) (holds : HoldsStored service.store.keyring state.world)
    (distinct : Distinct service.platform limit) (last : (run service.perform work state).2.world.drawn < limit) :
    (run service.perform work state).1 ≠ .error .unavailable ∧
      Replied service.platform (service.clocks state.calls) ledger state.world call (run service.perform work state).1 := by
  cases turn with
  | replies call shown =>
      have served := perform_served service.platform service.store (service.clocks state.calls) ledger state.world sound limit
        distinct holds call
      cases ran : call.perform service.platform service.store (service.clocks state.calls) state.world with
      | mk outcome after =>
          rw [ran] at served
          cases outcome with
          | ok answer =>
              rw [run_replies_ok service state call shown answer after ran] at last ⊢
              have served := served last room
              refine ⟨by simp, ?_, ?_, ?_⟩
              · intro unfit
                obtain ⟨rule, refused⟩ := served.refused unfit
                cases refused
              · intro input same
                rw [← served.puts input same]
                simp
              · exact fun _ _ _ _ _ _ => .inl ⟨_, rfl⟩
          | error error =>
              rw [run_call_refused service state call _ error after ran] at last ⊢
              have served := served last room
              refine ⟨fun same => served.available error rfl (Except.error.inj same), ?_, ?_, ?_⟩
              · intro unfit
                obtain ⟨rule, refused⟩ := served.refused unfit
                cases refused
                exact ⟨rule, rfl⟩
              · intro input same
                rw [← served.puts input same]
                simp
              · intro tenant transaction batch row same live
                rcases served.commits tenant transaction batch row same live with ⟨_, done⟩ | ⟨other, refused, excuse⟩
                · cases done
                · cases refused
                  exact .inr ⟨error, rfl, excuse⟩
  | lists finish finishes =>
      rw [run_listed service state principal finish room]
      constructor
      · have ends := finishes (state.world.shown principal.tenant principal.subject)
        generalize finish (state.world.shown principal.tenant principal.subject) = rest at ends
        cases ends with
        | shows reply => simp
        | notOwned => simp
        | changes metadata member call change shown =>
            obtain ⟨reply, ran⟩ := own_change_runs service ⟨state.world, state.calls + 1⟩ ledger sound principal call metadata room
              member change shown
            rw [ran]
            simp
      · constructor
        · exact absurd room
        · intro input same
          cases same
        · intro tenant transaction batch row same
          cases same

theorem turn_full (full : ¬call.Room service.platform service.store (service.clocks state.calls) ledger state.world)
    (sound : Sound service.platform ledger state.world) (holds : HoldsStored service.store.keyring state.world)
    (distinct : Distinct service.platform limit) (last : (run service.perform work state).2.world.drawn < limit) :
    (run service.perform work state).1 = .error .unavailable ∨
      ¬call.Storable service.platform ∧ (run service.perform work state).1 = .error .notFound := by
  cases turn with
  | replies call shown =>
      have stuck := perform_no_room service.platform service.store (service.clocks state.calls) ledger state.world sound limit
        distinct holds call
      cases ran : call.perform service.platform service.store (service.clocks state.calls) state.world with
      | mk outcome after =>
          rw [ran] at stuck
          cases outcome with
          | ok answer =>
              rw [run_replies_ok service state call shown answer after ran] at last
              rcases stuck last full with refused | ⟨_, refused⟩
              · cases refused
              · cases refused
          | error error =>
              rw [run_call_refused service state call _ error after ran] at last ⊢
              rcases stuck last full with refused | ⟨unfit, refused⟩
              · cases refused
                exact .inl rfl
              · cases refused
                exact .inr ⟨unfit, rfl⟩
  | lists finish finishes =>
      left
      have refused : (list principal.tenant (some principal.subject) state.world).1 = .error .unavailable := dirty_list _ _ _ full
      cases ran : list principal.tenant (some principal.subject) state.world with
      | mk outcome after =>
          rw [ran] at refused
          subst refused
          exact congrArg Prod.fst (run_call_refused service state (.list principal.tenant (some principal.subject)) finish .unavailable
            after ran)

end Turning

end Serving

/-- No request of any store that calls made is answered unavailable, and each is answered as
it has to be, exactly when its store call has room. -/
theorem available_exact (service : Service) (extractors : Extractors) (invocations : List Invocation) (calls : Nat)
    (request : HttpRequest) (limit : Nat)
    (healthy : ∀ family count token, service.authority family count token ≠ .error .unavailable)
    (holds : HoldsStored service.store.keyring (runAll service.platform invocations).1)
    (distinct : Distinct service.platform limit)
    (last : (run service.perform (serve extractors request) ⟨(runAll service.platform invocations).1, calls⟩).2.world.drawn < limit) :
    let world := (runAll service.platform invocations).1
    let ledger := (runAll service.platform invocations).2
    let reply := (run service.perform (serve extractors request) ⟨world, calls⟩).1
    (reply ≠ .error .unavailable ∧ ∀ principal call, Passes service extractors request calls principal →
      storeCall extractors request principal = .ok call →
      Replied service.platform (service.clocks (calls + 1)) ledger world call reply) ↔
    ∀ principal call, Passes service extractors request calls principal → storeCall extractors request principal = .ok call →
      call.Room service.platform service.store (service.clocks (calls + 1)) ledger world := by
  intro world ledger reply
  have sound := run_sound service.platform invocations
  rcases serve_turns service extractors request ⟨world, calls⟩ healthy with
    ⟨principal, call, work, passes, called, turn, ran⟩ | ⟨nobody, refusal, refused, other⟩
  · have only (one : Principal) (its : StoreCall) (pass : Passes service extractors request calls one)
        (asks : storeCall extractors request one = .ok its) : its = call := by
      cases passes_unique service extractors request ⟨world, calls⟩ one principal pass passes
      exact Except.ok.inj (asks.symm.trans called)
    have replied : reply = (run service.perform work ⟨world, calls + 1⟩).1 := congrArg Prod.fst ran
    rw [ran] at last
    constructor
    · intro ⟨available, answers⟩ one its pass asks
      by_contra full
      have answer := answers one its pass asks
      cases only one its pass asks
      rw [replied] at available answer
      rcases turn_full service ⟨world, calls + 1⟩ ledger limit principal call work turn full sound holds distinct last with
        unavailable | ⟨unfit, missing⟩
      · exact available unavailable
      · obtain ⟨rule, invalid⟩ := answer.refused unfit
        rw [missing] at invalid
        cases rule <;> cases invalid
    · intro room
      obtain ⟨available, answer⟩ := turn_room service ⟨world, calls + 1⟩ ledger limit principal call work turn
        (room principal call passes called) sound holds distinct last
      rw [← replied] at available answer
      refine ⟨available, fun one its pass asks => ?_⟩
      cases only one its pass asks
      exact answer
  · constructor
    · intro _ principal _ pass
      exact absurd ⟨principal, pass⟩ nobody
    · intro _
      refine ⟨?_, fun principal _ pass => absurd ⟨principal, pass⟩ nobody⟩
      have shown : reply = .error refusal := refused
      rw [shown]
      exact fun same => other (Except.error.inj same)

namespace Sample

def readAt (reference : SecretRef) : HttpRequest := ⟨.workloadGet, bearerToken, none, ([], []), referenceCodec.print reference⟩

end Sample

theorem nul_read_unavailable : ¬ ∀ (service : Service) (extractors : Extractors) (invocations : List Invocation) (calls : Nat)
    (request : HttpRequest) (limit : Nat),
    (∀ family count token, service.authority family count token ≠ .error .unavailable) →
    HoldsStored service.store.keyring (runAll service.platform invocations).1 → Distinct service.platform limit →
    (run service.perform (serve extractors request) ⟨(runAll service.platform invocations).1, calls⟩).2.world.drawn < limit →
    (run service.perform (serve extractors request) ⟨(runAll service.platform invocations).1, calls⟩).1 ≠ .error .unavailable := by
  intro claim
  let request := Sample.readAt ⟨"t", "n", separator⟩
  have parsed : jsonBody wireExtractors .reference request = .ok ⟨"t", "n", separator⟩ :=
    wire_json_print _ .reference _ (by decide) rfl
  have served : run Sample.tenantService.perform (serve wireExtractors request) ⟨World.empty, 0⟩ =
      (.error .unavailable, ⟨World.empty, 2⟩) := by
    rw [serve, if_neg (by decide)]
    change run _ (workloadGet wireExtractors request) _ = _
    rw [workloadGet, parsed]
    rfl
  refine claim Sample.tenantService wireExtractors [] 0 request 1 ?_ ⟨?_, ?_⟩ (counting_distinct 1 (by decide)) ?_ ?_
  · intro family count token
    cases family <;> simp [Service.authority, Sample.tenantService]
  · intro address version found
    cases found
  · intro address row found
    cases found
  · exact lt_of_eq_of_lt (congrArg (fun ran : Except Refusal Reply × Serving => ran.2.world.drawn) served) Nat.one_pos
  · exact congrArg Prod.fst served

namespace Sample

def outgoing : SecretRef := ⟨"t", "n", "other"⟩

def standing : PrepareRequest := ⟨"workload:one", [.put (secret .workloadOnly 2), .delete outgoing]⟩

def standingBatch : List Invocation :=
  [⟨oldStore, clockAt 1, .call (.put (secret .workloadOnly 1))⟩,
    ⟨oldStore, clockAt 1, .call (.put { secret .workloadOnly 3 with reference := outgoing })⟩,
    ⟨oldStore, clockAt 1, .call (.prepare "t" transaction standing.mutations standing.actor)⟩]

def standingLedger : Ledger := (runAll countingPlatform standingBatch).2

theorem standing_applies : Applies countingPlatform oldStore "workload:one" (countingPlatform.indexFits ["t"] = true)
    standingLedger.records standing.mutations := by
  have first : (standingLedger.records reference).map Record.version = some 1 := by decide +kernel
  intro _
  have fits : countingPlatform.indexFits ["t"] = true := by decide
  refine ⟨⟨⟨by decide, by decide, by decide, by decide, by decide, fits⟩, ?_⟩, by decide, fun _ => fits⟩
  intro record known last
  rw [show (secret .workloadOnly 2).reference = reference from rfl] at known
  rw [known, Option.map_some, last] at first
  exact absurd (Option.some.inj first) (by decide)

set_option maxRecDepth 8000 in
theorem standing_room :
    CommitRoom countingPlatform oldStore (clockAt 2) standingLedger (runAll countingPlatform standingBatch).1 "t" transaction := by
  refine ⟨by decide, ?_⟩
  intro batch row live
  have known : standingLedger.batches ("t", transaction) = some ⟨standing.mutations, "workload:one", 601⟩ := rfl
  obtain rfl := Option.some.inj (known.symm.trans live.known)
  exact standing_applies

theorem standing_held : HoldsStored tenantService.store.keyring (runAll tenantService.platform standingBatch).1 := by
  have versions : ∀ version ∈ (runAll tenantService.platform standingBatch).1.versions.rows,
      tenantService.store.keyring.Holds version.envelope := by decide +kernel
  have prepared : ∀ row ∈ (runAll tenantService.platform standingBatch).1.prepared.rows,
      tenantService.store.keyring.Holds row.envelope := by decide +kernel
  exact ⟨fun _ _ found => versions _ (Table.find_mem _ _ _ found), fun _ _ found => prepared _ (Table.find_mem _ _ _ found)⟩

end Sample

theorem standing_commit_available :
    (run Sample.tenantService.perform (serve wireExtractors Sample.commitHeld) ⟨(runAll countingPlatform Sample.standingBatch).1, 0⟩).1 ≠
        .error .unavailable ∧
      (runAll countingPlatform Sample.standingBatch).1.secrets.rows.length = 2 := by
  refine ⟨((available_exact Sample.tenantService wireExtractors Sample.standingBatch 0 Sample.commitHeld 12 ?_ Sample.standing_held
    (counting_distinct 12 (by decide)) (by decide +kernel)).mpr ?_).1, by decide +kernel⟩
  · intro family count token
    cases family <;> simp [Service.authority, Sample.tenantService]
  · intro principal call _ called
    have asked : storeCall wireExtractors Sample.commitHeld principal = .ok (.commit "t" Sample.transaction) := by
      change (pathParams wireExtractors Sample.commitHeld).map (fun path => StoreCall.commit path.1 path.2) = _
      rw [Sample.commit_held_params]
      rfl
    obtain rfl := Except.ok.inj (called.symm.trans asked)
    exact Sample.standing_room

end Secrets
