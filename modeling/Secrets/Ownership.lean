import Secrets.Requests
import Secrets.Runs
import Secrets.UserRoutes

set_option autoImplicit false

namespace Secrets

open Effects Effects.Tx Programs Tables

def BelongsTo (world : World) (reference : SecretRef) (subject : String) : Prop :=
  ∀ row, world.secrets.find reference = some row → row.ownerSubject = subject

def ownerAfter (reference : SecretRef) (mutations : List Mutation) (owner : Option String) : Option String :=
  mutations.foldl (fun owner mutation =>
    match mutation with
    | .put secret => if secret.reference = reference then some secret.ownerSubject else owner
    | .delete gone => if gone = reference then none else owner) owner

def Reowns (platform : Platform) (store : PostgresStore) (world : World) (reference : SecretRef) (subject : String) :
    StoreCall → Prop
  | .put input => input.reference = reference ∧ input.ownerSubject ≠ subject
  | .commit tenant transaction => ∃ row expiry mutations owner, world.prepared.find (tenant, transaction) = some row ∧
      BatchOpens platform store row expiry mutations ∧ ownerAfter reference mutations none = some owner ∧ owner ≠ subject
  | _ => False

section Owners
variable (platform : Platform) (store : PostgresStore) (clock : Clock) (before after : World) (reference : SecretRef)
  (subject : String)

theorem belongs_same (same : after.secrets = before.secrets) (belongs : BelongsTo before reference subject) :
    BelongsTo after reference subject := by
  intro row found
  rw [same] at found
  exact belongs row found

def ownerAt (world : World) (reference : SecretRef) : Option String :=
  (world.secrets.find reference).map SecretRow.ownerSubject

theorem belongs_owner_at : BelongsTo before reference subject ↔ ∀ owner, ownerAt before reference = some owner → owner = subject := by
  unfold BelongsTo ownerAt
  cases before.secrets.find reference <;> simp

theorem put_owner (input : PutSecret) (actor : String) (metadata : SecretMetadata)
    (ran : putTx platform store clock input actor before = (.ok metadata, after)) :
    ownerAt after reference = if input.reference = reference then some input.ownerSubject else ownerAt before reference := by
  have done := put_tx_ok platform store clock input actor before after metadata ran
  rw [ownerAt, done.secrets]
  by_cases hit : input.reference = reference
  · rw [if_pos hit, if_pos hit, Option.map_some, (put_row_fields platform before clock input).1]
  · rw [if_neg hit, if_neg hit, ownerAt]

theorem delete_owner (gone : SecretRef) (actor : String) (done : Unit)
    (ran : deleteTx platform gone actor before = (.ok done, after)) :
    ownerAt after reference = if gone = reference then none else ownerAt before reference := by
  obtain ⟨_, _, _, row, found, rfl⟩ := (delete_tx_ok platform gone actor done before after).mp ran
  have key : row.reference = gone := Table.find_key _ _ _ found
  have dropped := find_drop_secret before row reference
  rw [key] at dropped
  rw [ownerAt, ownerAt, auditing, dropped]
  by_cases hit : gone = reference
  · rw [if_pos hit, if_pos hit, Option.map_none]
  · rw [if_neg hit, if_neg hit]

theorem mutations_owner (actor : String) (mutations : List Mutation) (done : Unit)
    (ran : forEach (applyMutation platform store clock actor) mutations before = (.ok done, after)) :
    ownerAt after reference = ownerAfter reference mutations (ownerAt before reference) := by
  induction mutations generalizing before with
  | nil =>
      cases ran
      rfl
  | cons mutation rest ih =>
      rw [for_each_cons, bind_ok] at ran
      obtain ⟨_, middle, here, later⟩ := ran
      rw [ih middle later, ownerAfter, ownerAfter, List.foldl_cons]
      congr 1
      cases mutation with
      | put secret =>
          simp only [applyMutation, bind_ok, pure_run, Prod.mk.injEq] at here
          obtain ⟨metadata, _, put, _, rfl⟩ := here
          exact put_owner platform store clock before _ reference secret actor metadata put
      | delete gone =>
          exact delete_owner platform before middle reference gone actor _ ((map_error_ok _ _ _ _ _).mp here)

theorem owner_after_cases (mutations : List Mutation) (start : Option String) :
    ownerAfter reference mutations start = start ∨ ownerAfter reference mutations start = ownerAfter reference mutations none := by
  induction mutations generalizing start with
  | nil => exact .inl rfl
  | cons mutation rest ih =>
      simp only [ownerAfter, List.foldl_cons] at ih ⊢
      cases mutation with
      | put secret =>
          by_cases hit : secret.reference = reference
          · simp only [if_pos hit]
            exact .inr trivial
          · simp only [if_neg hit]
            exact ih start
      | delete gone =>
          by_cases hit : gone = reference
          · simp only [if_pos hit]
            exact .inr trivial
          · simp only [if_neg hit]
            exact ih start

theorem perform_belongs (call : StoreCall) (harmless : ¬Reowns platform store before reference subject call)
    (belongs : BelongsTo before reference subject) :
    BelongsTo (call.perform platform store clock before).2 reference subject := by
  cases ran : call.perform platform store clock before with
  | mk outcome after =>
      cases call with
      | get wanted => exact belongs_same _ _ _ _ (congrArg World.secrets (still_after _ (get_still store wanted) _ _ _ ran)) belongs
      | existsActive wanted => exact belongs_same _ _ _ _ (congrArg World.secrets (still_after _ (exists_still wanted) _ _ _ ran)) belongs
      | list tenant owner => exact belongs_same _ _ _ _ (congrArg World.secrets (still_after _ (list_still tenant owner) _ _ _ ran)) belongs
      | put input =>
          cases outcome with
          | error error =>
              rw [atomic_rollback _ _ _ _ ran]
              exact belongs
          | ok metadata =>
              rw [belongs_owner_at] at belongs ⊢
              rw [put_owner platform store clock before after reference input _ metadata ((atomic_ok _ _ _ _ _).mp ran)]
              by_cases hit : input.reference = reference
              · rw [if_pos hit]
                rintro owner named
                cases named
                exact not_not.mp fun foreign => harmless ⟨hit, foreign⟩
              · rwa [if_neg hit]
      | delete gone actor =>
          cases outcome with
          | error error =>
              rw [atomic_rollback _ _ _ _ ran]
              exact belongs
          | ok done =>
              rw [belongs_owner_at] at belongs ⊢
              rw [delete_owner platform before after reference gone actor done ((atomic_ok _ _ _ _ _).mp ran)]
              by_cases hit : gone = reference
              · simp [if_pos hit]
              · rwa [if_neg hit]
      | revoke wanted actor =>
          cases outcome with
          | error error =>
              rw [atomic_rollback _ _ _ _ ran]
              exact belongs
          | ok metadata =>
              obtain ⟨_, _, _, _, _, rfl⟩ := revoke_ok platform clock wanted actor metadata before after ran
              intro row found
              rw [auditing, find_revoking] at found
              by_cases hit : wanted = reference
              · rw [if_pos hit] at found
                obtain ⟨old, there, rfl⟩ := Option.map_eq_some_iff.mp found
                exact belongs old there
              · rw [if_neg hit] at found
                exact belongs row found
      | prepare tenant transaction mutations actor =>
          cases outcome with
          | error error =>
              exact belongs_same _ _ _ _
                (prepare_error platform store clock tenant transaction mutations actor before error after ran).secrets belongs
          | ok done =>
              have same := (prepare_ok platform store clock tenant transaction mutations actor done before after ran).rest
              exact belongs_same _ _ _ _ (congrArg World.secrets same) belongs
      | abort tenant transaction =>
          cases outcome with
          | error error =>
              rw [abort_error store clock tenant transaction before after error ran]
              exact belongs
          | ok done =>
              obtain ⟨_, _, _, rfl⟩ := abort_ok store clock tenant transaction done before after ran
              exact belongs
      | commit tenant transaction =>
          cases outcome with
          | error error =>
              exact belongs_same _ _ _ _
                (commit_error platform store clock tenant transaction before error after ran).secrets belongs
          | ok done =>
              obtain ⟨row, expiry, mutations, applied, committed⟩ := commit_ok platform store clock tenant transaction done before after ran
              rw [committed.rest]
              have folded := mutations_owner platform store clock _ applied reference _ mutations () committed.ran
              rw [belongs_owner_at] at belongs ⊢
              intro owner named
              change ownerAt applied reference = some owner at named
              rw [folded] at named
              rcases owner_after_cases reference mutations (ownerAt (claimed clock tenant transaction before) reference) with kept | batch
              · rw [kept] at named
                exact belongs owner named
              · rw [batch] at named
                exact not_not.mp fun foreign =>
                  harmless ⟨row, expiry, mutations, owner, committed.held, committed.opens, named, foreign⟩

end Owners

def changed : Handler Reply → Option SecretRef
  | .ask (.store (.revoke reference _)) _ => some reference
  | .ask (.store (.delete reference _)) _ => some reference
  | _ => none

def callerAfter (caller : Option String) : (call : ServiceCall) → call.Answer → Option String
  | .verify _ _, .ok principal => some principal.subject
  | _, _ => caller

def caller (past : List Asked) : Option String :=
  past.foldl (fun known asked => callerAfter known asked.call asked.answer) none

def ShowsOwn (known : Option String) (reference : SecretRef) : (call : ServiceCall) → call.Answer → Prop
  | .store (.list _ owner), .ok rows =>
      (∃ subject, known = some subject ∧ owner = some subject) ∧ ∃ metadata ∈ rows, metadata.reference = reference
  | _, _ => False

-- No record is revoked or deleted but right after the store listed it as the
-- caller's.
def Guarded (known : Option String) : Handler Reply → Prop
  | .done _ => True
  | .stop _ => True
  | .ask call next => ∀ answer,
      (∀ reference, changed (next answer) = some reference → ShowsOwn known reference call answer) ∧
        Guarded (callerAfter known call answer) (next answer)

def Quiet (known : Option String) (prog : Handler Reply) : Prop := changed prog = none ∧ Guarded known prog

section Guarding
variable (extractors : Extractors) (request : HttpRequest)

theorem guarded_ask (known : Option String) (call : ServiceCall) (next : call.Answer → Handler Reply)
    (quiet : ∀ answer, Quiet (callerAfter known call answer) (next answer)) : Guarded known (.ask call next) := by
  intro answer
  obtain ⟨still, guarded⟩ := quiet answer
  refine ⟨fun reference changes => ?_, guarded⟩
  rw [still] at changes
  cases changes

theorem quiet_authorize (action : String) (next : Principal → Handler Reply)
    (later : ∀ principal, Quiet (some principal.subject) (next principal)) (known : Option String) :
    Quiet known (authorize request .user action >>= next) := by
  cases carried : bearer request with
  | none =>
      rw [authorize, carried]
      exact ⟨rfl, trivial⟩
  | some token =>
      rw [authorize_bind request .user action token carried]
      refine ⟨rfl, guarded_ask _ _ _ fun answer => ?_⟩
      cases answer with
      | error error => exact ⟨rfl, trivial⟩
      | ok principal =>
          change Quiet (some principal.subject) (Prog.ensure (principal.permits action) .missingAction >>= fun _ =>
            next principal)
          cases principal.permits action with
          | false => exact ⟨rfl, trivial⟩
          | true => exact later principal

theorem quiet_reference (action : String) (work : SecretRef → Principal → Handler Reply)
    (later : ∀ reference principal, Quiet (some principal.subject) (work reference principal)) (known : Option String) :
    Quiet known (Prog.lift (jsonBody extractors .reference request) >>= fun reference =>
      authorizeRef request .user action reference >>= work reference) := by
  cases jsonBody extractors .reference request with
  | error refusal => exact ⟨rfl, trivial⟩
  | ok reference =>
      simp only [Prog.lift, Prog.done_bind, authorize_ref_admits]
      refine quiet_authorize request action _ (fun principal => ?_) known
      rw [tenantMatches]
      cases (some reference.tenant).all fun tenant => decide (principal.tenant = tenant) with
      | false => exact ⟨rfl, trivial⟩
      | true => exact later reference principal

theorem guarded_answer (known : Option String) (call : StoreCall) (next : call.Answer → Reply) :
    Guarded known (callStore call >>= fun answer => pure (next answer)) := by
  refine guarded_ask _ _ _ fun answer => ?_
  cases answer <;> exact ⟨rfl, trivial⟩

theorem guarded_owner (principal : Principal) (reference : SecretRef) (next : Handler Reply)
    (changes : changed next = some reference) (later : ∀ known, Guarded known next) :
    Guarded (some principal.subject) (assertOwner principal reference >>= fun _ => next) := by
  intro answer
  cases answer with
  | error error => exact ⟨fun _ changes => (by cases changes), trivial⟩
  | ok rows =>
      change (∀ other, changed (Prog.ensure (rows.any _) Refusal.notOwned >>= fun _ => next) = some other → _) ∧
        Guarded _ (Prog.ensure (rows.any _) Refusal.notOwned >>= fun _ => next)
      cases owned : rows.any fun metadata => decide (metadata.reference = reference) with
      | false => exact ⟨fun _ changes => (by cases changes), trivial⟩
      | true =>
          refine ⟨fun other again => ?_, later _⟩
          cases changes.symm.trans again
          obtain ⟨metadata, member, named⟩ := List.any_eq_true.mp owned
          exact ⟨⟨_, rfl, rfl⟩, metadata, member, of_decide_eq_true named⟩

theorem quiet_serve (user : request.route.family = .user) : Quiet none (serve extractors request) := by
  rw [serve]
  split
  · exact ⟨rfl, trivial⟩
  · obtain ⟨route, authorization, contentLength, segments, body⟩ := request
    cases route with
    | userList => exact quiet_authorize _ _ _ (fun principal => ⟨rfl, guarded_answer _ _ _⟩) _
    | userDetail =>
        refine quiet_reference extractors _ _ _ (fun reference principal => ⟨rfl, guarded_ask _ _ _ fun answer => ?_⟩) _
        cases answer with
        | error error => exact ⟨rfl, trivial⟩
        | ok rows =>
            dsimp only [answered, Prog.chain]
            split <;> exact ⟨rfl, trivial⟩
    | userRevoke =>
        refine quiet_reference extractors _ _ _ (fun reference principal => ⟨rfl, ?_⟩) _
        exact guarded_owner principal reference _ rfl fun known => guarded_answer known _ _
    | userDelete =>
        refine quiet_reference extractors _ _ _ (fun reference principal => ⟨rfl, ?_⟩) _
        exact guarded_owner principal reference _ rfl fun known => guarded_answer known _ _
    | _ => cases user

end Guarding

abbrev Session := Thread HttpRequest ServiceCall ServiceCall.Answer Refusal Reply

abbrev Sessions := Pool HttpRequest Serving ServiceCall ServiceCall.Answer Refusal Reply

def arriving (extractors : Extractors) (requests : List HttpRequest) (state : Serving) : Sessions :=
  ⟨state, requests.map fun request => ⟨request, [], serve extractors request⟩⟩

def ChangesOwn (pool : Sessions) (index : Nat) : Prop :=
  ∀ session reference row, pool.threads[index]? = some session → session.tag.route.family = .user →
    changed session.prog = some reference → pool.shared.world.secrets.find reference = some row →
    caller session.past = some row.ownerSubject

-- The turn reowns no record that another user request has been shown as its
-- caller's and is about to change.
def Undisturbed (service : Service) (pool : Sessions) (index : Nat) : Prop :=
  ∀ session call next, pool.threads[index]? = some session → session.prog = .ask (.store call) next →
    ∀ place other reference subject, place ≠ index → pool.threads[place]? = some other →
      other.tag.route.family = .user → changed other.prog = some reference → caller other.past = some subject →
      ¬Reowns service.platform service.store pool.shared.world reference subject call

def SessionOwns (state : Serving) (session : Session) : Prop :=
  session.tag.route.family = .user → Guarded (caller session.past) session.prog ∧
    ∀ reference, changed session.prog = some reference →
      ∃ subject, caller session.past = some subject ∧ BelongsTo state.world reference subject

section Racing
variable (service : Service)

theorem caller_snoc (past : List Asked) (call : ServiceCall) (answer : call.Answer) :
    caller (past ++ [⟨call, answer⟩]) = callerAfter (caller past) call answer := by
  rw [caller, List.foldl_append]
  rfl

theorem shown_belongs (known : Option String) (reference : SecretRef) (call : ServiceCall) (state : Serving)
    (shows : ShowsOwn known reference call (service.perform call state).1) :
    ∃ subject, callerAfter known call (service.perform call state).1 = some subject ∧
      BelongsTo (service.perform call state).2.world reference subject := by
  cases call with
  | verify family token => cases shows
  | store call =>
      cases call with
      | list tenant owner =>
          cases ran : list tenant owner state.world with
          | mk outcome after =>
              have answer : (service.perform (.store (.list tenant owner)) state).1 = outcome := by
                simp only [Service.perform, StoreCall.perform, ran]
              have world : (service.perform (.store (.list tenant owner)) state).2.world = after := by
                simp only [Service.perform, StoreCall.perform, ran]
              rw [answer] at shows ⊢
              rw [world]
              cases outcome with
              | error error => cases shows
              | ok rows =>
                  obtain ⟨⟨subject, rfl, rfl⟩, metadata, member, rfl⟩ := shows
                  obtain ⟨rfl, members⟩ := list_owned _ _ _ _ _ ran
                  obtain ⟨_, _, row, found, owner⟩ := members metadata member
                  refine ⟨subject, rfl, fun other there => ?_⟩
                  cases found.symm.trans there
                  exact owner
      | _ => cases shows

theorem turn_owns (pool : Sessions) (index : Nat) (undisturbed : Undisturbed service pool index)
    (everywhere : pool.Everywhere SessionOwns) : (pool.turn service.perform index).Everywhere SessionOwns := by
  refine Pool.turn_everywhere service.perform SessionOwns pool index ?_ ?_ everywhere
  · intro session call next found asks place other apart there owns user
    obtain ⟨guarded, belongs⟩ := owns user
    refine ⟨guarded, fun reference changes => ?_⟩
    obtain ⟨subject, known, belongs⟩ := belongs reference changes
    refine ⟨subject, known, ?_⟩
    cases call with
    | verify family token => exact belongs
    | store call =>
        exact perform_belongs service.platform service.store _ _ reference subject call
          (undisturbed session call next found asks place other reference subject apart there user changes known) belongs
  · intro request past call next found owns user
    obtain ⟨guarded, _⟩ := owns user
    obtain ⟨shows, later⟩ := guarded (service.perform call pool.shared).1
    refine ⟨?_, fun reference changes => ?_⟩
    · rw [caller_snoc]
      exact later
    · rw [caller_snoc]
      exact shown_belongs service _ reference call pool.shared (shows reference changes)

theorem arriving_owns (extractors : Extractors) (requests : List HttpRequest) (state : Serving) :
    (arriving extractors requests state).Everywhere SessionOwns := by
  intro session member user
  obtain ⟨request, _, rfl⟩ := List.mem_map.mp member
  obtain ⟨still, guarded⟩ := quiet_serve extractors request user
  refine ⟨guarded, fun reference changes => ?_⟩
  rw [show changed (serve extractors request) = some reference from changes] at still
  cases still

theorem turns_own (pool : Sessions) (schedule : List Nat)
    (undisturbed : ∀ before index after, schedule = before ++ index :: after →
      Undisturbed service (pool.turns service.perform before) index)
    (everywhere : pool.Everywhere SessionOwns) : (pool.turns service.perform schedule).Everywhere SessionOwns := by
  induction schedule generalizing pool with
  | nil => exact everywhere
  | cons index rest ih =>
      refine ih (pool.turn service.perform index) (fun before next after split => ?_)
        (turn_owns service pool index (undisturbed [] index rest rfl) everywhere)
      exact undisturbed (index :: before) next after (by rw [split]; rfl)

end Racing

/-- However requests take turns, a user changes only records that are theirs at that moment,
as long as no other request gives one away behind the ownership check. -/
theorem user_changes_own (service : Service) (extractors : Extractors) (requests : List HttpRequest) (state : Serving)
    (schedule : List Nat)
    (undisturbed : ∀ before index after, schedule = before ++ index :: after →
      Undisturbed service ((arriving extractors requests state).turns service.perform before) index) (index : Nat) :
    ChangesOwn ((arriving extractors requests state).turns service.perform schedule) index := by
  intro session reference row found user changes there
  have owns := turns_own service _ schedule undisturbed (arriving_owns extractors requests state) session
    (List.mem_of_getElem? found)
  obtain ⟨subject, known, belongs⟩ := (owns user).2 reference changes
  rw [known, belongs row there]

namespace Sample

def revokeOwn : HttpRequest :=
  ⟨.userRevoke, [textBytes "Bearer token"], none, ([], []), referenceCodec.print reference⟩

def handOver : HttpRequest :=
  ⟨.workloadPut, [textBytes "Bearer token"], none, ([], []),
    putSecretCodec.print { secret .workloadOnly 2 with ownerSubject := "user:two" }⟩

def service : Service where
  platform := countingPlatform
  store := oldStore
  clocks _ := clockAt 2
  userAuthority _ _ := .ok ⟨"user:one", "t", ["secret:revoke"]⟩
  workloadAuthority _ _ := .ok ⟨"workload:one", "t", ["secret:write"]⟩

def owned : Serving := ⟨(put countingPlatform oldStore (clockAt 1) (secret .workloadOnly 1) World.empty).2, 0⟩

def racing : Sessions := (arriving wireExtractors [revokeOwn, handOver] owned).turns service.perform [0, 0, 1, 1]

end Sample

set_option maxRecDepth 8000 in
theorem put_races_revoke : ¬ ∀ (service : Service) (extractors : Extractors) (requests : List HttpRequest) (state : Serving)
    (schedule : List Nat) (index : Nat),
    ChangesOwn ((arriving extractors requests state).turns service.perform schedule) index := by
  intro claim
  obtain ⟨session, found, user, changes, revoker⟩ : ∃ session, Sample.racing.threads[0]? = some session ∧
      session.tag.route.family = .user ∧ changed session.prog = some Sample.reference ∧
      caller session.past = some "user:one" := ⟨_, rfl, rfl, rfl, rfl⟩
  obtain ⟨row, there, owner⟩ : ∃ row, Sample.racing.shared.world.secrets.find Sample.reference = some row ∧
      row.ownerSubject = "user:two" := ⟨_, rfl, rfl⟩
  have own := claim Sample.service wireExtractors [Sample.revokeOwn, Sample.handOver] Sample.owned [0, 0, 1, 1] 0
    session Sample.reference row found user changes there
  rw [revoker, owner] at own
  exact absurd own (by decide)

namespace Sample

def renew : HttpRequest :=
  ⟨.workloadPut, [textBytes "Bearer token"], none, ([], []), putSecretCodec.print (secret .workloadOnly 3)⟩

def renewing (schedule : List Nat) : Sessions := (arriving wireExtractors [revokeOwn, renew] owned).turns service.perform schedule

def pending (pool : Sessions) (index : Nat) : Option StoreCall :=
  match pool.threads[index]? with
  | some session =>
      match session.prog with
      | .ask (.store call) _ => some call
      | _ => none
  | none => none

theorem pending_call (pool : Sessions) (index : Nat) (session : Session) (call : StoreCall)
    (next : ServiceCall.Answer (.store call) → Handler Reply) (found : pool.threads[index]? = some session)
    (asks : session.prog = .ask (.store call) next) : pending pool index = some call := by
  rw [pending, found]
  dsimp only
  rw [asks]

set_option maxRecDepth 8000 in
theorem renewing_undisturbed (before : List Nat) (index : Nat) (after : List Nat) (split : [0, 0, 1, 1] = before ++ index :: after) :
    Undisturbed service (renewing before) index := by
  intro session call next found asks place other reference subject apart there user changes known reowns
  have asked := pending_call _ index session call next found asks
  rcases before with _ | ⟨first, _ | ⟨second, _ | ⟨third, _ | ⟨fourth, rest⟩⟩⟩⟩
  · cases split
    cases asked
  · cases split
    cases asked
    exact reowns
  · cases split
    cases asked
  · cases split
    cases asked
    rcases place with _ | _ | more
    · cases there
      cases known
      exact reowns.2 rfl
    · exact apart rfl
    · cases there
  · simp at split

end Sample

set_option maxRecDepth 8000 in
theorem renewed_revoke_changes_own :
    ChangesOwn (Sample.renewing [0, 0, 1, 1]) 0 ∧
      ((Sample.renewing [0, 0, 1, 1]).shared.world.secrets.find Sample.reference).map SecretRow.currentVersion = some 2 :=
  ⟨user_changes_own Sample.service wireExtractors [Sample.revokeOwn, Sample.renew] Sample.owned [0, 0, 1, 1] Sample.renewing_undisturbed 0, rfl⟩

end Secrets
