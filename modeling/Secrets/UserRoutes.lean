import Secrets.Authorization
import Secrets.StoreSpec

set_option autoImplicit false

namespace Secrets

open Effects Effects.Tx Programs Tables

section Running
variable (service : Service) (extractors : Extractors) (request : HttpRequest)

theorem run_answered {Error Value : Type} (refuse : Error → Refusal) (outcome : Except Error Value) (state : Serving) :
    run service.perform (answered refuse outcome) state = (outcome.mapError refuse, state) := by
  cases outcome <;> rfl

theorem run_call_store (call : StoreCall) (state : Serving) :
    run service.perform (callStore call) state =
      ((call.perform service.platform service.store (service.clocks state.calls) state.world).1.mapError Refusal.ofStore,
        ⟨(call.perform service.platform service.store (service.clocks state.calls) state.world).2, state.calls + 1⟩) := by
  rw [callStore, run_ask, run_answered]
  rfl

theorem run_call_store_ok (call : StoreCall) (answer : call.Answer) (state after : Serving) :
    run service.perform (callStore call) state = (.ok answer, after) ↔
      call.perform service.platform service.store (service.clocks state.calls) state.world = (.ok answer, after.world) ∧
        after.calls = state.calls + 1 := by
  rw [run_call_store]
  cases call.perform service.platform service.store (service.clocks state.calls) state.world with
  | mk result world =>
      obtain ⟨last, calls⟩ := after
      cases result <;> simp [Except.mapError, and_assoc, eq_comm]

theorem run_verify_ok (family : Family) (token : String) (principal : Principal) (state after : Serving) :
    run service.perform (verify family token) state = (.ok principal, after) ↔
      service.authority family state.calls token = .ok principal ∧ after = { state with calls := state.calls + 1 } := by
  rw [verify, run_ask, run_answered]
  simp only [Service.perform]
  cases service.authority family state.calls token <;> simp [Except.mapError, eq_comm]

theorem run_authorize_ok (family : Family) (action : String) (principal : Principal) (state after : Serving)
    (ran : run service.perform (authorize request family action) state = (.ok principal, after)) :
    ∃ token, bearer request = some token ∧ service.authority family state.calls token = .ok principal ∧
      after = { state with calls := state.calls + 1 } := by
  simp only [authorize, run_bind_ok, run_lift, run_ensure, run_verify_ok, ensure_ok, Prog.pure_done, run_done, Prod.mk.injEq,
    Except.ok.injEq] at ran
  obtain ⟨token, _, ⟨carried, rfl⟩, _, _, ⟨verified, rfl⟩, _, _, ⟨_, rfl⟩, rfl, rfl⟩ := ran
  cases held : bearer request with
  | none => simp [held] at carried
  | some text =>
      rw [held] at carried
      cases carried
      exact ⟨token, rfl, verified, rfl⟩

theorem run_authorize_ref_ok (family : Family) (action : String) (reference : SecretRef) (principal : Principal)
    (state after : Serving)
    (ran : run service.perform (authorizeRef request family action reference) state = (.ok principal, after)) :
    (∃ token, bearer request = some token ∧ service.authority family state.calls token = .ok principal) ∧
      principal.tenant = reference.tenant ∧ after = { state with calls := state.calls + 1 } := by
  simp only [authorizeRef, run_bind_ok, tenantMatch, run_ensure, ensure_ok, Prog.pure_done, run_done, Prod.mk.injEq,
    Except.ok.injEq, decide_eq_true_eq] at ran
  obtain ⟨_, _, authorized, _, _, ⟨matched, rfl⟩, rfl, rfl⟩ := ran
  obtain ⟨token, carried, verified, rfl⟩ := run_authorize_ok service request family action _ _ _ authorized
  exact ⟨⟨token, carried, verified⟩, matched, rfl⟩

end Running

-- A record as a reply shows it, and whether the caller may see it.
def Reply.records : Reply → List SecretMetadata
  | .secrets list => list
  | .metadata shown => [shown]
  | .stored secret => [secret.metadata]
  | .exists _ => []
  | .noContent => []

def Reply.value : Reply → Option Framing.Bytes
  | .stored secret => some secret.value
  | _ => none

def OwnedBy (principal : Principal) (metadata : SecretMetadata) : Prop :=
  metadata.reference.tenant = principal.tenant ∧ metadata.ownerSubject = principal.subject

structure Own (service : Service) (request : HttpRequest) (state : Serving) (reply : Reply) : Prop where
  caller : ∃ token principal, bearer request = some token ∧ service.userAuthority state.calls token = .ok principal ∧
    ∀ metadata ∈ reply.records, OwnedBy principal metadata
  noValue : reply.value = none

theorem list_owned (tenant subject : String) (rows : List SecretMetadata) (before after : World)
    (ran : list tenant (some subject) before = (.ok rows, after)) :
    after = before ∧ ∀ metadata ∈ rows, metadata.reference.tenant = tenant ∧ metadata.ownerSubject = subject ∧
      ∃ row, before.secrets.find metadata.reference = some row ∧ row.ownerSubject = subject := by
  obtain ⟨same, members⟩ := list_ok tenant (some subject) rows before after ran
  refine ⟨same, fun metadata member => ?_⟩
  obtain ⟨row, matching, rfl⟩ := (members metadata).mp member
  obtain ⟨stored, tenants, owners⟩ := (mem_matching _ _ _ _).mp matching
  exact ⟨tenants, owners subject rfl, row, Table.find_of_mem _ _ stored, owners subject rfl⟩

section Owning
variable (service : Service) (extractors : Extractors) (request : HttpRequest) (state after : Serving)

theorem assert_owner_ok (principal : Principal) (reference : SecretRef) (done : Unit)
    (ran : run service.perform (assertOwner principal reference) state = (.ok done, after)) :
    after = { state with calls := state.calls + 1 } ∧
      ∃ row, state.world.secrets.find reference = some row ∧ row.ownerSubject = principal.subject := by
  simp only [assertOwner, run_bind_ok, run_ensure, ensure_ok] at ran
  obtain ⟨rows, middle, asked, owned, rfl⟩ := ran
  obtain ⟨listed, calls⟩ := (run_call_store_ok service _ _ _ _).mp asked
  obtain ⟨same, members⟩ := list_owned _ _ _ _ _ listed
  obtain ⟨metadata, member, named⟩ := List.any_eq_true.mp owned
  obtain ⟨_, _, row, found, owner⟩ := members metadata member
  rw [of_decide_eq_true named] at found
  obtain ⟨world, count⟩ := middle
  cases same
  cases calls
  exact ⟨rfl, row, found, owner⟩

theorem user_list_own (reply : Reply) (ran : run service.perform (userList request) state = (.ok reply, after)) :
    Own service request state reply := by
  simp only [userList, run_bind_ok, Prog.pure_done, run_done, Prod.mk.injEq, Except.ok.injEq] at ran
  obtain ⟨principal, _, authorized, rows, _, asked, rfl, rfl⟩ := ran
  obtain ⟨listed, _⟩ := (run_call_store_ok service _ _ _ _).mp asked
  obtain ⟨token, carried, verified, rfl⟩ := run_authorize_ok service request _ _ _ _ _ authorized
  obtain ⟨_, members⟩ := list_owned _ _ _ _ _ listed
  exact ⟨⟨token, principal, carried, verified, fun metadata member => ⟨(members metadata member).1,
    (members metadata member).2.1⟩⟩, rfl⟩

theorem user_detail_own (reply : Reply) (ran : run service.perform (userDetail extractors request) state = (.ok reply, after)) :
    Own service request state reply := by
  simp only [userDetail, run_bind_ok, run_lift, Prod.mk.injEq] at ran
  obtain ⟨reference, _, ⟨_, rfl⟩, principal, _, authorized, rows, _, asked, shown⟩ := ran
  obtain ⟨listed, _⟩ := (run_call_store_ok service _ _ _ _).mp asked
  obtain ⟨⟨token, carried, verified⟩, _, rfl⟩ := run_authorize_ref_ok service request _ _ _ _ _ _ authorized
  obtain ⟨_, members⟩ := list_owned _ _ _ _ _ listed
  cases found : rows.find? fun metadata => decide (metadata.reference = reference) with
  | none => simp [found] at shown
  | some metadata =>
      simp only [found, Prog.pure_done, run_done, Prod.mk.injEq, Except.ok.injEq] at shown
      obtain ⟨rfl, rfl⟩ := shown
      refine ⟨⟨token, principal, carried, verified, ?_⟩, rfl⟩
      intro shown member
      rw [Reply.records, List.mem_singleton] at member
      subst member
      have owned := members shown (List.mem_of_find?_eq_some found)
      exact ⟨owned.1, owned.2.1⟩

theorem user_revoke_own (reply : Reply) (ran : run service.perform (userRevoke extractors request) state = (.ok reply, after)) :
    Own service request state reply := by
  simp only [userRevoke, run_bind_ok, run_lift, Prog.pure_done, run_done, Prod.mk.injEq, Except.ok.injEq] at ran
  obtain ⟨reference, _, ⟨_, rfl⟩, principal, _, authorized, _, _, asserted, metadata, _, asked, rfl, rfl⟩ := ran
  obtain ⟨revoked, _⟩ := (run_call_store_ok service _ _ _ _).mp asked
  obtain ⟨⟨token, carried, verified⟩, tenant, rfl⟩ := run_authorize_ref_ok service request _ _ _ _ _ _ authorized
  obtain ⟨rfl, row, found, owner⟩ := assert_owner_ok service _ _ principal reference _ asserted
  obtain ⟨_, _, changed, there, rfl, _⟩ := revoke_ok _ _ _ _ _ _ _ revoked
  cases found.symm.trans there
  refine ⟨⟨token, principal, carried, verified, ?_⟩, rfl⟩
  intro shown member
  rw [Reply.records, List.mem_singleton] at member
  subst member
  have key := Table.find_key _ _ _ found
  exact ⟨by rw [tenant, ← key]; rfl, owner⟩

theorem user_delete_own (reply : Reply) (ran : run service.perform (userDelete extractors request) state = (.ok reply, after)) :
    Own service request state reply := by
  simp only [userDelete, run_bind_ok, run_lift, Prog.pure_done, run_done, Prod.mk.injEq, Except.ok.injEq] at ran
  obtain ⟨reference, _, ⟨_, rfl⟩, principal, _, authorized, _, _, _, _, _, _, rfl, rfl⟩ := ran
  obtain ⟨⟨token, carried, verified⟩, _, rfl⟩ := run_authorize_ref_ok service request _ _ _ _ _ _ authorized
  exact ⟨⟨token, principal, carried, verified, by simp [Reply.records]⟩, rfl⟩

theorem user_route_own (user : request.route.family = .user) (reply : Reply)
    (ran : run service.perform (serve extractors request) state = (.ok reply, after)) : Own service request state reply := by
  rw [serve] at ran
  split at ran
  · cases ran
  · obtain ⟨route, authorization, contentLength, segments, body⟩ := request
    cases route with
    | userList => exact user_list_own service _ state after reply ran
    | userDetail => exact user_detail_own service extractors _ state after reply ran
    | userRevoke => exact user_revoke_own service extractors _ state after reply ran
    | userDelete => exact user_delete_own service extractors _ state after reply ran
    | _ => cases user

end Owning

def SameSecrets (left right : World) : Prop := left.secrets = right.secrets

section Blindness
variable (platform : Platform) (clock : Clock) (left right : World) (same : SameSecrets left right)
include same

theorem audit_same_secrets (tenant : String) (id : Option Uuid) (actor : String) (action : AuditAction) :
    Matches SameSecrets (audit platform tenant id actor action left) (audit platform tenant id actor action right) := by
  refine matches_bind _ _ _ _ _ _ _ (matches_ensure _ _ _ _ _ same) fun _ _ _ _ _ same => ?_
  refine matches_bind _ _ _ _ _ _ _ (matches_ensure _ _ _ _ _ same) fun _ _ _ _ _ same => ?_
  exact matches_write _ _ _ _ same

theorem list_same_secrets (tenant : String) (owner : Option String) :
    Matches SameSecrets (list tenant owner left) (list tenant owner right) := by
  refine matches_bind _ _ _ _ _ _ _ ?_ fun _ _ _ _ _ same => matches_pure _ _ _ _ same
  refine matches_bind _ _ _ _ _ _ _ (matches_ensure _ _ _ _ _ same) fun _ first second _ _ same => ?_
  exact matches_read _ _ _ _ (by unfold World.matching; rw [same]) same

theorem find_same_secrets (reference : SecretRef) :
    Matches SameSecrets ((read fun world => world.secrets.find reference : Sql _) left)
      ((read fun world => world.secrets.find reference : Sql _) right) :=
  matches_read _ _ _ _ (congrArg (fun secrets => Table.find secrets reference) same) same

theorem delete_same_secrets (reference : SecretRef) (actor : String) :
    Matches SameSecrets (delete platform reference actor left) (delete platform reference actor right) := by
  refine matches_atomic _ _ _ _ _ _ ?_ fun _ _ _ => same
  refine matches_bind _ _ _ _ _ _ _ ?_ fun gone first second _ _ same => ?_
  · refine matches_bind _ _ _ _ _ _ _ (matches_ensure _ _ _ _ _ same) fun _ _ _ _ _ same => ?_
    refine matches_bind _ _ _ _ _ _ _ (find_same_secrets _ _ same reference) fun found first second _ _ same => ?_
    cases found with
    | none => exact matches_pure _ _ _ _ same
    | some row =>
        refine matches_bind _ _ _ _ _ _ _ (matches_write _ _ _ _ ?_) fun _ _ _ _ _ same => matches_pure _ _ _ _ same
        exact congrArg (fun secrets : Table SecretRow SecretRef SecretRow.reference =>
          secrets.discard fun other => decide (other.reference = row.reference)) same
  · cases gone with
    | none => exact matches_fail _ _ _ _ same
    | some id => exact audit_same_secrets platform first second same _ _ _ _

theorem revoke_same_secrets (reference : SecretRef) (actor : String) :
    Matches SameSecrets (revoke platform clock reference actor left) (revoke platform clock reference actor right) := by
  refine matches_atomic _ _ _ _ _ _ ?_ fun _ _ _ => same
  refine matches_bind _ _ _ _ _ _ _ ?_ fun changed first second _ _ same => ?_
  · refine matches_bind _ _ _ _ _ _ _ (matches_ensure _ _ _ _ _ same) fun _ _ _ _ _ same => ?_
    refine matches_bind _ _ _ _ _ _ _ (find_same_secrets _ _ same reference) fun found first second _ _ same => ?_
    cases found with
    | none => exact matches_pure _ _ _ _ same
    | some row =>
        refine matches_bind _ _ _ _ _ _ _ (matches_write _ _ _ _ ?_) fun _ _ _ _ _ same => matches_pure _ _ _ _ same
        exact congrArg (fun secrets : Table SecretRow SecretRef SecretRow.reference =>
          secrets.amend reference (SecretRow.revokedAt clock.transaction) fun _ => rfl) same
  · cases changed with
    | none => exact matches_fail _ _ _ _ same
    | some id =>
        refine matches_bind _ _ _ _ _ _ _ (audit_same_secrets platform first second same _ _ _ _)
          fun _ first second _ _ same => ?_
        refine matches_bind _ _ _ _ _ _ _ ?_ fun found _ _ _ _ same => ?_
        · refine matches_bind _ _ _ _ _ _ _ (matches_ensure _ _ _ _ _ same) fun _ _ _ _ _ same => ?_
          exact find_same_secrets _ _ same reference
        · cases found with
          | none => exact matches_fail _ _ _ _ same
          | some row => exact matches_pure _ _ _ _ same

end Blindness

def UserCall : ServiceCall → Prop
  | .verify family _ => family = .user
  | .store (.list _ _) => True
  | .store (.revoke _ _) => True
  | .store (.delete _ _) => True
  | _ => False

theorem authorize_user_asks (request : HttpRequest) (action : String) :
    (authorize request .user action).Asks UserCall := by
  refine Prog.asks_bind _ _ _ ?_ fun token => ?_
  · cases bearer request <;> trivial
  refine Prog.asks_bind _ _ _ ⟨rfl, fun _ => answered_asks _ _ _⟩ fun principal => ?_
  exact Prog.asks_bind _ _ _ (ensure_asks _ _ _) fun _ => trivial

theorem read_reference_asks (extractors : Extractors) (request : HttpRequest) (action : String)
    (work : SecretRef → Principal → Handler Reply) (works : ∀ reference principal, (work reference principal).Asks UserCall) :
    (Prog.lift (jsonBody extractors .reference request) >>= fun reference =>
      authorizeRef request .user action reference >>= work reference).Asks UserCall := by
  refine Prog.asks_bind _ _ _ ?_ fun reference => ?_
  · cases jsonBody extractors .reference request <;> trivial
  refine Prog.asks_bind _ _ _ ?_ fun principal => works reference principal
  refine Prog.asks_bind _ _ _ (authorize_user_asks request action) fun principal => ?_
  exact Prog.asks_bind _ _ _ (ensure_asks _ _ _) fun _ => trivial

theorem user_route_asks (extractors : Extractors) (request : HttpRequest) (user : request.route.family = .user) :
    (serve extractors request).Asks UserCall := by
  rw [serve]
  split
  · trivial
  · obtain ⟨route, authorization, contentLength, segments, body⟩ := request
    cases route with
    | userList =>
        refine Prog.asks_bind _ _ _ (authorize_user_asks _ _) fun principal => ?_
        exact Prog.asks_bind _ _ _ (call_store_asks _ _ trivial) fun _ => trivial
    | userDetail =>
        refine read_reference_asks extractors _ _ _ fun reference principal => ?_
        refine Prog.asks_bind _ _ _ (call_store_asks _ _ trivial) fun rows => ?_
        split <;> trivial
    | userRevoke =>
        refine read_reference_asks extractors _ _ _ fun reference principal => ?_
        refine Prog.asks_bind _ _ _ (assert_owner_asks _ _ _ trivial) fun _ => ?_
        exact Prog.asks_bind _ _ _ (call_store_asks _ _ trivial) fun _ => trivial
    | userDelete =>
        refine read_reference_asks extractors _ _ _ fun reference principal => ?_
        refine Prog.asks_bind _ _ _ (assert_owner_asks _ _ _ trivial) fun _ => ?_
        exact Prog.asks_bind _ _ _ (call_store_asks _ _ trivial) fun _ => trivial
    | _ => cases user

def SameRecords (left right : Serving) : Prop := SameSecrets left.world right.world ∧ left.calls = right.calls

theorem user_call_alike (service : Service) (call : ServiceCall) (left right : Serving) (asked : UserCall call)
    (same : SameRecords left right) :
    (service.perform call left).1 = (service.perform call right).1 ∧
      SameRecords (service.perform call left).2 (service.perform call right).2 := by
  obtain ⟨world, calls⟩ := left
  obtain ⟨other, _⟩ := right
  obtain ⟨same, rfl⟩ := same
  have from_store (call : StoreCall) (matched : Matches SameSecrets
      (call.perform service.platform service.store (service.clocks calls) world)
      (call.perform service.platform service.store (service.clocks calls) other)) :
      (service.perform (.store call) ⟨world, calls⟩).1 = (service.perform (.store call) ⟨other, calls⟩).1 ∧
        SameRecords (service.perform (.store call) ⟨world, calls⟩).2 (service.perform (.store call) ⟨other, calls⟩).2 :=
    ⟨matched.1, matched.2, rfl⟩
  cases call with
  | verify family token => exact ⟨rfl, same, rfl⟩
  | store call =>
      cases call with
      | list tenant owner => exact from_store _ (list_same_secrets world other same tenant owner)
      | revoke reference actor =>
          exact from_store _ (revoke_same_secrets service.platform (service.clocks calls) world other same reference actor)
      | delete reference actor => exact from_store _ (delete_same_secrets service.platform world other same reference actor)
      | _ => cases asked

theorem user_route_blind (service : Service) (extractors : Extractors) (request : HttpRequest)
    (user : request.route.family = .user) (left right : Serving) (same : SameRecords left right) :
    Matches SameRecords (run service.perform (serve extractors request) left)
      (run service.perform (serve extractors request) right) :=
  matches_run service.perform service.perform SameRecords UserCall (user_call_alike service) _
    (user_route_asks extractors request user) left right same

end Secrets
