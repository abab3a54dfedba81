import Secrets.Ownership
import Secrets.TenantIsolation

set_option autoImplicit false

namespace Secrets

open Effects Effects.Tx Programs Tables

-- Every record can be managed by somebody.
def OwnersNamed (world : World) : Prop := ∀ reference row, world.secrets.find reference = some row → row.ownerSubject ≠ ""

theorem owners_named_at (world : World) : OwnersNamed world ↔ ∀ reference, ownerAt world reference ≠ some "" := by
  unfold OwnersNamed ownerAt
  refine forall_congr' fun reference => ?_
  cases world.secrets.find reference <;> simp

-- The batch leaves some record with no owner's name.
def Ownerless (mutations : List Mutation) : Prop := ∃ reference, ownerAfter reference mutations none = some ""

theorem owner_after_either (reference : SecretRef) (mutations : List Mutation) (first second : Option String) :
    ownerAfter reference mutations first = ownerAfter reference mutations second ∨
      ownerAfter reference mutations first = first ∧ ownerAfter reference mutations second = second := by
  induction mutations generalizing first second with
  | nil => exact .inr ⟨rfl, rfl⟩
  | cons mutation rest ih =>
      simp only [ownerAfter, List.foldl_cons] at ih ⊢
      cases mutation with
      | put secret =>
          by_cases hit : secret.reference = reference
          · simp only [if_pos hit]
            exact .inl trivial
          · simp only [if_neg hit]
            exact ih first second
      | delete gone =>
          by_cases hit : gone = reference
          · simp only [if_pos hit]
            exact .inl trivial
          · simp only [if_neg hit]
            exact ih first second

theorem owner_after_some (reference : SecretRef) (mutations : List Mutation) (owner : String) (start : Option String)
    (leaves : ownerAfter reference mutations none = some owner) : ownerAfter reference mutations start = some owner := by
  rcases owner_after_either reference mutations start none with same | ⟨_, kept⟩
  · rw [same, leaves]
  · rw [kept] at leaves
    cases leaves

section Calls
variable (platform : Platform) (store : PostgresStore) (clock : Clock) (world : World) (named : OwnersNamed world)

def GivesNoOwner : ServiceCall → Prop
  | .store (.put _) => False
  | .store (.commit _ _) => False
  | _ => True

include named

theorem quiet_named (call : StoreCall) (quiet : GivesNoOwner (.store call)) : OwnersNamed (call.perform platform store clock world).2 := by
  intro reference row found
  have harmless (subject : String) : ¬Reowns platform store world reference subject call := by
    cases call <;> first | exact not_false | cases quiet
  cases there : world.secrets.find reference with
  | some old =>
      have owner := perform_belongs platform store clock world reference old.ownerSubject call (harmless _)
        (fun row again => by cases there.symm.trans again; rfl) row found
      rw [owner]
      exact named reference old there
  | none =>
      have owner := perform_belongs platform store clock world reference "nobody" call (harmless _)
        (fun row again => by cases there.symm.trans again) row found
      rw [owner]
      decide

theorem put_named (input : PutSecret) (owner : input.ownerSubject ≠ "") : OwnersNamed (put platform store clock input world).2 := by
  cases ran : put platform store clock input world with
  | mk outcome after =>
      cases outcome with
      | error error =>
          rw [atomic_rollback _ _ _ _ ran]
          exact named
      | ok metadata =>
          rw [owners_named_at] at named ⊢
          intro reference
          rw [put_owner platform store clock world after reference input _ metadata ((atomic_ok _ _ _ _ _).mp ran)]
          split
          · simpa using owner
          · exact named reference

end Calls

section Commits
variable (platform : Platform) (store : PostgresStore) (clock : Clock) (before after : World) (tenant : String) (transaction : Uuid)

theorem commit_owner (row : PreparedRow) (expiry : Int) (mutations : List Mutation) (applied : World)
    (done : CommitDone platform store clock tenant transaction before after row expiry mutations applied) (reference : SecretRef) :
    ownerAt after reference = ownerAfter reference mutations (ownerAt before reference) := by
  rw [done.rest]
  exact mutations_owner platform store clock (claimed clock tenant transaction before) applied reference row.actor mutations () done.ran

theorem commit_named (named : OwnersNamed before) (outcome : Except StoreError Unit)
    (ran : commit platform store clock tenant transaction before = (outcome, after))
    (fit : ∀ done row expiry mutations, outcome = .ok done → before.prepared.find (tenant, transaction) = some row →
      BatchOpens platform store row expiry mutations → ¬Ownerless mutations) : OwnersNamed after := by
  cases outcome with
  | error error =>
      have same := (commit_error platform store clock tenant transaction before error after ran).secrets
      intro reference row found
      rw [same] at found
      exact named reference row found
  | ok done =>
      obtain ⟨row, expiry, mutations, applied, finished⟩ := commit_ok platform store clock tenant transaction done before after ran
      have owned := fit done row expiry mutations rfl finished.held finished.opens
      rw [owners_named_at] at named ⊢
      intro reference
      rw [commit_owner platform store clock before after tenant transaction row expiry mutations applied finished]
      rcases owner_after_either reference mutations (ownerAt before reference) none with same | ⟨kept, _⟩
      · rw [same]
        exact fun empty => owned ⟨reference, empty⟩
      · rw [kept]
        exact named reference

end Commits
def CarriesOut (service : Service) (extractors : Extractors) (request : HttpRequest) (state : Serving)
    (mutations : List Mutation) : Prop :=
  request.route = .workloadCommit ∧ ∃ tenant transaction row expiry after,
    pathParams extractors request = .ok (tenant, transaction) ∧ state.world.prepared.find (tenant, transaction) = some row ∧
      BatchOpens service.platform service.store row expiry mutations ∧
      run service.perform (serve extractors request) state = (.ok .noContent, after)

section Requests
variable (service : Service) (extractors : Extractors) (request : HttpRequest)

theorem authorize_asks (allowed : ServiceCall → Prop) (verifies : ∀ family token, allowed (.verify family token))
    (family : Family) (action : String) : (authorize request family action).Asks allowed := by
  refine Prog.asks_bind _ _ _ ?_ fun token => ?_
  · cases bearer request <;> trivial
  refine Prog.asks_bind _ _ _ ⟨verifies family token, fun _ => answered_asks _ _ _⟩ fun principal => ?_
  exact Prog.asks_bind _ _ _ (ensure_asks _ _ _) fun _ => trivial

theorem authorize_ref_asks (allowed : ServiceCall → Prop) (verifies : ∀ family token, allowed (.verify family token))
    (family : Family) (action : String) (reference : SecretRef) : (authorizeRef request family action reference).Asks allowed :=
  Prog.asks_bind _ _ _ (authorize_asks request allowed verifies family action) fun _ =>
    Prog.asks_bind _ _ _ (ensure_asks _ _ _) fun _ => trivial

theorem lift_asks {Value : Type} (allowed : ServiceCall → Prop) (result : Except Refusal Value) :
    (Prog.lift result : Handler Value).Asks allowed := by
  cases result <;> trivial

theorem quiet_route_asks (quiet : request.route ≠ .workloadPut ∧ request.route ≠ .workloadCommit) :
    (handle extractors request).Asks GivesNoOwner := by
  have authorized (family : Family) (action : String) := authorize_asks request GivesNoOwner (fun _ _ => trivial) family action
  have referred (family : Family) (action : String) (reference : SecretRef) :=
    authorize_ref_asks request GivesNoOwner (fun _ _ => trivial) family action reference
  have matched (principal : Principal) (tenant : String) : (tenantMatch principal tenant).Asks GivesNoOwner := ensure_asks _ _ _
  rw [handle]
  cases route : request.route with
  | userList =>
      exact Prog.asks_bind _ _ _ (authorized _ _) fun _ => Prog.asks_bind _ _ _ (call_store_asks _ _ trivial) fun _ => trivial
  | userDetail =>
      refine Prog.asks_bind _ _ _ (lift_asks _ _) fun reference => Prog.asks_bind _ _ _ (referred _ _ _) fun principal => ?_
      refine Prog.asks_bind _ _ _ (call_store_asks _ _ trivial) fun rows => ?_
      split <;> trivial
  | userRevoke =>
      refine Prog.asks_bind _ _ _ (lift_asks _ _) fun reference => Prog.asks_bind _ _ _ (referred _ _ _) fun principal => ?_
      refine Prog.asks_bind _ _ _ (assert_owner_asks _ _ _ trivial) fun _ => ?_
      exact Prog.asks_bind _ _ _ (call_store_asks _ _ trivial) fun _ => trivial
  | userDelete =>
      refine Prog.asks_bind _ _ _ (lift_asks _ _) fun reference => Prog.asks_bind _ _ _ (referred _ _ _) fun principal => ?_
      refine Prog.asks_bind _ _ _ (assert_owner_asks _ _ _ trivial) fun _ => ?_
      exact Prog.asks_bind _ _ _ (call_store_asks _ _ trivial) fun _ => trivial
  | workloadPut => exact absurd route quiet.1
  | workloadGet =>
      refine Prog.asks_bind _ _ _ (lift_asks _ _) fun reference => Prog.asks_bind _ _ _ (referred _ _ _) fun _ => ?_
      exact Prog.asks_bind _ _ _ (call_store_asks _ _ trivial) fun _ => trivial
  | workloadExists =>
      refine Prog.asks_bind _ _ _ (lift_asks _ _) fun reference => Prog.asks_bind _ _ _ (referred _ _ _) fun _ => ?_
      exact Prog.asks_bind _ _ _ (call_store_asks _ _ trivial) fun _ => trivial
  | workloadList =>
      refine Prog.asks_bind _ _ _ (lift_asks _ _) fun scope => Prog.asks_bind _ _ _ (authorized _ _) fun principal => ?_
      refine Prog.asks_bind _ _ _ (matched _ _) fun _ => ?_
      exact Prog.asks_bind _ _ _ (call_store_asks _ _ trivial) fun _ => trivial
  | workloadDelete =>
      refine Prog.asks_bind _ _ _ (lift_asks _ _) fun input => Prog.asks_bind _ _ _ (referred _ _ _) fun _ => ?_
      exact Prog.asks_bind _ _ _ (call_store_asks _ _ trivial) fun _ => trivial
  | workloadPrepare =>
      refine Prog.asks_bind _ _ _ (lift_asks _ _) fun params => Prog.asks_bind _ _ _ (lift_asks _ _) fun input => ?_
      refine Prog.asks_bind _ _ _ (authorized _ _) fun principal => Prog.asks_bind _ _ _ (matched _ _) fun _ => ?_
      exact Prog.asks_bind _ _ _ (call_store_asks _ _ trivial) fun _ => trivial
  | workloadCommit => exact absurd route quiet.2
  | workloadAbort =>
      refine Prog.asks_bind _ _ _ (lift_asks _ _) fun params => Prog.asks_bind _ _ _ (authorized _ _) fun principal => ?_
      refine Prog.asks_bind _ _ _ (matched _ _) fun _ => ?_
      exact Prog.asks_bind _ _ _ (call_store_asks _ _ trivial) fun _ => trivial

theorem quiet_call_named (call : ServiceCall) (state : Serving) (quiet : GivesNoOwner call) (named : OwnersNamed state.world) :
    OwnersNamed (service.perform call state).2.world := by
  cases call with
  | verify family token => exact named
  | store call => exact quiet_named service.platform service.store (service.clocks state.calls) state.world named call quiet

def naming : Frame Serving := Frame.preserving fun state => OwnersNamed state.world

theorem authorize_naming (prog : Handler Principal) (asks : prog.Asks GivesNoOwner) : Within naming (run service.perform prog) :=
  within_run service.perform naming GivesNoOwner (fun call state quiet => quiet_call_named service call state quiet) prog asks

variable (subjects : ∀ family calls token principal, service.authority family calls token = .ok principal → principal.subject ≠ "")
include subjects

theorem workload_put_named (state : Serving) :
    naming.rel state (run service.perform (workloadPut extractors request) state).2 := by
  rw [workloadPut, run_bind]
  refine within_at_bind _ _ _ _ ?_ fun input middle parsed => ?_
  · rw [run_lift]
    exact naming.refl state
  rw [run_lift] at parsed
  cases (Prod.mk.inj parsed).2
  rw [run_bind]
  refine within_at_bind _ _ _ _ ?_ fun principal middle authorized => ?_
  · exact authorize_naming service _ (authorize_ref_asks request _ (fun _ _ => trivial) _ _ _) state
  obtain ⟨⟨token, _, verified⟩, _, rfl⟩ := run_authorize_ref_ok service request _ _ _ _ _ _ authorized
  rw [run_bind]
  refine within_at_bind _ _ _ _ ?_ fun _ _ _ => naming.refl _
  rw [run_call_store]
  intro named
  refine put_named service.platform service.store _ _ named _ ?_
  dsimp only
  split
  · exact subjects _ _ _ _ verified
  · rename_i filled
    intro empty
    rw [empty] at filled
    exact filled rfl

omit subjects in
theorem workload_commit_named (route : request.route = .workloadCommit) (small : declaredTooLarge request = false) (state : Serving)
    (named : OwnersNamed state.world)
    (fit : ∀ mutations, CarriesOut service extractors request state mutations → ¬Ownerless mutations) :
    OwnersNamed (run service.perform (workloadCommit extractors request) state).2.world := by
  have served : serve extractors request = workloadCommit extractors request := by
    rw [serve, small, handle, route]
    rfl
  rw [workloadCommit, run_bind]
  refine within_at_bind naming _ _ _ ?_ (fun params middle parsed => ?_) named
  · rw [run_lift]
    exact naming.refl state
  obtain ⟨tenant, transaction⟩ := params
  have placed := parsed
  rw [run_lift] at placed
  obtain ⟨parsedPath, rfl⟩ := Prod.mk.inj placed
  dsimp only
  rw [run_bind]
  refine within_at_bind naming _ _ _ (authorize_naming service _ (authorize_asks request _ (fun _ _ => trivial) _ _) _) ?_
  intro principal last authorized
  obtain ⟨_, _, _, rfl⟩ := run_authorize_ok service request _ _ _ _ _ authorized
  rw [run_bind]
  refine within_at_bind naming _ _ _ ?_ fun done final matched => ?_
  · rw [tenantMatch, run_ensure]
    exact within_ensure naming _ _ _
  have stayed := matched
  rw [tenantMatch, run_ensure, ensure_ok] at stayed
  obtain ⟨_, rfl⟩ := stayed
  rw [run_bind]
  refine within_at_bind naming _ _ _ ?_ fun _ _ _ => naming.refl _
  intro named
  rw [run_call_store]
  refine commit_named service.platform service.store _ _ _ tenant transaction named _ rfl ?_
  intro finished row expiry mutations succeeded held opens
  refine fit mutations ⟨route, tenant, transaction, row, expiry, ?_, parsedPath, held, opens, ?_⟩
  · exact (run service.perform (callStore (.commit tenant transaction)) { state with calls := state.calls + 1 }).2
  · rw [served, workloadCommit, run_bind_ok]
    refine ⟨(tenant, transaction), state, parsed, ?_⟩
    rw [run_bind_ok]
    refine ⟨principal, _, authorized, ?_⟩
    rw [run_bind_ok]
    refine ⟨done, _, matched, ?_⟩
    rw [run_bind_ok]
    refine ⟨finished, _, ?_, rfl⟩
    rw [run_call_store]
    exact Prod.ext (congrArg (Except.mapError Refusal.ofStore) succeeded) rfl

theorem serve_named (state : Serving) (named : OwnersNamed state.world)
    (fit : ∀ mutations, CarriesOut service extractors request state mutations → ¬Ownerless mutations) :
    OwnersNamed (run service.perform (serve extractors request) state).2.world := by
  cases small : declaredTooLarge request with
  | true =>
      rw [serve, small]
      exact named
  | false =>
      have served : serve extractors request = handle extractors request := by
        rw [serve, small]
        rfl
      by_cases commits : request.route = .workloadCommit
      · have committed := workload_commit_named service extractors request commits small state named fit
        rwa [served, handle, commits]
      · by_cases puts : request.route = .workloadPut
        · have put := workload_put_named service extractors request subjects state named
          rwa [served, handle, puts]
        · rw [served]
          exact within_run service.perform naming GivesNoOwner
            (fun call state quiet => quiet_call_named service call state quiet) _
            (quiet_route_asks extractors request ⟨puts, commits⟩) state named

end Requests
theorem carried_out_owners (service : Service) (extractors : Extractors) (request : HttpRequest) (state : Serving)
    (mutations : List Mutation) (carried : CarriesOut service extractors request state mutations) (ownerless : Ownerless mutations) :
    ¬OwnersNamed (run service.perform (serve extractors request) state).2.world := by
  obtain ⟨route, tenant, transaction, row, expiry, after, placed, held, opens, ran⟩ := carried
  obtain ⟨reference, empty⟩ := ownerless
  rw [owners_named_at, ran]
  intro named
  rw [serve] at ran
  split at ran
  · cases ran
  rw [handle, route] at ran
  simp only [workloadCommit, placed, Prog.lift, Prog.done_bind, run_bind_ok, tenantMatch, run_ensure, ensure_ok, Prog.pure_done,
    run_done, Prod.mk.injEq] at ran
  obtain ⟨principal, _, authorized, _, _, ⟨_, rfl⟩, _, _, committed, _, rfl⟩ := ran
  obtain ⟨_, _, _, rfl⟩ := run_authorize_ok service request _ _ _ _ _ authorized
  obtain ⟨performed, _⟩ := (run_call_store_ok service _ _ _ _).mp committed
  obtain ⟨found, again, list, applied, done⟩ := commit_ok service.platform service.store _ tenant transaction _ _ _ performed
  cases held.symm.trans done.held
  obtain ⟨rfl, rfl⟩ := batch_opens_unique service.platform service.store row expiry again mutations list opens done.opens
  refine named reference ?_
  rw [commit_owner service.platform service.store _ _ _ tenant transaction row expiry mutations applied done]
  exact owner_after_some reference mutations "" _ empty

theorem serve_all_snoc (service : Service) (extractors : Extractors) (served : List HttpRequest) (request : HttpRequest)
    (state : Serving) :
    (service.serveAll extractors (served ++ [request]) state).2 =
      (run service.perform (serve extractors request) (service.serveAll extractors served state).2).2 := by
  induction served generalizing state with
  | nil => rfl
  | cons first rest ih => exact ih _

/-- Requests from an empty store: every record has a named owner in every state they reach
exactly when no commit among them carries out a batch that leaves a record without one. -/
theorem owners_named_exact (service : Service) (extractors : Extractors) (requests : List HttpRequest) (calls : Nat)
    (subjects : ∀ family calls token principal, service.authority family calls token = .ok principal → principal.subject ≠ "") :
    (∀ served later, requests = served ++ later →
      OwnersNamed (service.serveAll extractors served ⟨World.empty, calls⟩).2.world) ↔
    ∀ served request later, requests = served ++ request :: later → ∀ mutations,
      CarriesOut service extractors request (service.serveAll extractors served ⟨World.empty, calls⟩).2 mutations →
        ¬Ownerless mutations := by
  constructor
  · intro named served request later split mutations carried ownerless
    have after := named (served ++ [request]) later (by rw [split, List.append_assoc]; rfl)
    rw [serve_all_snoc] at after
    exact carried_out_owners service extractors request _ mutations carried ownerless after
  · intro fit served
    induction served using List.reverseRecOn with
    | nil =>
        intro later _ reference row found
        cases found
    | append_singleton served request ih =>
        intro later split
        rw [List.append_assoc] at split
        rw [serve_all_snoc]
        exact serve_named service extractors request subjects _ (ih ([request] ++ later) split) (fit served request later split)

namespace Sample

def ownerlessBatch : PrepareRequest := ⟨"workload:one", [.put { secret .workloadOnly 1 with ownerSubject := "" }]⟩

def prepareOwnerless : HttpRequest :=
  ⟨.workloadPrepare, bearerToken, none, (textBytes "t", textBytes "ffffffff-ffff-ffff-ffff-ffffffffffff"),
    prepareRequestCodec.print ownerlessBatch⟩

def putOwnerless : HttpRequest :=
  ⟨.workloadPut, bearerToken, none, ([], []), putSecretCodec.print { secret .workloadOnly 1 with ownerSubject := "" }⟩

end Sample

theorem committed_without_owner : ¬ ∀ (service : Service) (extractors : Extractors) (requests : List HttpRequest) (calls : Nat),
    (∀ family calls token principal, service.authority family calls token = .ok principal → principal.subject ≠ "") →
    OwnersNamed (service.serveAll extractors requests ⟨World.empty, calls⟩).2.world := by
  intro claim
  have named := claim Sample.tenantService wireExtractors [Sample.prepareOwnerless, Sample.commitHeld] 0 ?_
  · have empty : ownerAt (Sample.tenantService.serveAll wireExtractors [Sample.prepareOwnerless, Sample.commitHeld]
        ⟨World.empty, 0⟩).2.world Sample.reference = some "" := by decide +kernel
    exact (owners_named_at _).mp named Sample.reference empty
  · intro family calls token principal verified
    cases family <;> (cases verified; decide)

namespace Sample

def namedBatch : PrepareRequest :=
  ⟨"workload:one", [.put { secret .workloadOnly 1 with ownerSubject := "" }, .put (secret .workloadOnly 2)]⟩

def prepareNamed : HttpRequest := { prepareOwnerless with body := prepareRequestCodec.print namedBatch }

def served (requests : List HttpRequest) : World := (tenantService.serveAll wireExtractors requests ⟨World.empty, 0⟩).2.world

def namedRow : PreparedRow :=
  preparedRow countingPlatform oldStore (clockAt 2) "t" transaction namedBatch.mutations "workload:one" (served [putOwnerless])

theorem named_row_held : (served [putOwnerless, prepareNamed]).prepared.find ("t", transaction) = some namedRow := by decide +kernel

theorem named_row_opens : BatchOpens countingPlatform oldStore namedRow 602 namedBatch.mutations :=
  ⟨_, _, (open_ok _ _ _ _).mpr ⟨key 201, rfl, envelope_of_sealed _ _ _ _⟩,
    split_expiry_payload _ _ (saturating_add_fits _ _), jsonCodec.readsBack _⟩

theorem named_batch_owned : ¬Ownerless namedBatch.mutations := by
  rintro ⟨other, empty⟩
  by_cases same : reference = other <;> simp [ownerAfter, namedBatch, secret, same] at empty

def namedRequests : List HttpRequest := [putOwnerless, prepareNamed, commitHeld]

end Sample

theorem ownerless_put_named :
    OwnersNamed (Sample.served Sample.namedRequests) ∧ ownerAt (Sample.served Sample.namedRequests) Sample.reference = some "user:one" := by
  refine ⟨?_, by decide +kernel⟩
  refine (owners_named_exact Sample.tenantService wireExtractors Sample.namedRequests 0 ?_).mpr ?_ Sample.namedRequests [] rfl
  · intro family calls token principal verified
    cases family <;> (cases verified; decide)
  · intro served request later split mutations carried
    rcases served with _ | ⟨first, _ | ⟨second, _ | ⟨third, rest⟩⟩⟩
    · cases split
      cases carried.1
    · cases split
      cases carried.1
    · cases split
      obtain ⟨_, tenant, transaction, row, expiry, after, params, found, opens, _⟩ := carried
      cases Sample.commit_held_params.symm.trans params
      have held := Sample.named_row_held
      rw [Sample.served] at held
      obtain rfl := Option.some.inj (held.symm.trans found)
      rw [(batch_opens_unique _ _ _ _ _ _ _ opens Sample.named_row_opens).2]
      exact Sample.named_batch_owned
    · simp [Sample.namedRequests] at split

end Secrets
