import Secrets.Http

set_option autoImplicit false

namespace Secrets

open Effects Programs

namespace Route

def family : Route → Family
  | .userList | .userDetail | .userRevoke | .userDelete => .user
  | _ => .workload

def action : Route → String
  | .userList => "secret:list"
  | .userDetail => "secret:read_metadata"
  | .userRevoke => "secret:revoke"
  | .userDelete => "secret:delete"
  | .workloadPut => "secret:write"
  | .workloadGet => "secret:read_value"
  | .workloadExists => "secret:read_metadata"
  | .workloadList => "secret:list"
  | .workloadDelete => "secret:delete"
  | .workloadPrepare => "secret:prepare"
  | .workloadCommit => "secret:commit"
  | .workloadAbort => "secret:abort"

end Route

def StoreCall.tenant : StoreCall → String
  | .put input => input.reference.tenant
  | .get reference => reference.tenant
  | .existsActive reference => reference.tenant
  | .delete reference _ => reference.tenant
  | .revoke reference _ => reference.tenant
  | .list tenant _ => tenant
  | .prepare tenant _ _ _ => tenant
  | .commit tenant _ => tenant
  | .abort tenant _ => tenant

def AddressedTo (tenant : String) : ServiceCall → Prop
  | .verify _ _ => False
  | .store call => call.tenant = tenant

section Admission
variable (extractors : Extractors) (request : HttpRequest)

def extraction : Except Refusal (Option String) :=
  match request.route with
  | .userList => .ok none
  | .userDetail | .userRevoke | .userDelete | .workloadGet | .workloadExists =>
      (jsonBody extractors .reference request).map fun reference => some reference.tenant
  | .workloadPut => (jsonBody extractors .putSecret request).map fun input => some input.reference.tenant
  | .workloadList => (jsonBody extractors .scope request).map fun scope => some scope.tenant
  | .workloadDelete => (jsonBody extractors .deleteRequest request).map fun input => some input.reference.tenant
  | .workloadPrepare =>
      match pathParams extractors request with
      | .error refusal => .error refusal
      | .ok params => (jsonBody extractors .prepareRequest request).map fun _ => some params.1
  | .workloadCommit | .workloadAbort => (pathParams extractors request).map fun params => some params.1

def received : Except Refusal (Option String) :=
  if declaredTooLarge request then .error .tooLarge else extraction extractors request

def tenantMatches (principal : Principal) (addressed : Option String) : Handler Unit :=
  Prog.ensure (addressed.all fun tenant => decide (principal.tenant = tenant)) .forbidden

def admitting (body : Principal → Handler Reply) : Handler Reply := do
  let addressed ← Prog.lift (extraction extractors request)
  let principal ← authorize request request.route.family request.route.action
  tenantMatches principal addressed
  body principal

structure Serves (body : Handler Reply) (principal : Principal) : Prop where
  turns : ∃ call next, body = .ask (.store call) next
  addressed : body.Asks (AddressedTo principal.tenant)

theorem authorize_bind {Value : Type} (family : Family) (action token : String) (carried : bearer request = some token)
    (next : Principal → Handler Value) :
    (authorize request family action >>= next) = .ask (.verify family token) fun answer =>
      answered Refusal.ofAuth answer >>= fun principal =>
        Prog.ensure (principal.permits action) .missingAction >>= fun _ => next principal := by
  rw [authorize, carried]
  simp only [Option.elim_some, Prog.lift, Prog.done_bind, verify, Prog.ask_bind, Prog.bind_assoc, Prog.pure_done]

theorem authorize_ref_admits (family : Family) (action : String) (reference : SecretRef)
    (body : Principal → Handler Reply) :
    (authorizeRef request family action reference >>= body) =
      authorize request family action >>= fun principal =>
        tenantMatches principal (some reference.tenant) >>= fun _ => body principal := by
  rw [authorizeRef, Prog.bind_assoc]
  congr
  funext principal
  rw [Prog.bind_assoc]
  rfl

theorem answered_asks {Error Value : Type} (allowed : ServiceCall → Prop) (refuse : Error → Refusal) (outcome : Except Error Value) :
    (answered refuse outcome).Asks allowed := by
  cases outcome <;> trivial

theorem call_store_asks (allowed : ServiceCall → Prop) (call : StoreCall) (fits : allowed (.store call)) :
    (callStore call).Asks allowed := ⟨fits, fun _ => answered_asks _ _ _⟩

theorem ensure_asks (allowed : ServiceCall → Prop) (holds : Bool) (refused : Refusal) :
    (Prog.ensure holds refused : Handler Unit).Asks allowed := by
  cases holds <;> trivial

theorem assert_owner_asks (allowed : ServiceCall → Prop) (principal : Principal) (reference : SecretRef)
    (fits : allowed (.store (.list principal.tenant (some principal.subject)))) :
    (assertOwner principal reference).Asks allowed :=
  Prog.asks_bind _ _ _ (call_store_asks _ _ fits) fun _ => ensure_asks _ _ _

theorem call_store_serves (principal : Principal) (call : StoreCall) (next : call.Answer → Handler Reply)
    (fits : call.tenant = principal.tenant) (later : ∀ answer, (next answer).Asks (AddressedTo principal.tenant)) :
    Serves (callStore call >>= next) principal :=
  ⟨⟨call, _, rfl⟩, Prog.asks_bind _ _ _ (call_store_asks _ _ fits) later⟩

theorem assert_owner_serves (principal : Principal) (reference : SecretRef) (next : Handler Reply)
    (later : next.Asks (AddressedTo principal.tenant)) : Serves (assertOwner principal reference >>= fun _ => next) principal :=
  ⟨⟨.list principal.tenant (some principal.subject), _, rfl⟩,
    Prog.asks_bind _ _ _ (assert_owner_asks _ _ _ rfl) fun _ => later⟩

def Admits : Prop :=
  ∃ body : Principal → Handler Reply, handle extractors request = admitting extractors request body ∧
    ∀ principal addressed, extraction extractors request = .ok addressed →
      (∀ tenant, addressed = some tenant → principal.tenant = tenant) → Serves (body principal) principal

theorem admitting_input {Input : Type} (parsed : Except Refusal Input) (tenantOf : Input → String)
    (work : Input → Principal → Handler Reply)
    (names : extraction extractors request = parsed.map fun input => some (tenantOf input))
    (written : handle extractors request = Prog.lift parsed >>= fun input =>
      authorize request request.route.family request.route.action >>= fun principal =>
        tenantMatches principal (some (tenantOf input)) >>= fun _ => work input principal) :
    ∃ body, handle extractors request = admitting extractors request body ∧ ∀ input, parsed = .ok input → body = work input := by
  cases parsed with
  | error refusal =>
      refine ⟨fun _ => .stop refusal, ?_, fun input read => by cases read⟩
      rw [written, admitting, names]
      rfl
  | ok input =>
      refine ⟨work input, ?_, fun other read => by cases read; rfl⟩
      rw [written, admitting, names]
      rfl

theorem extraction_read {Input : Type} (parsed : Except Refusal Input) (tenantOf : Input → String) (addressed : Option String)
    (names : extraction extractors request = parsed.map fun input => some (tenantOf input))
    (extracted : extraction extractors request = .ok addressed) :
    ∃ input, parsed = .ok input ∧ addressed = some (tenantOf input) := by
  rw [names] at extracted
  cases parsed with
  | error refusal => cases extracted
  | ok input =>
      cases extracted
      exact ⟨input, rfl, rfl⟩

theorem admits_input {Input : Type} (parsed : Except Refusal Input) (tenantOf : Input → String)
    (work : Input → Principal → Handler Reply)
    (names : extraction extractors request = parsed.map fun input => some (tenantOf input))
    (written : handle extractors request = Prog.lift parsed >>= fun input =>
      authorize request request.route.family request.route.action >>= fun principal =>
        tenantMatches principal (some (tenantOf input)) >>= fun _ => work input principal)
    (serves : ∀ input principal, principal.tenant = tenantOf input → Serves (work input principal) principal) :
    Admits extractors request := by
  obtain ⟨body, same, works⟩ := admitting_input extractors request parsed tenantOf work names written
  refine ⟨body, same, fun principal addressed extracted matched => ?_⟩
  obtain ⟨input, read, rfl⟩ := extraction_read extractors request parsed tenantOf addressed names extracted
  rw [works input read]
  exact serves input principal (matched _ rfl)

theorem admits_reference {Input : Type} (parsed : Except Refusal Input) (referenceOf : Input → SecretRef)
    (work : Input → Principal → Handler Reply)
    (names : extraction extractors request = parsed.map fun input => some (referenceOf input).tenant)
    (written : handle extractors request = Prog.lift parsed >>= fun input =>
      authorizeRef request request.route.family request.route.action (referenceOf input) >>= work input)
    (serves : ∀ input principal, principal.tenant = (referenceOf input).tenant → Serves (work input principal) principal) :
    Admits extractors request := by
  refine admits_input extractors request parsed (fun input => (referenceOf input).tenant) work names ?_ serves
  rw [written]
  simp only [authorize_ref_admits]

theorem handle_admits : Admits extractors request := by
  obtain ⟨route, authorization, contentLength, segments, body⟩ := request
  cases route with
  | userList =>
      refine ⟨fun principal => callStore (.list principal.tenant (some principal.subject)) >>= fun secrets =>
        pure (.secrets secrets), rfl, fun principal _ _ _ => ?_⟩
      exact call_store_serves _ _ _ rfl fun _ => trivial
  | userDetail =>
      refine admits_reference _ _ _ id _ rfl rfl fun reference principal _ => ?_
      refine call_store_serves _ _ _ rfl fun rows => ?_
      split <;> trivial
  | userRevoke =>
      refine admits_reference _ _ _ id _ rfl rfl fun reference principal same => ?_
      refine assert_owner_serves _ _ _ ?_
      exact Prog.asks_bind _ _ _ (call_store_asks _ _ same.symm) fun _ => trivial
  | userDelete =>
      refine admits_reference _ _ _ id _ rfl rfl fun reference principal same => ?_
      refine assert_owner_serves _ _ _ ?_
      exact Prog.asks_bind _ _ _ (call_store_asks _ _ same.symm) fun _ => trivial
  | workloadPut =>
      refine admits_reference _ _ _ PutSecret.reference _ rfl rfl fun input principal same => ?_
      exact call_store_serves _ _ _ same.symm fun _ => trivial
  | workloadGet =>
      refine admits_reference _ _ _ id _ rfl rfl fun reference principal same => ?_
      exact call_store_serves _ _ _ same.symm fun _ => trivial
  | workloadExists =>
      refine admits_reference _ _ _ id _ rfl rfl fun reference principal same => ?_
      exact call_store_serves _ _ _ same.symm fun _ => trivial
  | workloadList =>
      refine admits_input _ _ _ ScopeRequest.tenant _ rfl rfl fun scope principal same => ?_
      exact call_store_serves _ _ _ same.symm fun _ => trivial
  | workloadDelete =>
      refine admits_reference _ _ _ DeleteRequest.reference _ rfl rfl fun input principal same => ?_
      exact call_store_serves _ _ _ same.symm fun _ => trivial
  | workloadPrepare =>
      cases params : pathParams extractors ⟨.workloadPrepare, authorization, contentLength, segments, body⟩ with
      | error refusal =>
          refine ⟨fun _ => .stop refusal, ?_, ?_⟩
          · simp [handle, workloadPrepare, admitting, extraction, params, Prog.lift]
          · intro principal addressed extracted
            simp [extraction, params] at extracted
      | ok place =>
          refine admits_input _ _ (jsonBody extractors .prepareRequest ⟨.workloadPrepare, authorization, contentLength,
            segments, body⟩) (fun _ => place.1) (fun input principal =>
              callStore (.prepare place.1 place.2 input.mutations input.actor) >>= fun _ => pure .noContent)
            ?_ ?_ fun input principal same => ?_
          · simp only [extraction, params]
          · simp only [handle, workloadPrepare, params, Prog.lift, Prog.done_bind]
            rfl
          · exact call_store_serves _ _ _ same.symm fun _ => trivial
  | workloadCommit =>
      refine admits_input _ _ _ Prod.fst _ rfl rfl fun place principal same => ?_
      exact call_store_serves _ _ _ same.symm fun _ => trivial
  | workloadAbort =>
      refine admits_input _ _ _ Prod.fst _ rfl rfl fun place principal same => ?_
      exact call_store_serves _ _ _ same.symm fun _ => trivial

-- The refusals in the order they are looked for, each with the exchanges that
-- came before it.
inductive Refused : List Asked → Refusal → Prop where
  | malformed (refusal : Refusal) (unreadable : received extractors request = .error refusal) : Refused [] refusal
  | unauthorized (addressed : Option String) (readable : received extractors request = .ok addressed)
      (anonymous : bearer request = none) : Refused [] .unauthorized
  | denied (addressed : Option String) (readable : received extractors request = .ok addressed) (token : String)
      (carried : bearer request = some token) (error : AuthError) :
      Refused [⟨.verify request.route.family token, .error error⟩] (.ofAuth error)
  | missingAction (addressed : Option String) (readable : received extractors request = .ok addressed) (token : String)
      (carried : bearer request = some token) (principal : Principal)
      (lacking : principal.permits request.route.action = false) :
      Refused [⟨.verify request.route.family token, .ok principal⟩] .missingAction
  | forbidden (addressed : Option String) (readable : received extractors request = .ok addressed) (token : String)
      (carried : bearer request = some token) (principal : Principal)
      (permitted : principal.permits request.route.action = true) (tenant : String) (names : addressed = some tenant)
      (foreign : principal.tenant ≠ tenant) :
      Refused [⟨.verify request.route.family token, .ok principal⟩] .forbidden

-- Everything the router checks held, and only then the store was asked, and
-- only about the caller's tenant.
structure Admitted (past : List Asked) (principal : Principal) : Prop where
  readable : ∃ addressed, received extractors request = .ok addressed ∧
    ∀ tenant, addressed = some tenant → principal.tenant = tenant
  verified : ∃ token rest, bearer request = some token ∧
    past = ⟨.verify request.route.family token, .ok principal⟩ :: rest ∧
    ∀ asked ∈ rest, AddressedTo principal.tenant asked.call
  permitted : principal.permits request.route.action = true

def FromStore (asked : Asked) : Prop := ∃ call answer, asked = ⟨.store call, answer⟩

def Finished (prog : Handler Reply) : Prop := ∀ call next, prog ≠ .ask call next

inductive Stands (past : List Asked) (prog : Handler Reply) : Prop where
  | refused (refusal : Refusal) (stopped : prog = .stop refusal) (first : Refused extractors request past refusal)
  | verifying (token : String) (next : Except AuthError Principal → Handler Reply) (start : past = [])
      (asks : prog = .ask (.verify request.route.family token) next)
  | admitted (principal : Principal) (admitted : Admitted extractors request past principal)
      (addressed : prog.Asks (AddressedTo principal.tenant)) (turns : Finished prog → ∃ asked ∈ past, FromStore asked)

theorem body_stands (body : Handler Reply) (principal : Principal) (serves : Serves body principal) (rest : List Asked)
    (prog : Handler Reply) (reached : Reaches body rest prog) :
    prog.Asks (AddressedTo principal.tenant) ∧ (∀ asked ∈ rest, AddressedTo principal.tenant asked.call) ∧
      (Finished prog → ∃ asked ∈ rest, FromStore asked) := by
  obtain ⟨remaining, before⟩ := reaches_asks _ _ _ _ serves.addressed reached
  refine ⟨remaining, before, fun finished => ?_⟩
  obtain ⟨call, next, asks⟩ := serves.turns
  rw [asks, reaches_ask] at reached
  rcases reached with ⟨_, still⟩ | ⟨answer, others, rfl, _⟩
  · exact absurd still (finished _ _)
  · exact ⟨_, List.mem_cons_self .., call, answer, rfl⟩

theorem serve_stands (past : List Asked) (prog : Handler Reply) (reached : Reaches (serve extractors request) past prog) :
    Stands extractors request past prog := by
  obtain ⟨body, written, serves⟩ := handle_admits extractors request
  rw [serve] at reached
  by_cases oversized : declaredTooLarge request = true
  · rw [if_pos oversized] at reached
    obtain ⟨rfl, rfl⟩ := reaches_stop _ _ _ reached
    exact .refused _ rfl (.malformed _ (by rw [received, if_pos oversized]))
  rw [if_neg oversized, written, admitting] at reached
  have whole : received extractors request = extraction extractors request := by rw [received, if_neg oversized]
  cases extracted : extraction extractors request with
  | error refusal =>
      rw [extracted] at reached
      obtain ⟨rfl, rfl⟩ := reaches_stop _ _ _ reached
      exact .refused _ rfl (.malformed _ (whole.trans extracted))
  | ok addressed =>
      rw [extracted, Prog.lift, Prog.done_bind, authorize] at reached
      have readable := whole.trans extracted
      cases carried : bearer request with
      | none =>
          rw [carried] at reached
          obtain ⟨rfl, rfl⟩ := reaches_stop _ _ _ reached
          exact .refused _ rfl (.unauthorized addressed readable carried)
      | some token =>
          rw [carried] at reached
          rcases (reaches_ask _ _ _ _).mp reached with ⟨rfl, rfl⟩ | ⟨answer, rest, rfl, after⟩
          · exact .verifying token _ rfl rfl
          cases answer with
          | error error =>
              obtain ⟨rfl, rfl⟩ := reaches_stop _ _ _ after
              exact .refused _ rfl (.denied addressed readable token carried error)
          | ok principal =>
              change Reaches ((Prog.ensure (principal.permits request.route.action) Refusal.missingAction >>= fun _ =>
                pure principal) >>= fun principal => tenantMatches principal addressed >>= fun _ => body principal) _ _ at after
              cases permitted : principal.permits request.route.action with
              | false =>
                  rw [permitted] at after
                  obtain ⟨rfl, rfl⟩ := reaches_stop _ _ _ after
                  exact .refused _ rfl (.missingAction addressed readable token carried principal permitted)
              | true =>
                  rw [permitted] at after
                  change Reaches (tenantMatches principal addressed >>= fun _ => body principal) _ _ at after
                  cases matched : addressed.all fun tenant => decide (principal.tenant = tenant) with
                  | false =>
                      rw [tenantMatches, matched] at after
                      obtain ⟨rfl, rfl⟩ := reaches_stop _ _ _ after
                      cases addressed with
                      | none => cases matched
                      | some tenant =>
                          exact .refused _ rfl (.forbidden _ readable token carried principal permitted tenant rfl
                            (of_decide_eq_false matched))
                  | true =>
                      rw [tenantMatches, matched] at after
                      have own : ∀ tenant, addressed = some tenant → principal.tenant = tenant := by
                        rintro tenant rfl
                        exact of_decide_eq_true matched
                      obtain ⟨remaining, before, turns⟩ :=
                        body_stands _ principal (serves principal addressed extracted own) rest prog after
                      refine .admitted principal ⟨⟨addressed, readable, own⟩, ⟨token, rest, carried, rfl, before⟩, permitted⟩
                        remaining fun finished => ?_
                      obtain ⟨asked, member, store⟩ := turns finished
                      exact ⟨asked, List.mem_cons_of_mem _ member, store⟩

end Admission
end Secrets
