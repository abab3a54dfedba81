import Secrets.Names
import Secrets.Requests
import Secrets.UserRoutes

set_option autoImplicit false

namespace Secrets

open Effects Programs Codecs
open Framing (Bytes)

def Refusal.status : Refusal → Nat
  | .unauthorized => 401
  | .forbidden | .missingAction => 403
  | .notFound | .notOwned | .deleteTargetMissing => 404
  | .duplicate => 409
  | .malformedReference | .invalidReference | .emptyBatch | .crossTenantBatch | .malformedBody | .malformedPath => 400
  | .tooLarge => payloadTooLarge
  | .unavailable => 503

namespace Client

inductive Error where
  | transport
  | notFound
  | refused
  | service
deriving DecidableEq, Repr

-- The methods of a client, one constructor each.
inductive Call where
  | put (input : PutSecret)
  | get (reference : SecretRef)
  | «exists» (reference : SecretRef)
  | references (tenant nameSpace : String)
  | delete (reference : SecretRef) (actor : String)
  | prepare (tenant : String) (transaction : Uuid) (actor : String) (mutations : List Mutation)
  | commit (tenant : String) (transaction : Uuid)
  | abort (tenant : String) (transaction : Uuid)

namespace Call

abbrev Value : Call → Type
  | .put _ => SecretMetadata
  | .get _ => StoredSecret
  | .exists _ => Bool
  | .references _ _ => List SecretMetadata
  | .delete _ _ => Unit
  | .prepare _ _ _ _ => Unit
  | .commit _ _ => Unit
  | .abort _ _ => Unit

abbrev Answer (call : Call) : Type := Except Error call.Value

def route : Call → Route
  | .put _ => .workloadPut
  | .get _ => .workloadGet
  | .exists _ => .workloadExists
  | .references _ _ => .workloadList
  | .delete _ _ => .workloadDelete
  | .prepare _ _ _ _ => .workloadPrepare
  | .commit _ _ => .workloadCommit
  | .abort _ _ => .workloadAbort

def body : Call → Bytes
  | .put input => putSecretCodec.print input
  | .get reference | .exists reference => referenceCodec.print reference
  | .references tenant nameSpace => scopeCodec.print ⟨tenant, nameSpace⟩
  | .delete reference actor => deleteRequestCodec.print ⟨reference, some actor⟩
  | .prepare _ _ actor mutations => prepareRequestCodec.print ⟨actor, mutations⟩
  | .commit _ _ | .abort _ _ => []

end Call

def hyphenated (id : Uuid) : Bytes :=
  dashed 45 (id.toList.flatMap fun byte => [hexDigit (byte.toNat / 16), hexDigit (byte.toNat % 16)])

def Call.segments : Call → Bytes × Bytes
  | .prepare tenant transaction _ _ => (textBytes tenant, hyphenated transaction)
  | .commit tenant transaction | .abort tenant transaction => (textBytes tenant, hyphenated transaction)
  | _ => ([], [])

def Call.request (token : String) (call : Call) : HttpRequest :=
  { route := call.route
    authorization := [textBytes ("Bearer " ++ token)]
    contentLength := some call.body.length
    segments := call.segments
    body := call.body }

def classify (status : Nat) : Except Error Unit :=
  if 200 ≤ status ∧ status < 300 then .ok ()
  else if status = 404 then .error .notFound
  else if 400 ≤ status ∧ status < 500 then .error .refused
  else .error .service

def Call.decode : (call : Call) → Reply → Except Error call.Value
  | .put _, .metadata metadata => .ok metadata
  | .get _, .stored stored => .ok stored
  | .exists _, .exists answer => .ok answer
  | .references _ _, .secrets listed => .ok listed
  | .delete _ _, _ => .ok ()
  | .prepare _ _ _ _, _ => .ok ()
  | .commit _ _, _ => .ok ()
  | .abort _ _, _ => .ok ()
  | .put _, _ => .error .service
  | .get _, _ => .error .service
  | .exists _, _ => .error .service
  | .references _ _, _ => .error .service

def Call.respond (call : Call) : Except Refusal Reply → call.Answer
  | .ok reply => call.decode reply
  | .error refusal => (classify refusal.status).bind fun _ => .error .service

end Client

-- A service as its clients meet it.
structure Custody where
  service : Service
  extractors : Extractors

def Custody.send (custody : Custody) (token : String) (call : Client.Call) (state : Serving) : call.Answer × Serving :=
  let ran := run custody.service.perform (serve custody.extractors (call.request token)) state
  (call.respond ran.1, ran.2)

structure Extractors.Reads (extractors : Extractors) : Prop where
  json : ∀ (shape : Shape) (request : HttpRequest) (value : shape.Value), request.body = shape.codec.print value →
    request.body.length ≤ bodyLimit → extractors.json shape request = .ok value
  path : ∀ (request : HttpRequest) (tenant : ScopeName) (transaction : Uuid),
    request.segments = (textBytes tenant.text, Client.hyphenated transaction) →
      extractors.path request = some (tenant.text, transaction)

section Wire

theorem hex_pairs_digits (bytes : Bytes) :
    hexPairs (bytes.flatMap fun byte => [hexDigit (byte.toNat / 16), hexDigit (byte.toNat % 16)]) = some bytes := by
  induction bytes with
  | nil => rfl
  | cons byte rest ih =>
      have small := byte.toNat_lt
      rw [List.flatMap_cons]
      change hexPairs (hexDigit (byte.toNat / 16) :: hexDigit (byte.toNat % 16) :: rest.flatMap _) = _
      rw [hexPairs, unhex_hex_digit _ (by omega), unhex_hex_digit _ (by omega), ih]
      have whole : byte.toNat / 16 * 16 + byte.toNat % 16 = byte.toNat := by omega
      simp [whole]

theorem digits_length (id : Uuid) : (id.toList.flatMap fun byte => [hexDigit (byte.toNat / 16), hexDigit (byte.toNat % 16)]).length = 32 := by
  simp [List.length_flatMap]

theorem hyphenated_length (id : Uuid) : (Client.hyphenated id).length = 36 := dashed_length 45 _ (digits_length id)

theorem uuid_of_hyphenated (id : Uuid) : uuidOf (Client.hyphenated id) = some id := by
  have digits : uuidDigits (Client.hyphenated id) =
      some (id.toList.flatMap fun byte => [hexDigit (byte.toNat / 16), hexDigit (byte.toNat % 16)]) := by
    rw [uuidDigits, hyphenated_length, if_neg (by decide), if_pos rfl]
    exact undashed_dashed 45 _ (digits_length id)
  have same : id.toList.toArray = id.toArray := rfl
  simp [uuidOf, digits, hex_pairs_digits, same]

theorem wire_reads : wireExtractors.Reads where
  json shape request value body short := by
    simp only [wireExtractors]
    rw [if_neg (Nat.not_lt.mpr short), body]
    simp only [read_document_print]
  path request tenant transaction segments := by
    simp only [wireExtractors, segments, from_utf8_text_bytes, uuid_of_hyphenated]

end Wire

def Client.Call.asked (principal : Principal) : Client.Call → StoreCall
  | .put input =>
      .put { input with ownerSubject := if input.ownerSubject.isEmpty then principal.subject else input.ownerSubject }
  | .get reference => .get reference
  | .exists reference => .existsActive reference
  | .references tenant _ => .list tenant none
  | .delete reference actor => .delete reference actor
  | .prepare tenant transaction actor mutations => .prepare tenant transaction mutations actor
  | .commit tenant transaction => .commit tenant transaction
  | .abort tenant transaction => .abort tenant transaction

def Client.Call.replied (principal : Principal) : (call : Client.Call) → (call.asked principal).Answer → Reply
  | .put _, metadata => .metadata metadata
  | .get _, stored => .stored stored
  | .exists _, answer => .exists answer
  | .references _ nameSpace, rows => .secrets (rows.filter fun metadata => decide (metadata.reference.nameSpace = nameSpace))
  | .delete _ _, _ => .noContent
  | .prepare _ _ _ _, _ => .noContent
  | .commit _ _, _ => .noContent
  | .abort _ _, _ => .noContent

def Client.Call.tenant : Client.Call → String
  | .put input => input.reference.tenant
  | .get reference | .exists reference | .delete reference _ => reference.tenant
  | .references tenant _ | .prepare tenant _ _ _ | .commit tenant _ | .abort tenant _ => tenant

def Client.Call.Placed (call : Client.Call) : Prop := ∃ name : ScopeName, name.text = call.tenant

def Service.admits (service : Service) (request : HttpRequest) (tenant : String) (calls : Nat) : Except Refusal Principal :=
  match bearer request with
  | none => .error .unauthorized
  | some token =>
      match service.authority request.route.family calls token with
      | .error error => .error (.ofAuth error)
      | .ok principal =>
          if principal.permits request.route.action then
            if principal.tenant = tenant then .ok principal else .error .forbidden
          else .error .missingAction

section Sending
variable (custody : Custody) (token : String)

theorem run_admitted (service : Service) (request : HttpRequest) (tenant : String) (next : Principal → Handler Reply)
    (state : Serving) :
    let whole := authorize request request.route.family request.route.action >>= fun principal =>
      tenantMatches principal (some tenant) >>= fun _ => next principal
    (∃ refusal after, service.admits request tenant state.calls = .error refusal ∧
      run service.perform whole state = (.error refusal, after) ∧ after.world = state.world) ∨
    ∃ principal, service.admits request tenant state.calls = .ok principal ∧
      run service.perform whole state = run service.perform (next principal) ⟨state.world, state.calls + 1⟩ := by
  intro whole
  cases carried : bearer request with
  | none =>
      refine .inl ⟨.unauthorized, state, ?_, ?_, rfl⟩
      · rw [Service.admits, carried]
      · simp only [whole, authorize, carried]
        rfl
  | some text =>
      simp only [whole, authorize_bind request _ _ text carried, run_ask, Service.perform, Service.admits, carried]
      cases service.authority request.route.family state.calls text with
      | error error => exact .inl ⟨_, _, rfl, rfl, rfl⟩
      | ok principal =>
          simp only [answered, Prog.done_bind]
          cases permitted : principal.permits request.route.action with
          | false => exact .inl ⟨_, _, rfl, rfl, rfl⟩
          | true =>
              by_cases own : principal.tenant = tenant
              · refine .inr ⟨principal, by rw [if_pos rfl, if_pos own], ?_⟩
                simp only [tenantMatches, Option.all_some, decide_eq_true own]
                rfl
              · refine .inl ⟨.forbidden, ⟨state.world, state.calls + 1⟩, by rw [if_pos rfl, if_neg own], ?_, rfl⟩
                simp only [tenantMatches, Option.all_some, decide_eq_false own]
                rfl

theorem serve_request (reads : custody.extractors.Reads) (call : Client.Call) (placed : call.Placed)
    (short : call.body.length ≤ bodyLimit) :
    serve custody.extractors (call.request token) =
      authorize (call.request token) (call.request token).route.family (call.request token).route.action >>= fun principal =>
        tenantMatches principal (some call.tenant) >>= fun _ =>
          callStore (call.asked principal) >>= fun answer => pure (call.replied principal answer) := by
  have fits : declaredTooLarge (call.request token) = false := by
    simp [declaredTooLarge, Client.Call.request, short]
  have parsed : ∀ (shape : Shape) (value : shape.Value), call.body = shape.codec.print value →
      jsonBody custody.extractors shape (call.request token) = .ok value := by
    intro shape value body
    rw [jsonBody, reads.json shape (call.request token) value body short]
  rw [serve, fits, if_neg Bool.false_ne_true]
  cases call with
  | put input =>
      change workloadPut custody.extractors _ = _
      rw [workloadPut, parsed .putSecret input rfl]
      simp only [Prog.lift, Prog.done_bind, authorize_ref_admits]
      rfl
  | get reference =>
      change workloadGet custody.extractors _ = _
      rw [workloadGet, parsed .reference reference rfl]
      simp only [Prog.lift, Prog.done_bind, authorize_ref_admits]
      rfl
  | «exists» reference =>
      change workloadExists custody.extractors _ = _
      rw [workloadExists, parsed .reference reference rfl]
      simp only [Prog.lift, Prog.done_bind, authorize_ref_admits]
      rfl
  | references tenant nameSpace =>
      change workloadList custody.extractors _ = _
      rw [workloadList, parsed .scope ⟨tenant, nameSpace⟩ rfl]
      rfl
  | delete reference actor =>
      change workloadDelete custody.extractors _ = _
      rw [workloadDelete, parsed .deleteRequest ⟨reference, some actor⟩ rfl]
      simp only [Prog.lift, Prog.done_bind, authorize_ref_admits]
      rfl
  | prepare tenant transaction actor mutations =>
      obtain ⟨name, rfl⟩ := placed
      change workloadPrepare custody.extractors _ = _
      rw [workloadPrepare, pathParams, reads.path _ name transaction rfl, parsed .prepareRequest ⟨actor, mutations⟩ rfl]
      rfl
  | commit tenant transaction =>
      obtain ⟨name, rfl⟩ := placed
      change workloadCommit custody.extractors _ = _
      rw [workloadCommit, pathParams, reads.path _ name transaction rfl]
      rfl
  | abort tenant transaction =>
      obtain ⟨name, rfl⟩ := placed
      change workloadAbort custody.extractors _ = _
      rw [workloadAbort, pathParams, reads.path _ name transaction rfl]
      rfl

def Custody.stored (principal : Principal) (call : Client.Call) (state : Serving) : call.Answer × Serving :=
  let clock := custody.service.clocks (state.calls + 1)
  let ran := (call.asked principal).perform custody.service.platform custody.service.store clock state.world
  (call.respond ((ran.1.mapError Refusal.ofStore).map (call.replied principal)), ⟨ran.2, state.calls + 2⟩)

theorem send_admitted (reads : custody.extractors.Reads) (call : Client.Call) (placed : call.Placed)
    (short : call.body.length ≤ bodyLimit) (principal : Principal) (state : Serving)
    (admits : custody.service.admits (call.request token) call.tenant state.calls = .ok principal) :
    custody.send token call state = custody.stored principal call state := by
  rw [Custody.send, serve_request custody token reads call placed short]
  rcases run_admitted custody.service (call.request token) call.tenant (fun principal =>
    callStore (call.asked principal) >>= fun answer => pure (call.replied principal answer)) state with
    ⟨refusal, _, refused, _⟩ | ⟨other, again, ran⟩
  · rw [refused] at admits
    cases admits
  · cases admits.symm.trans again
    simp only [ran, run_bind, Tx.bind_run, run_call_store, Custody.stored]
    cases (call.asked principal).perform custody.service.platform custody.service.store
      (custody.service.clocks (state.calls + 1)) state.world with
    | mk outcome after => cases outcome <;> rfl

theorem respond_refusal (call : Client.Call) (refusal : Refusal) : ∃ error, call.respond (.error refusal) = .error error := by
  rw [Client.Call.respond]
  cases Client.classify refusal.status with
  | error error => exact ⟨error, rfl⟩
  | ok done => exact ⟨.service, rfl⟩

theorem admits_refusal (service : Service) (request : HttpRequest) (tenant : String) (calls : Nat) (refusal : Refusal)
    (refused : service.admits request tenant calls = .error refusal) : refusal.status ≠ 404 := by
  unfold Service.admits at refused
  split at refused
  · cases refused
    decide
  · split at refused
    · rename_i error _
      cases refused
      cases error <;> decide
    · split at refused
      · split at refused
        · cases refused
        · cases refused
          decide
      · cases refused
        decide

theorem respond_missing (call : Client.Call) (refusal : Refusal) (found : refusal.status ≠ 404) :
    call.respond (.error refusal) ≠ .error .notFound := by
  rw [Client.Call.respond, Client.classify, if_neg found]
  split
  · exact fun same => by cases same
  · split
    · exact fun same => by cases same
    · exact fun same => by cases same

theorem send_served (reads : custody.extractors.Reads) (call : Client.Call) (placed : call.Placed) (state : Serving) :
    (∃ error, (custody.send token call state).1 = .error error ∧ error ≠ .notFound ∧
      (custody.send token call state).2.world = state.world) ∨
    ∃ principal, custody.service.admits (call.request token) call.tenant state.calls = .ok principal ∧
      custody.send token call state = custody.stored principal call state := by
  have refuse : ∀ refusal after, refusal.status ≠ 404 → after.world = state.world →
      custody.send token call state = (call.respond (.error refusal), after) →
      ∃ error, (custody.send token call state).1 = .error error ∧ error ≠ .notFound ∧
        (custody.send token call state).2.world = state.world := by
    intro refusal after found same sent
    obtain ⟨error, answered⟩ := respond_refusal call refusal
    rw [sent]
    refine ⟨error, answered, ?_, same⟩
    rintro rfl
    exact respond_missing call refusal found answered
  by_cases short : call.body.length ≤ bodyLimit
  · rcases run_admitted custody.service (call.request token) call.tenant (fun principal =>
      callStore (call.asked principal) >>= fun answer => pure (call.replied principal answer)) state with
      ⟨refusal, after, refused, ran, same⟩ | ⟨principal, admits, _⟩
    · refine .inl (refuse refusal after (admits_refusal custody.service _ _ _ refusal refused) same ?_)
      rw [Custody.send, serve_request custody token reads call placed short, ran]
    · exact .inr ⟨principal, admits, send_admitted custody token reads call placed short principal state admits⟩
  · have oversized : declaredTooLarge (call.request token) = true := by
      simpa [declaredTooLarge, Client.Call.request] using Nat.lt_of_not_le short
    refine .inl (refuse .tooLarge state (by decide) rfl ?_)
    rw [Custody.send, serve, oversized]
    rfl

def Custody.Trusts (tenant : String) : Prop :=
  ∀ (call : Client.Call) (calls : Nat), call.tenant = tenant →
    ∃ principal, custody.service.admits (call.request token) tenant calls = .ok principal

theorem stored_ok (principal : Principal) (call : Client.Call) (state : Serving) (value : call.Value)
    (answered : (custody.stored principal call state).1 = .ok value) :
    ∃ answer, (call.asked principal).perform custody.service.platform custody.service.store
        (custody.service.clocks (state.calls + 1)) state.world = (.ok answer, (custody.stored principal call state).2.world) ∧
      call.decode (call.replied principal answer) = .ok value := by
  unfold Custody.stored at answered ⊢
  dsimp only at answered ⊢
  cases ran : (call.asked principal).perform custody.service.platform custody.service.store
    (custody.service.clocks (state.calls + 1)) state.world with
  | mk outcome after =>
      rw [ran] at answered
      cases outcome with
      | ok answer => exact ⟨answer, rfl, answered⟩
      | error error =>
          obtain ⟨_, refused⟩ := respond_refusal call (Refusal.ofStore error)
          exact absurd (refused.symm.trans answered) (by simp)

end Sending
end Secrets
