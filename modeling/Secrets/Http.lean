import Secrets.Lib.Programs
import Secrets.Store

set_option autoImplicit false

namespace Secrets

open Effects Programs
open Framing (Bytes)

structure Principal where
  subject : String
  tenant : String
  actions : List String
deriving DecidableEq, Repr

def Principal.permits (principal : Principal) (action : String) : Bool :=
  principal.actions.contains action || principal.actions.contains "*"

inductive AuthError where
  | unauthorized
  | unavailable
deriving DecidableEq, Repr

inductive Refusal where
  | unauthorized
  | forbidden
  | missingAction
  | notFound
  | notOwned
  | deleteTargetMissing
  | duplicate
  | malformedReference
  | invalidReference
  | emptyBatch
  | crossTenantBatch
  | malformedBody
  | malformedPath
  | tooLarge
  | unavailable
deriving DecidableEq, Repr

def Refusal.ofStore : StoreError → Refusal
  | .notFound => .notFound
  | .deleteTargetMissing => .deleteTargetMissing
  | .conflict => .duplicate
  | .invalid .malformedReference => .malformedReference
  | .invalid .invalidReference => .invalidReference
  | .invalid .emptyBatch => .emptyBatch
  | .invalid .crossTenantBatch => .crossTenantBatch
  | .unavailable => .unavailable
  | .crypto => .unavailable

def Refusal.ofAuth : AuthError → Refusal
  | .unauthorized => .unauthorized
  | .unavailable => .unavailable

inductive Family where
  | user
  | workload
deriving DecidableEq, Repr

inductive ServiceCall where
  | verify (family : Family) (token : String)
  | store (call : StoreCall)

namespace ServiceCall

abbrev Answer : ServiceCall → Type
  | .verify _ _ => Except AuthError Principal
  | .store call => Except StoreError call.Answer

end ServiceCall

abbrev Handler (Value : Type) := Prog ServiceCall ServiceCall.Answer Refusal Value

abbrev Asked := Exchange ServiceCall ServiceCall.Answer

def answered {Error Value : Type} (refuse : Error → Refusal) : Except Error Value → Handler Value
  | .ok value => .done value
  | .error error => .stop (refuse error)

def callStore (call : StoreCall) : Handler call.Answer := .ask (.store call) (answered Refusal.ofStore)

def verify (family : Family) (token : String) : Handler Principal :=
  .ask (.verify family token) (answered Refusal.ofAuth)

inductive Route where
  | userList
  | userDetail
  | userRevoke
  | userDelete
  | workloadPut
  | workloadGet
  | workloadExists
  | workloadList
  | workloadDelete
  | workloadPrepare
  | workloadCommit
  | workloadAbort
deriving DecidableEq, Repr

-- A request that reached a /v1 route: its authorization headers in order, the
-- length it declares, the tenant and transaction segments and the body sent.
structure HttpRequest where
  route : Route
  authorization : List Bytes
  contentLength : Option Nat
  segments : Bytes × Bytes
  body : Bytes

structure ScopeRequest where
  tenant : String
  nameSpace : String

structure DeleteRequest where
  reference : SecretRef
  actor : Option String

structure PrepareRequest where
  actor : String
  mutations : List Mutation

inductive Shape where
  | reference
  | putSecret
  | scope
  | deleteRequest
  | prepareRequest

abbrev Shape.Value : Shape → Type
  | .reference => SecretRef
  | .putSecret => PutSecret
  | .scope => ScopeRequest
  | .deleteRequest => DeleteRequest
  | .prepareRequest => PrepareRequest

structure Extractors where
  json : (shape : Shape) → HttpRequest → Except Nat shape.Value
  path : HttpRequest → Option (String × Uuid)

def payloadTooLarge : Nat := 413

def jsonBody (extractors : Extractors) (shape : Shape) (request : HttpRequest) : Except Refusal shape.Value :=
  match extractors.json shape request with
  | .ok value => .ok value
  | .error status => if status = payloadTooLarge then .error .tooLarge else .error .malformedBody

def pathParams (extractors : Extractors) (request : HttpRequest) : Except Refusal (String × Uuid) :=
  match extractors.path request with
  | some params => .ok params
  | none => .error .malformedPath

def toStr (value : Bytes) : Option String :=
  if value.all fun byte => (decide (32 ≤ byte) && decide (byte < 127)) || decide (byte = 9) then
    some (String.ofList (value.map fun byte => Char.ofNat byte.toNat))
  else none

def stripPrefix (start text : String) : Option String :=
  if start.toList.isPrefixOf text.toList then some (String.ofList (text.toList.drop start.length)) else none

def bearer (request : HttpRequest) : Option String :=
  (request.authorization.head?.bind toStr).bind (stripPrefix "Bearer ")

def authorize (request : HttpRequest) (family : Family) (action : String) : Handler Principal := do
  let token ← Prog.lift ((bearer request).elim (.error .unauthorized) .ok)
  let principal ← verify family token
  Prog.ensure (principal.permits action) .missingAction
  pure principal

def tenantMatch (principal : Principal) (tenant : String) : Handler Unit :=
  Prog.ensure (decide (principal.tenant = tenant)) .forbidden

def authorizeRef (request : HttpRequest) (family : Family) (action : String) (reference : SecretRef) :
    Handler Principal := do
  let principal ← authorize request family action
  tenantMatch principal reference.tenant
  pure principal

def assertOwner (principal : Principal) (reference : SecretRef) : Handler Unit := do
  let rows ← callStore (.list principal.tenant (some principal.subject))
  Prog.ensure (rows.any fun metadata => decide (metadata.reference = reference)) .notOwned

inductive Reply where
  | secrets (list : List SecretMetadata)
  | metadata (metadata : SecretMetadata)
  | stored (secret : StoredSecret)
  | «exists» (answer : Bool)
  | noContent
deriving DecidableEq, Repr

section Handlers
variable (extractors : Extractors) (request : HttpRequest)

def userList : Handler Reply := do
  let principal ← authorize request .user "secret:list"
  let secrets ← callStore (.list principal.tenant (some principal.subject))
  pure (.secrets secrets)

def userDetail : Handler Reply := do
  let reference ← Prog.lift (jsonBody extractors .reference request)
  let principal ← authorizeRef request .user "secret:read_metadata" reference
  let rows ← callStore (.list principal.tenant (some principal.subject))
  match rows.find? fun metadata => decide (metadata.reference = reference) with
  | some found => pure (.metadata found)
  | none => .stop .notOwned

def userRevoke : Handler Reply := do
  let reference ← Prog.lift (jsonBody extractors .reference request)
  let principal ← authorizeRef request .user "secret:revoke" reference
  assertOwner principal reference
  let metadata ← callStore (.revoke reference principal.subject)
  pure (.metadata metadata)

def userDelete : Handler Reply := do
  let reference ← Prog.lift (jsonBody extractors .reference request)
  let principal ← authorizeRef request .user "secret:delete" reference
  assertOwner principal reference
  let _ ← callStore (.delete reference principal.subject)
  pure .noContent

def workloadPut : Handler Reply := do
  let input ← Prog.lift (jsonBody extractors .putSecret request)
  let principal ← authorizeRef request .workload "secret:write" input.reference
  let owner := if input.ownerSubject.isEmpty then principal.subject else input.ownerSubject
  let metadata ← callStore (.put { input with ownerSubject := owner })
  pure (.metadata metadata)

def workloadGet : Handler Reply := do
  let reference ← Prog.lift (jsonBody extractors .reference request)
  let _ ← authorizeRef request .workload "secret:read_value" reference
  let secret ← callStore (.get reference)
  pure (.stored secret)

def workloadExists : Handler Reply := do
  let reference ← Prog.lift (jsonBody extractors .reference request)
  let _ ← authorizeRef request .workload "secret:read_metadata" reference
  let answer ← callStore (.existsActive reference)
  pure (.exists answer)

def workloadList : Handler Reply := do
  let scope ← Prog.lift (jsonBody extractors .scope request)
  let principal ← authorize request .workload "secret:list"
  tenantMatch principal scope.tenant
  let rows ← callStore (.list scope.tenant none)
  pure (.secrets (rows.filter fun metadata => decide (metadata.reference.nameSpace = scope.nameSpace)))

def workloadDelete : Handler Reply := do
  let input ← Prog.lift (jsonBody extractors .deleteRequest request)
  let principal ← authorizeRef request .workload "secret:delete" input.reference
  let _ ← callStore (.delete input.reference (input.actor.getD principal.subject))
  pure .noContent

def workloadPrepare : Handler Reply := do
  let (tenant, transaction) ← Prog.lift (pathParams extractors request)
  let input ← Prog.lift (jsonBody extractors .prepareRequest request)
  let principal ← authorize request .workload "secret:prepare"
  tenantMatch principal tenant
  let _ ← callStore (.prepare tenant transaction input.mutations input.actor)
  pure .noContent

def workloadCommit : Handler Reply := do
  let (tenant, transaction) ← Prog.lift (pathParams extractors request)
  let principal ← authorize request .workload "secret:commit"
  tenantMatch principal tenant
  let _ ← callStore (.commit tenant transaction)
  pure .noContent

def workloadAbort : Handler Reply := do
  let (tenant, transaction) ← Prog.lift (pathParams extractors request)
  let principal ← authorize request .workload "secret:abort"
  tenantMatch principal tenant
  let _ ← callStore (.abort tenant transaction)
  pure .noContent

def handle : Handler Reply :=
  match request.route with
  | .userList => userList request
  | .userDetail => userDetail extractors request
  | .userRevoke => userRevoke extractors request
  | .userDelete => userDelete extractors request
  | .workloadPut => workloadPut extractors request
  | .workloadGet => workloadGet extractors request
  | .workloadExists => workloadExists extractors request
  | .workloadList => workloadList extractors request
  | .workloadDelete => workloadDelete extractors request
  | .workloadPrepare => workloadPrepare extractors request
  | .workloadCommit => workloadCommit extractors request
  | .workloadAbort => workloadAbort extractors request

def bodyLimit : Nat := 1024 * 1024

-- RequestBodyLimitLayer looks at the declared length before any handler runs;
-- a longer body without one is cut off while `Json` reads it.
def declaredTooLarge : Bool := request.contentLength.any fun length => decide (length > bodyLimit)

def serve : Handler Reply := if declaredTooLarge request then .stop .tooLarge else handle extractors request

end Handlers

structure Service where
  platform : Platform
  store : PostgresStore
  clocks : Nat → Clock
  userAuthority : Nat → String → Except AuthError Principal
  workloadAuthority : Nat → String → Except AuthError Principal

structure Serving where
  world : World
  calls : Nat

def Service.authority (service : Service) : Family → Nat → String → Except AuthError Principal
  | .user => service.userAuthority
  | .workload => service.workloadAuthority

def Service.perform (service : Service) : (call : ServiceCall) → Serving → call.Answer × Serving
  | .verify family token, state => (service.authority family state.calls token, { state with calls := state.calls + 1 })
  | .store call, state =>
      let ran := call.perform service.platform service.store (service.clocks state.calls) state.world
      (ran.1, ⟨ran.2, state.calls + 1⟩)

end Secrets
