import Secrets.Config

set_option autoImplicit false

namespace Secrets

open Effects Programs Storage

structure Offer where
  capabilities : List Capability
  requiresBinding : Bool
deriving DecidableEq

namespace Federation

inductive Call where
  | config (call : ConfigCall)
  | backend (backend : BackendRef) (command : Command)

abbrev Call.Value : Call → Type
  | .config call => call.Value
  | .backend _ command => command.Answer

abbrev Call.Answer (call : Call) : Type := Except StorageError call.Value

abbrev Operation (Value : Type) : Type := Prog Call Call.Answer StorageError Value

def ask (call : Call) : Operation call.Value := .ask call Prog.lift

def config (call : ConfigCall) : Operation call.Value := ask (.config call)

def namespaceKey (scope : Scope) : NamespaceKey := ⟨scope.tenant, scope.nameSpace⟩

def orElse {Value : Type} (found : Option Value) (refused : StorageError) : Operation Value :=
  match found with
  | some value => .done value
  | none => .stop refused

def require (offer : Offer) (needs : List Capability) : Operation Unit :=
  Prog.ensure (needs.all fun need => decide (need ∈ offer.capabilities)) .unsupported

section Routing
variable (backends : BackendRef → Option Offer)

def registered (backend : BackendRef) : Operation Offer := orElse (backends backend) .notFound

def mounted (scope : Scope) : Operation (BackendRef × Offer) := do
  let found ← config (.nameSpace (namespaceKey scope))
  let nameSpace ← orElse found .notFound
  let offer ← registered backends nameSpace.effectiveMount
  pure (nameSpace.effectiveMount, offer)

def locator (offer : Offer) (address : Address) : Operation (Option Locator) :=
  if offer.requiresBinding then do
    let bound ← config (.binding address)
    let locator ← orElse bound .notFound
    pure (some locator)
  else pure none

def resolve (address : Address) (needs : List Capability) : Operation (BackendRef × Target) := do
  let (backend, offer) ← mounted backends address.scope
  require offer needs
  let locator ← locator offer address
  pure (backend, ⟨address, locator⟩)

def holdsSecrets (nameSpace : Namespace) : Operation Bool :=
  match backends nameSpace.effectiveMount with
  | none => pure false
  | some offer =>
      if Capability.list ∈ offer.capabilities then do
        let rows ← ask (.backend nameSpace.effectiveMount (.list ⟨nameSpace.key.tenant, nameSpace.key.nameSpace, .defaultName⟩))
        pure (!rows.isEmpty)
      else pure false

def addNamespace (key : NamespaceKey) (mount : Option BackendRef) : Operation Unit := do
  let found ← config (.nameSpace key)
  Prog.ensure found.isNone .conflict
  let nameSpace : Namespace := ⟨key, mount⟩
  let _ ← registered backends nameSpace.effectiveMount
  config (.insertNamespace nameSpace)

-- `||`: the backend is not asked once a binding was found.
def inUse (nameSpace : Namespace) : Operation Bool := do
  let bound ← config (.hasBindings nameSpace.key)
  if bound then pure true else holdsSecrets backends nameSpace

def removeNamespace (key : NamespaceKey) : Operation Unit := do
  Prog.ensure (decide (key.nameSpace ≠ .defaultName)) .conflict
  let found ← config (.nameSpace key)
  let nameSpace ← orElse found .notFound
  let used ← inUse backends nameSpace
  Prog.ensure (!used) .conflict
  config (.removeNamespace key)

def setMount (key : NamespaceKey) (mount : BackendRef) : Operation Unit := do
  let found ← config (.nameSpace key)
  let nameSpace ← orElse found .notFound
  let _ ← registered backends mount
  let used ← holdsSecrets backends nameSpace
  Prog.ensure (!used) .conflict
  config (.setMount key mount)

def bind (address : Address) (locator : Locator) : Operation Unit := do
  let found ← config (.nameSpace (namespaceKey address.scope))
  let _ ← orElse found .notFound
  config (.insertBinding address locator)

def unbind (address : Address) : Operation Unit := config (.removeBinding address)

def read (target : Target) : Operation Revealed := do
  let (backend, target) ← resolve backends target.address [.read]
  ask (.backend backend (.read target))

def write (target : Target) (value : SecretValue) : Operation Storage.Written := do
  let (backend, target) ← resolve backends target.address [.write]
  ask (.backend backend (.write target value))

def delete (target : Target) : Operation Unit := do
  let (backend, target) ← resolve backends target.address [.delete]
  ask (.backend backend (.delete target))

def bound (address renamed : Address) : Operation Bool := do
  let source ← config (.binding address)
  if source.isSome then pure true
  else do
    let destination ← config (.binding renamed)
    pure destination.isSome

def rename (target : Target) (newName : SecretName) : Operation Unit := do
  let (backend, resolved) ← resolve backends target.address [.write, .delete]
  let taken ← bound target.address (target.address.renamed newName)
  Prog.ensure (!taken) .conflict
  ask (.backend backend (.rename resolved newName))

def list (scope : Scope) : Operation (List Storage.SecretMetadata) := do
  let (backend, offer) ← mounted backends scope
  require offer [.list]
  let rows ← ask (.backend backend (.list scope))
  pure (rows.filter fun row => decide (row.address.scope = scope))

def perform : (command : Command) → Operation command.Answer
  | .read target => read backends target
  | .write target value => write backends target value
  | .delete target => delete backends target
  | .rename target newName => rename backends target newName
  | .list scope => list backends scope

end Routing

-- Everything FederatedStorage does: the port's commands and those on its
-- configuration.
inductive Request where
  | secret (command : Command)
  | namespaces
  | addNamespace (key : NamespaceKey) (mount : Option BackendRef)
  | removeNamespace (key : NamespaceKey)
  | setMount (key : NamespaceKey) (mount : BackendRef)
  | bind (address : Address) (locator : Locator)
  | unbind (address : Address)

namespace Request

abbrev Value : Request → Type
  | .secret command => command.Answer
  | .namespaces => List Namespace
  | .addNamespace _ _ | .removeNamespace _ | .setMount _ _ | .bind _ _ | .unbind _ => Unit

def perform (backends : BackendRef → Option Offer) : (request : Request) → Operation request.Value
  | .secret command => Federation.perform backends command
  | .namespaces => config .namespaces
  | .addNamespace key mount => Federation.addNamespace backends key mount
  | .removeNamespace key => Federation.removeNamespace backends key
  | .setMount key mount => Federation.setMount backends key mount
  | .bind address locator => Federation.bind address locator
  | .unbind address => Federation.unbind address

end Request
end Federation
end Secrets
