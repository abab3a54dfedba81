import Secrets.Routing

set_option autoImplicit false

namespace Secrets

open Programs Storage

namespace Storage

inductive Action where
  | read
  | write
  | delete
  | list
  | manageNamespace
deriving DecidableEq, Repr

inductive Resource where
  | nameSpace (tenant : String)
  | scope (tenant user : String)
deriving DecidableEq, Repr

def Resource.ofScope (scope : Scope) : Resource := .scope scope.tenant.text scope.user.text

def Resource.ofKey (key : NamespaceKey) : Resource := .nameSpace key.tenant.text

inductive Denial where
  | tenant
  | user
deriving DecidableEq, Repr

end Storage

namespace LocalAuthorizer

-- Every action gets the same answer.
def decide (resource : Resource) (_action : Action) : Except Denial Unit :=
  let (tenant, user) := match resource with
    | .nameSpace tenant => (tenant, none)
    | .scope tenant user => (tenant, some user)
  if tenant ≠ ScopeName.defaultName.text then .error .tenant
  else
    match user with
    | some user => if user ≠ ScopeName.defaultName.text then .error .user else .ok ()
    | none => .ok ()

def authorize (resource : Resource) (action : Action) : Except StorageError Unit :=
  (decide resource action).mapError fun _ => .denied

end LocalAuthorizer

namespace Authorized

open Federation

def check (scope : Scope) (action : Action) : Operation Unit :=
  Prog.lift (LocalAuthorizer.authorize (.ofScope scope) action)

def perform (backends : BackendRef → Option Offer) : (command : Command) → Operation command.Answer
  | .read target => do
      check target.address.scope .read
      Federation.read backends target
  | .write target value => do
      check target.address.scope .write
      Federation.write backends target value
  | .delete target => do
      check target.address.scope .delete
      Federation.delete backends target
  | .rename target newName => do
      check target.address.scope .write
      check target.address.scope .delete
      Federation.rename backends target newName
  | .list scope => do
      check scope .list
      Federation.list backends scope

end Authorized

def Scope.Local (scope : Scope) : Prop := scope.tenant = .defaultName ∧ scope.user = .defaultName

instance (scope : Scope) : Decidable scope.Local := inferInstanceAs (Decidable (_ ∧ _))

theorem default_text (name : ScopeName) : name.text = ScopeName.defaultName.text ↔ name = .defaultName :=
  ⟨scope_name_injective _ _, congrArg ScopeName.text⟩

theorem authorize_scope (scope : Scope) (action : Action) :
    LocalAuthorizer.authorize (.ofScope scope) action = if scope.Local then .ok () else .error .denied := by
  unfold LocalAuthorizer.authorize LocalAuthorizer.decide Resource.ofScope
  simp only [ne_eq, default_text]
  by_cases tenant : scope.tenant = .defaultName
  · by_cases user : scope.user = .defaultName
    · rw [if_neg (not_not.mpr tenant), if_neg (not_not.mpr user), if_pos (show scope.Local from ⟨tenant, user⟩)]
      rfl
    · rw [if_neg (not_not.mpr tenant), if_pos user, if_neg (show ¬scope.Local from fun both => user both.2)]
      rfl
  · rw [if_pos tenant, if_neg (show ¬scope.Local from fun both => tenant both.1)]
    rfl

section Admitted
variable (backends : BackendRef → Option Offer)

theorem check_local {Value : Type} (scope : Scope) (action : Action) (next : Unit → Federation.Operation Value) (inside : scope.Local) :
    (Authorized.check scope action >>= next) = next () := by
  rw [Authorized.check, authorize_scope, if_pos inside]
  rfl

theorem check_foreign {Value : Type} (scope : Scope) (action : Action) (next : Unit → Federation.Operation Value)
    (outside : ¬scope.Local) : (Authorized.check scope action >>= next) = .stop .denied := by
  rw [Authorized.check, authorize_scope, if_neg outside]
  rfl

theorem perform_local (command : Command) (inside : command.scope.Local) :
    Authorized.perform backends command = Federation.perform backends command := by
  cases command with
  | read target => exact check_local _ _ _ inside
  | write target value => exact check_local _ _ _ inside
  | delete target => exact check_local _ _ _ inside
  | rename target newName => exact (check_local _ _ _ inside).trans (check_local _ _ _ inside)
  | list scope => exact check_local _ _ _ inside

theorem perform_foreign (command : Command) (outside : ¬command.scope.Local) :
    Authorized.perform backends command = .stop .denied := by
  cases command with
  | read target => exact check_foreign _ _ _ outside
  | write target value => exact check_foreign _ _ _ outside
  | delete target => exact check_foreign _ _ _ outside
  | rename target newName => exact check_foreign _ _ _ outside
  | list scope => exact check_foreign _ _ _ outside

end Admitted
end Secrets
