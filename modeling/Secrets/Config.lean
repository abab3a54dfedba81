import Secrets.Lib.Programs
import Secrets.Storage

set_option autoImplicit false

namespace Secrets

open Std Storage

def NamespaceKey.fields (key : NamespaceKey) : List String := [key.tenant.text, key.nameSpace.text]

def Address.fields (address : Address) : List String :=
  [address.scope.tenant.text, address.scope.nameSpace.text, address.scope.user.text, address.name.text]

section Orders

theorem namespace_key_fields (first second : NamespaceKey) (same : first.fields = second.fields) : first = second := by
  obtain ⟨tenant, nameSpace⟩ := first
  obtain ⟨other, another⟩ := second
  simp only [NamespaceKey.fields, List.cons.injEq, and_true] at same
  rw [scope_name_injective tenant other same.1, scope_name_injective nameSpace another same.2]

theorem address_fields (first second : Address) (same : first.fields = second.fields) : first = second := by
  obtain ⟨⟨tenant, nameSpace, user⟩, name⟩ := first
  obtain ⟨⟨otherTenant, otherNamespace, otherUser⟩, otherName⟩ := second
  simp only [Address.fields, List.cons.injEq, and_true] at same
  obtain ⟨tenants, nameSpaces, users, names⟩ := same
  rw [scope_name_injective _ _ tenants, scope_name_injective _ _ nameSpaces, scope_name_injective _ _ users,
    secret_name_injective _ _ names]

instance : Ord NamespaceKey := ⟨compareOn NamespaceKey.fields⟩

instance : TransOrd NamespaceKey := inferInstanceAs (TransCmp (compareOn NamespaceKey.fields))

instance : LawfulEqOrd NamespaceKey where
  eq_of_compare same := namespace_key_fields _ _ (LawfulEqOrd.eq_of_compare same)

instance : Ord Address := ⟨compareOn Address.fields⟩

instance : TransOrd Address := inferInstanceAs (TransCmp (compareOn Address.fields))

instance : LawfulEqOrd Address where
  eq_of_compare same := address_fields _ _ (LawfulEqOrd.eq_of_compare same)

end Orders

def BackendKind.text : BackendKind → String
  | .keychain => "keychain"
  | .onepassword => "onepassword"
  | .remote => "remote"

structure Namespace where
  key : NamespaceKey
  mount : Option BackendRef
deriving DecidableEq

def Namespace.effectiveMount (nameSpace : Namespace) : BackendRef := nameSpace.mount.getD .defaultMount

-- The NamespaceConfig trait, one constructor a method.
inductive ConfigCall where
  | nameSpace (key : NamespaceKey)
  | namespaces
  | insertNamespace (nameSpace : Namespace)
  | removeNamespace (key : NamespaceKey)
  | setMount (key : NamespaceKey) (mount : BackendRef)
  | binding (address : Address)
  | hasBindings (key : NamespaceKey)
  | insertBinding (address : Address) (locator : Locator)
  | removeBinding (address : Address)

namespace ConfigCall

abbrev Value : ConfigCall → Type
  | .nameSpace _ => Option Namespace
  | .namespaces => List Namespace
  | .binding _ => Option Locator
  | .hasBindings _ => Bool
  | .insertNamespace _ | .removeNamespace _ | .setMount _ _ | .insertBinding _ _ | .removeBinding _ => Unit

abbrev Answer (call : ConfigCall) : Type := Except StorageError call.Value

end ConfigCall

structure Records where
  namespaces : ExtTreeMap NamespaceKey (Option BackendRef)
  bindings : ExtTreeMap Address Locator

namespace Records

def found (records : Records) (key : NamespaceKey) : Option Namespace :=
  records.namespaces[key]?.map fun mount => ⟨key, mount⟩

def listed (records : Records) : List Namespace := records.namespaces.toList.map fun entry => ⟨entry.1, entry.2⟩

def hasBindings (records : Records) (key : NamespaceKey) : Bool :=
  records.bindings.keys.any fun address =>
    decide (address.scope.tenant = key.tenant) && decide (address.scope.nameSpace = key.nameSpace)

def insertNamespace (records : Records) (nameSpace : Namespace) : Except StorageError Records :=
  if records.namespaces.contains nameSpace.key then .error .conflict
  else .ok { records with namespaces := records.namespaces.insert nameSpace.key nameSpace.mount }

def removeNamespace (records : Records) (key : NamespaceKey) : Except StorageError Records :=
  if records.namespaces.contains key then .ok { records with namespaces := records.namespaces.erase key }
  else .error .notFound

def setMount (records : Records) (key : NamespaceKey) (mount : BackendRef) : Except StorageError Records :=
  if records.namespaces.contains key then .ok { records with namespaces := records.namespaces.insert key (some mount) }
  else .error .notFound

def insertBinding (records : Records) (address : Address) (locator : Locator) : Except StorageError Records :=
  if records.bindings.contains address then .error .conflict
  else .ok { records with bindings := records.bindings.insert address locator }

def removeBinding (records : Records) (address : Address) : Except StorageError Records :=
  if records.bindings.contains address then .ok { records with bindings := records.bindings.erase address }
  else .error .notFound

end Records

def Records.changed (records : Records) (change : Except StorageError Records) : Except StorageError Unit × Records :=
  match change with
  | .ok after => (.ok (), after)
  | .error error => (.error error, records)

def InMemoryConfig.perform : (call : ConfigCall) → Records → call.Answer × Records
  | .nameSpace key, records => (.ok (records.found key), records)
  | .namespaces, records => (.ok records.listed, records)
  | .insertNamespace nameSpace, records => records.changed (records.insertNamespace nameSpace)
  | .removeNamespace key, records => records.changed (records.removeNamespace key)
  | .setMount key mount, records => records.changed (records.setMount key mount)
  | .binding address, records => (.ok records.bindings[address]?, records)
  | .hasBindings key, records => (.ok (records.hasBindings key), records)
  | .insertBinding address locator, records => records.changed (records.insertBinding address locator)
  | .removeBinding address, records => records.changed (records.removeBinding address)

def NamespaceKey.localDefault : NamespaceKey := ⟨.defaultName, .defaultName⟩

def InMemoryConfig.localStart : Records :=
  ⟨(∅ : ExtTreeMap NamespaceKey (Option BackendRef)).insert .localDefault none, ∅⟩

end Secrets
