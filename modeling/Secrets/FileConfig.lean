import Secrets.Config

set_option autoImplicit false

namespace Secrets

open Std (ExtTreeMap)
open Programs Storage

-- toml::Value. A table stands as its entries in the order of their keys; what no
-- record is made of is left as it is written.
inductive TomlValue where
  | string (text : String)
  | datetime (text : String)
  | array (items : List TomlValue)
  | table (entries : List (String × TomlValue))
  | other (written : String)

abbrev TomlTable : Type := ExtTreeMap String TomlValue

structure Toml where
  parse : String → Option TomlTable
  print : TomlTable → Option String

namespace TomlValue

def text : TomlValue → Option String
  | .string text => some text
  | .datetime text => some text
  | _ => none

def isEmpty : TomlValue → Bool
  | .array items => items.isEmpty
  | .table entries => entries.isEmpty
  | _ => false

def variant : TomlValue → Option String
  | .string name => some name
  | .table [(name, content)] => if content.isEmpty then some name else none
  | _ => none

def scopeName (value : TomlValue) : Option ScopeName := value.text.bind fun text => (ScopeName.parse text).toOption

def secretName (value : TomlValue) : Option SecretName := value.text.bind fun text => (SecretName.parse text).toOption

def fields (deniesUnknown : Bool) (names : List String) : TomlValue → Option (List (Option TomlValue))
  | .table entries =>
      if deniesUnknown && entries.any (fun entry => decide (entry.1 ∉ names)) then none
      else some (names.map fun name => entries.lookup name)
  | .array items =>
      if items.length ≤ names.length then some (items.map some ++ List.replicate (names.length - items.length) none) else none
  | _ => none

end TomlValue

def BackendKind.ofText (text : String) : Option BackendKind :=
  [BackendKind.keychain, .onepassword, .remote].find? fun kind => decide (kind.text = text)

def BackendRef.toToml (backend : BackendRef) : TomlValue :=
  .table [("kind", .string backend.kind.text), ("label", .string backend.label.text)]

def BackendRef.ofToml (value : TomlValue) : Option BackendRef := do
  let fields ← value.fields false ["kind", "label"]
  match fields with
  | [some kind, some label] => do
      let kind ← kind.variant.bind BackendKind.ofText
      let label ← label.scopeName
      some ⟨kind, label⟩
  | _ => none

structure NamespaceRecord where
  tenant : ScopeName
  name : ScopeName
  mount : Option BackendRef

namespace NamespaceRecord

def toToml (record : NamespaceRecord) : TomlValue :=
  .table ((record.mount.map fun mount => ("mount", mount.toToml)).toList ++
    [("name", .string record.name.text), ("tenant", .string record.tenant.text)])

def mountOf : Option TomlValue → Option (Option BackendRef)
  | none => some none
  | some value => (BackendRef.ofToml value).map some

def ofToml (value : TomlValue) : Option NamespaceRecord := do
  let fields ← value.fields true ["tenant", "name", "mount"]
  match fields with
  | [some tenant, some name, mount] => do
      let tenant ← tenant.scopeName
      let name ← name.scopeName
      let mount ← mountOf mount
      some ⟨tenant, name, mount⟩
  | _ => none

end NamespaceRecord

structure BindingRecord where
  tenant : ScopeName
  nameSpace : ScopeName
  user : ScopeName
  name : SecretName
  locator : Locator

namespace BindingRecord

def toToml (record : BindingRecord) : TomlValue :=
  .table [("locator", .string record.locator.text), ("name", .string record.name.text), ("namespace", .string record.nameSpace.text),
    ("tenant", .string record.tenant.text), ("user", .string record.user.text)]

def ofToml (value : TomlValue) : Option BindingRecord := do
  let fields ← value.fields true ["tenant", "namespace", "user", "name", "locator"]
  match fields with
  | [some tenant, some nameSpace, some user, some name, some locator] => do
      let tenant ← tenant.scopeName
      let nameSpace ← nameSpace.scopeName
      let user ← user.scopeName
      let name ← name.secretName
      let locator ← locator.text
      some ⟨tenant, nameSpace, user, name, ⟨locator⟩⟩
  | _ => none

end BindingRecord

namespace Document

def NAMESPACES : String := "namespace"

def BINDINGS : String := "binding"

end Document

-- What the file says, with every key that is not the store's kept aside.
-- Namespace `default` of tenant `default` always exists.
structure Document where
  rest : TomlTable
  records : Records
  aside : rest.contains Document.NAMESPACES = false ∧ rest.contains Document.BINDINGS = false
  hasDefault : records.namespaces.contains NamespaceKey.localDefault = true

namespace Document

def recordsOf {Record : Type} (read : TomlValue → Option Record) (table : TomlTable) (key : String) :
    Except StorageError (List Record) :=
  match table[key]? with
  | none => .ok []
  | some (.array items) => ((items.mapM read).elim (.error .unavailable) .ok)
  | some _ => .error .unavailable

def gather {Key Value : Type} [Ord Key] [Std.TransOrd Key] :
    List (Key × Value) → ExtTreeMap Key Value → Except StorageError (ExtTreeMap Key Value)
  | [], map => .ok map
  | (key, value) :: rest, map => if map.contains key then .error .unavailable else gather rest (map.insert key value)

def namespacesOf (table : TomlTable) : Except StorageError (ExtTreeMap NamespaceKey (Option BackendRef)) := do
  let records ← recordsOf NamespaceRecord.ofToml table NAMESPACES
  gather (records.map fun record => (⟨record.tenant, record.name⟩, record.mount)) ∅

def bindingsOf (table : TomlTable) : Except StorageError (ExtTreeMap Address Locator) := do
  let records ← recordsOf BindingRecord.ofToml table BINDINGS
  gather (records.map fun record => (⟨⟨record.tenant, record.nameSpace, record.user⟩, record.name⟩, record.locator)) ∅

def withDefault (namespaces : ExtTreeMap NamespaceKey (Option BackendRef)) : ExtTreeMap NamespaceKey (Option BackendRef) :=
  namespaces.insertIfNew .localDefault none

theorem with_default (namespaces : ExtTreeMap NamespaceKey (Option BackendRef)) :
    (withDefault namespaces).contains NamespaceKey.localDefault = true := by
  rw [withDefault, ExtTreeMap.contains_insertIfNew, Std.ReflOrd.compare_self]
  rfl

theorem rest_aside (table : TomlTable) :
    ((table.erase NAMESPACES).erase BINDINGS).contains NAMESPACES = false ∧
    ((table.erase NAMESPACES).erase BINDINGS).contains BINDINGS = false := by
  constructor
  · rw [ExtTreeMap.contains_erase, ExtTreeMap.contains_erase, Std.ReflOrd.compare_self]
    rw [show (Ordering.eq != Ordering.eq) = false from rfl, Bool.false_and, Bool.and_false]
  · rw [ExtTreeMap.contains_erase, Std.ReflOrd.compare_self]
    rfl

def ofTable (table : TomlTable) : Except StorageError Document := do
  let namespaces ← namespacesOf table
  let bindings ← bindingsOf table
  pure ⟨(table.erase NAMESPACES).erase BINDINGS, ⟨withDefault namespaces, bindings⟩, rest_aside table, with_default namespaces⟩

def parse (toml : Toml) (text : String) : Except StorageError Document :=
  (toml.parse text).elim (.error .unavailable) ofTable

def namespaceEntry (entry : NamespaceKey × Option BackendRef) : TomlValue :=
  NamespaceRecord.toToml ⟨entry.1.tenant, entry.1.nameSpace, entry.2⟩

def bindingEntry (entry : Address × Locator) : TomlValue :=
  BindingRecord.toToml ⟨entry.1.scope.tenant, entry.1.scope.nameSpace, entry.1.scope.user, entry.1.name, entry.2⟩

def toTable (document : Document) : TomlTable :=
  let table := document.rest.insert NAMESPACES (.array (document.records.namespaces.toList.map namespaceEntry))
  if document.records.bindings.isEmpty then table
  else table.insert BINDINGS (.array (document.records.bindings.toList.map bindingEntry))

def render (toml : Toml) (document : Document) : Except StorageError String :=
  (toml.print document.toTable).elim (.error .unavailable) .ok

def changed (document : Document) (change : Except StorageError Records)
    (keeps : ∀ after, change = .ok after → after.namespaces.contains NamespaceKey.localDefault = true) : Except StorageError Document :=
  match change, keeps with
  | .error refused, _ => .error refused
  | .ok records, keeps => .ok ⟨document.rest, records, document.aside, keeps records rfl⟩

end Document

theorem insert_namespace_default (records : Records) (nameSpace : Namespace)
    (before : records.namespaces.contains NamespaceKey.localDefault = true) (after : Records)
    (made : records.insertNamespace nameSpace = .ok after) : after.namespaces.contains NamespaceKey.localDefault = true := by
  rw [Records.insertNamespace] at made
  split at made <;> cases made
  rw [ExtTreeMap.contains_insert, before, Bool.or_true]

theorem remove_namespace_default (records : Records) (key : NamespaceKey) (other : key ≠ .localDefault)
    (before : records.namespaces.contains NamespaceKey.localDefault = true) (after : Records)
    (made : records.removeNamespace key = .ok after) : after.namespaces.contains NamespaceKey.localDefault = true := by
  rw [Records.removeNamespace] at made
  split at made <;> cases made
  rw [ExtTreeMap.contains_erase, before, Bool.and_true, bne_iff_ne]
  exact fun same => other (Std.LawfulEqOrd.eq_of_compare same)

theorem set_mount_default (records : Records) (key : NamespaceKey) (mount : BackendRef)
    (before : records.namespaces.contains NamespaceKey.localDefault = true) (after : Records)
    (made : records.setMount key mount = .ok after) : after.namespaces.contains NamespaceKey.localDefault = true := by
  rw [Records.setMount] at made
  split at made <;> cases made
  rw [ExtTreeMap.contains_insert, before, Bool.or_true]

theorem insert_binding_default (records : Records) (address : Address) (locator : Locator)
    (before : records.namespaces.contains NamespaceKey.localDefault = true) (after : Records)
    (made : records.insertBinding address locator = .ok after) : after.namespaces.contains NamespaceKey.localDefault = true := by
  rw [Records.insertBinding] at made
  split at made <;> cases made
  exact before

theorem remove_binding_default (records : Records) (address : Address)
    (before : records.namespaces.contains NamespaceKey.localDefault = true) (after : Records)
    (made : records.removeBinding address = .ok after) : after.namespaces.contains NamespaceKey.localDefault = true := by
  rw [Records.removeBinding] at made
  split at made <;> cases made
  exact before

namespace FileConfig

inductive Call where
  | createDirectory
  | openLock
  | lock
  | read
  | stage
  | write (text : String)
  | sync
  | rename
  | openDirectory
  | syncDirectory
  | unstage
  | unlock

inductive IoError where
  | notFound
  | other
deriving DecidableEq, Repr

abbrev Call.Answer : Call → Type
  | .read => Except IoError String
  | _ => Except IoError Unit

abbrev Operation (Value : Type) : Type := Prog Call Call.Answer StorageError Value

def io (call : Call) (answer : call.Answer → Except IoError Unit) : Operation Unit :=
  .ask call fun given => Prog.lift ((answer given).mapError fun _ => .unavailable)

section Store
variable (toml : Toml)

-- A missing file reads as an empty one.
def load : Operation Document :=
  .ask .read fun given =>
    match given with
    | .ok text => Prog.lift (Document.parse toml text)
    | .error .notFound => Prog.lift (Document.parse toml "")
    | .error .other => .stop .unavailable

def written (text : String) : Operation Unit := do
  io .stage id
  io (.write text) id
  io .sync id
  io .rename id
  io .openDirectory id
  io .syncDirectory id

def replace (text : String) : Operation Unit := .mending .unstage (written text)

def rewrite (update : Document → Except StorageError Document) : Operation Unit := do
  let document ← load toml
  let changed ← Prog.lift (update document)
  let text ← Prog.lift (changed.render toml)
  replace text

-- The lock is let go of however the change ends.
def change (update : Document → Except StorageError Document) : Operation Unit := do
  io .createDirectory id
  io .openLock id
  io .lock id
  .closing .unlock (rewrite toml update)

def insertNamespace (nameSpace : Namespace) (document : Document) : Except StorageError Document :=
  document.changed (document.records.insertNamespace nameSpace) (insert_namespace_default _ nameSpace document.hasDefault)

def removeNamespace (key : NamespaceKey) (document : Document) : Except StorageError Document :=
  if isDefault : key = .localDefault then .error .conflict
  else document.changed (document.records.removeNamespace key) (remove_namespace_default _ key isDefault document.hasDefault)

def setMount (key : NamespaceKey) (mount : BackendRef) (document : Document) : Except StorageError Document :=
  document.changed (document.records.setMount key mount) (set_mount_default _ key mount document.hasDefault)

def insertBinding (address : Address) (locator : Locator) (document : Document) : Except StorageError Document :=
  document.changed (document.records.insertBinding address locator) (insert_binding_default _ address locator document.hasDefault)

def removeBinding (address : Address) (document : Document) : Except StorageError Document :=
  document.changed (document.records.removeBinding address) (remove_binding_default _ address document.hasDefault)

def viewed {Value : Type} (view : Records → Value) : Operation Value := do
  let document ← load toml
  pure (view document.records)

def perform : (call : ConfigCall) → Operation call.Value
  | .nameSpace key => viewed toml fun records => records.found key
  | .namespaces => viewed toml Records.listed
  | .insertNamespace nameSpace => change toml (insertNamespace nameSpace)
  | .removeNamespace key => change toml (removeNamespace key)
  | .setMount key mount => change toml (setMount key mount)
  | .binding address => viewed toml fun records => records.bindings[address]?
  | .hasBindings key => viewed toml fun records => records.hasBindings key
  | .insertBinding address locator => change toml (insertBinding address locator)
  | .removeBinding address => change toml (removeBinding address)

end Store

structure Files where
  file : Option String
  staged : Option String

def answer : (call : Call) → Files → call.Answer × Files
  | .read, files => (files.file.elim (.error .notFound) .ok, files)
  | .stage, files => (.ok (), { files with staged := some "" })
  | .write text, files => (.ok (), { files with staged := some text })
  | .rename, files => match files.staged with
      | some text => (.ok (), ⟨some text, none⟩)
      | none => (.error .notFound, files)
  | .unstage, files => (.ok (), { files with staged := none })
  | .createDirectory, files | .openLock, files | .lock, files | .sync, files | .openDirectory, files | .syncDirectory, files
  | .unlock, files => (.ok (), files)

end FileConfig
end Secrets
