import Secrets.Addresses
import Secrets.LocalAuthorizer
import Secrets.ValueInput

set_option autoImplicit false

namespace Secrets

open Programs Storage
open Framing (Bytes)

inductive Json where
  | null
  | text (value : String)
  | list (items : List Json)
  | object (fields : List (String × Json))

namespace Json

def ofName (name : SecretName) : Json := .text name.text

def ofScope (scope : Scope) : Json :=
  .object [("tenant", .text scope.tenant.text), ("namespace", .text scope.nameSpace.text), ("user", .text scope.user.text)]

def ofKey (key : NamespaceKey) : Json :=
  .object [("tenant", .text key.tenant.text), ("namespace", .text key.nameSpace.text)]

def ofOption {Value : Type} (print : Value → Json) : Option Value → Json
  | none => .null
  | some value => print value

end Json

def Json.ofBackend (backend : BackendRef) : Json :=
  .object [("kind", .text backend.kind.text), ("label", .text backend.label.text)]

def Json.ofVersion (version : Option Version) : Json := .ofOption (fun version => .text version.text) version

namespace Local

def localName : String := ScopeName.defaultName.text

inductive OutRefusal where
  | exists
  | symlink
  | notAFile
  | unwritable
deriving DecidableEq, Repr

def OutRefusal.text : OutRefusal → String
  | .exists => "the --out path exists; read writes a new file only"
  | .symlink => "the --out path is a symlink; read never follows one"
  | .notAFile => "the --out path names no file"
  | .unwritable => "the --out file could not be created"

inductive Failure where
  | storage (error : StorageError) (detail : Option (String × NameError))
  | refused (reason : String)
  | denied (denial : Denial)
deriving DecidableEq, Repr

-- What a command asks for outside itself. Whatever is at the --out path stays
-- until `commitOut` links a file there.
inductive Call where
  | stack (call : Federation.Call)
  | prepareOut
  | commitOut (bytes : Bytes)

abbrev Call.Answer : Call → Type
  | .stack call => call.Answer
  | .prepareOut => Except OutRefusal Unit
  | .commitOut _ => Except OutRefusal Unit

abbrev Operation (Value : Type) : Type := Prog Call Call.Answer Failure Value

def storage {Value : Type} (operation : Federation.Operation Value) : Operation Value :=
  operation.embed .stack (fun _ answer => answer) fun error => .storage error none

def out (call : Call) (refusal : call.Answer → Except OutRefusal Unit) : Operation Unit :=
  .ask call fun answer => Prog.lift ((refusal answer).mapError fun refused => .refused refused.text)

def Part.text : Part → String
  | .tenant => "tenant"
  | .nameSpace => "namespace"
  | .user => "user"
  | .name => "name"
  | .newName => "new-name"

def parsed {Value : Type} (result : Except AddressError Value) : Operation Value :=
  Prog.lift (result.mapError fun error => .storage .invalidName (some (Part.text error.part, error.reason)))

structure Report where
  json : Json
  text : String

def scopeText (scope : Scope) : String := scope.tenant.text ++ "/" ++ scope.nameSpace.text ++ "/" ++ scope.user.text

def backendText (backend : BackendRef) : String := backend.kind.text ++ "/" ++ backend.label.text

def versionText (version : Option Version) : String := version.elim "-" Version.text

def named (part text : String) : Operation ScopeName :=
  Prog.lift ((ScopeName.parse text).mapError fun reason => .storage .invalidName (some (part, reason)))

def mountKind (text : String) : Option BackendKind :=
  [BackendKind.keychain, .remote, .onepassword].find? fun kind => decide (kind.text = text)

def parseMount (text : String) : Operation BackendRef := do
  let (kind, label) := match Separated.splitOnce '/' text.toList with
    | some (kind, label) => (String.ofList kind, String.ofList label)
    | none => (text, localName)
  match mountKind kind with
  | none => .stop (.refused "a mount is `kind/label`, and kind is `keychain` or `remote`")
  | some kind => do
      let label ← named "label" label
      pure ⟨kind, label⟩

def address (nameSpace name : String) : Operation Address := parsed (Address.parse localName nameSpace localName name)

def namespaceKey (nameSpace : String) : Operation NamespaceKey := parsed (NamespaceKey.parse localName nameSpace)

def inNamespace (nameSpace : ScopeName) : Scope := ⟨.defaultName, nameSpace, .defaultName⟩

def localScope (nameSpace : String) : Operation Scope := do
  let nameSpace ← named "namespace" nameSpace
  pure (inNamespace nameSpace)

def rowJson (backend : BackendRef) (listed : Storage.SecretMetadata) : Json :=
  .object [("name", .ofName listed.address.name), ("scope", .ofScope listed.address.scope), ("backend", .ofBackend backend),
    ("version", .ofVersion listed.version)]

def rowText (backend : BackendRef) (listed : Storage.SecretMetadata) : String :=
  "\t".intercalate [listed.address.name.text, scopeText listed.address.scope, backendText backend, versionText listed.version]

def padded (width : Nat) (cell : String) : String := cell ++ String.ofList (List.replicate (width - cell.length) ' ') ++ "  "

def columns (lines : List String) : String :=
  let rows := lines.map fun line => (line.toList.splitOn '\t').map String.ofList
  let width := fun column => (rows.filterMap fun row => row[column]?.map String.utf8ByteSize).foldl max 0
  let line := fun row : List String => String.join (row.mapIdx fun column cell =>
    if column + 1 = row.length then cell else padded (width column) cell)
  "\n".intercalate (rows.map line)

def meaning (command : String) (error : StorageError) : String :=
  match error with
  | .denied => "the local authorizer refused the scope"
  | .unavailable => "a backend or the configuration file could not be used"
  | .invalidName => "a name is not valid"
  | .tooLarge => "the value is larger than the backend accepts (1 MiB at most)"
  | .unsupported => "the namespace's backend cannot do this"
  | .conflict =>
      if command = "namespace add" then "the namespace exists"
      else if command = "namespace remove" then
        "namespace `default` is never removed, and a namespace holding secrets or bindings is not"
      else if command = "mount set" then "the namespace holds secrets on its current mount"
      else if command = "bind" then "the name is already bound; unbind it first"
      else if command = "rename" then "the new name is taken, or a name is bound"
      else "the command collides with an existing record"
  | .notFound =>
      if command = "namespace add" then "the mount names a backend that is not configured"
      else if command = "namespace remove" then "the namespace does not exist"
      else if command = "mount set" then
        "the namespace does not exist, or the mount names a backend that is not configured"
      else if command = "bind" then "the namespace does not exist"
      else if command = "unbind" then "the name has no binding"
      else if command = "put" ∨ command = "list" then "the namespace does not exist"
      else "nothing is stored under the name, or the namespace does not exist"

def exitCode (error : StorageError) : Nat := 3 + StorageError.all.idxOf error

def exitUsage : Nat := 2

end Local
end Secrets
