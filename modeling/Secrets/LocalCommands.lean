import Secrets.Local

set_option autoImplicit false

namespace Secrets

open Programs Storage
open Framing (Bytes)

namespace Local

structure PutArgs where
  name : String
  nameSpace : String
  source : ValueInput.Source
  raw : Bool
  value : Option Bytes
  valueFlag : Option Bytes

section Commands
variable (opened : Option (BackendRef → Option Offer))

def stack : Operation (BackendRef → Option Offer) :=
  match opened with
  | some backends => .done backends
  | none => .stop (.storage .unavailable none)

def manage (resource : Resource) : Operation Unit :=
  Prog.lift ((LocalAuthorizer.decide resource .manageNamespace).mapError fun _ => .storage .denied none)

def mountOf (scope : Scope) : Operation BackendRef := do
  let _ ← stack opened
  let found ← storage (Federation.config (.nameSpace (Federation.namespaceKey scope)))
  let nameSpace ← storage (Federation.orElse found .notFound)
  pure nameSpace.effectiveMount

def putReport (address : Address) (written : Storage.Written) (backend : BackendRef) : Report :=
  let (outcome, version) := match written with
    | .created version => ("created", version)
    | .replaced version => ("replaced", version)
  { json := .object [("outcome", .text outcome), ("name", .ofName address.name), ("scope", .ofScope address.scope),
      ("backend", .ofBackend backend), ("version", .ofVersion version)]
    text := s!"{outcome} {address.name.text} (scope {scopeText address.scope}, backend {backendText backend}, version {versionText version})" }

def store (backends : BackendRef → Option Offer) (address : Address) (value : SecretValue) : Operation Report := do
  let written ← storage (Authorized.perform backends (.write (.unbound address) value))
  let backend ← mountOf opened address.scope
  pure (putReport address written backend)

def put (args : PutArgs) : Operation Report := do
  Prog.ensure (args.value.isNone && args.valueFlag.isNone) (.refused
    "put never takes a value on the command line; pipe it on stdin, type it at the prompt, or pass --file with a mode-0600 file")
  let address ← address args.nameSpace args.name
  let backends ← stack opened
  let bytes ← Prog.lift ((ValueInput.read args.source args.raw maxValueBytes).mapError fun refusal => .refused refusal.text)
  let value ← storage (Prog.lift (SecretValue.new bytes))
  store opened backends address value

def readReport (address : Address) (path : String) (revealed : Option Version) (backend : BackendRef) : Report :=
  { json := .object [("outcome", .text "read"), ("name", .ofName address.name), ("scope", .ofScope address.scope),
      ("backend", .ofBackend backend), ("version", .ofVersion revealed), ("out", .text path)]
    text := s!"read {address.name.text} into {path} (scope {scopeText address.scope}, backend {backendText backend}, version {versionText revealed})" }

def read (nameSpace name path : String) : Operation Report := do
  let address ← address nameSpace name
  let backends ← stack opened
  out .prepareOut id
  let revealed ← storage (Authorized.perform backends (.read (.unbound address)))
  out (.commitOut revealed.value.bytes) id
  let backend ← mountOf opened address.scope
  pure (readReport address path revealed.version backend)

def describeReport (listed : Storage.SecretMetadata) (backend : BackendRef) : Report :=
  { json := rowJson backend listed
    text := s!"name     {listed.address.name.text}\nscope    {scopeText listed.address.scope}\nbackend  {backendText backend}\nversion  {versionText listed.version}" }

def describe (nameSpace name : String) : Operation Report := do
  let address ← address nameSpace name
  let backends ← stack opened
  let rows ← storage (Authorized.perform backends (.list address.scope))
  let listed ← storage (Federation.orElse (rows.find? fun row => decide (row.address = address)) .notFound)
  let backend ← mountOf opened address.scope
  pure (describeReport listed backend)

def localNamespaces (namespaces : List Namespace) : List Namespace :=
  namespaces.filter fun nameSpace => decide (nameSpace.key.tenant.text = localName)

def scopes (nameSpace : String) (all : Bool) : Operation (List Scope) :=
  if all then do
    let _ ← stack opened
    let namespaces ← storage (Federation.config .namespaces)
    pure ((localNamespaces namespaces).map fun nameSpace => inNamespace nameSpace.key.nameSpace)
  else do
    let scope ← localScope nameSpace
    pure [scope]

def rowsOf (backends : BackendRef → Option Offer) : List Scope → Operation (List (BackendRef × Storage.SecretMetadata))
  | [] => pure []
  | scope :: rest => do
      let rows ← storage (Authorized.perform backends (.list scope))
      let backend ← mountOf opened scope
      let others ← rowsOf backends rest
      pure (rows.map (fun row => (backend, row)) ++ others)

def listReport (rows : List (BackendRef × Storage.SecretMetadata)) : Report :=
  { json := .list (rows.map fun row => rowJson row.1 row.2)
    text := columns ("NAME\tSCOPE\tBACKEND\tVERSION" :: rows.map fun row => rowText row.1 row.2) }

def list (nameSpace : String) (all : Bool) : Operation Report := do
  let scopes ← scopes opened nameSpace all
  let backends ← stack opened
  let rows ← rowsOf opened backends scopes
  pure (listReport rows)

def doneReport (outcome : String) (address : Address) : Report :=
  { json := .object [("outcome", .text outcome), ("name", .ofName address.name), ("scope", .ofScope address.scope)]
    text := s!"{outcome} {address.name.text} (scope {scopeText address.scope})" }

def delete (nameSpace name : String) : Operation Report := do
  let address ← address nameSpace name
  let backends ← stack opened
  storage (Authorized.perform backends (.delete (.unbound address)))
  pure (doneReport "deleted" address)

def renameReport (address : Address) (newName : SecretName) : Report :=
  { json := .object [("outcome", .text "renamed"), ("name", .ofName address.name), ("new_name", .ofName newName),
      ("scope", .ofScope address.scope)]
    text := s!"renamed {address.name.text} to {newName.text} (scope {scopeText address.scope})" }

def rename (nameSpace name newName : String) : Operation Report := do
  let (address, newName) ← parsed (Address.parseRename localName nameSpace localName name newName)
  let backends ← stack opened
  storage (Authorized.perform backends (.rename (.unbound address) newName))
  pure (renameReport address newName)

def addReport (key : NamespaceKey) (mount : Option BackendRef) : Report :=
  let backend := mount.getD .defaultMount
  { json := .object [("outcome", .text "added"), ("namespace", .ofKey key), ("mount", .ofOption .ofBackend mount),
      ("backend", .ofBackend backend)]
    text := s!"added namespace {key.nameSpace.text} on {backendText backend}" }

def mountArgument : Option String → Operation (Option BackendRef)
  | none => pure none
  | some text => do
      let mount ← parseMount text
      pure (some mount)

def namespaceAdd (name : String) (mount : Option String) : Operation Report := do
  let key ← namespaceKey name
  let mount ← mountArgument mount
  manage (.ofKey key)
  let backends ← stack opened
  storage (Federation.addNamespace backends key mount)
  pure (addReport key mount)

def namespacesReport (namespaces : List Namespace) : Report :=
  { json := .list (namespaces.map fun nameSpace => .object [("namespace", .ofKey nameSpace.key),
      ("mount", .ofOption .ofBackend nameSpace.mount), ("backend", .ofBackend nameSpace.effectiveMount)])
    text := columns ("NAMESPACE\tTENANT\tBACKEND" :: namespaces.map fun nameSpace =>
      "\t".intercalate [nameSpace.key.nameSpace.text, nameSpace.key.tenant.text, backendText nameSpace.effectiveMount]) }

def namespaceList : Operation Report := do
  manage (.nameSpace localName)
  let _ ← stack opened
  let namespaces ← storage (Federation.config .namespaces)
  pure (namespacesReport (localNamespaces namespaces))

def namespaceRemove (name : String) : Operation Report := do
  let key ← namespaceKey name
  manage (.ofKey key)
  let backends ← stack opened
  storage (Federation.removeNamespace backends key)
  pure { json := .object [("outcome", .text "removed"), ("namespace", .ofKey key)]
         text := s!"removed namespace {key.nameSpace.text}" }

def mountSet (nameSpace mount : String) : Operation Report := do
  let key ← namespaceKey nameSpace
  let mount ← parseMount mount
  manage (.ofKey key)
  let backends ← stack opened
  storage (Federation.setMount backends key mount)
  pure { json := .object [("outcome", .text "set"), ("namespace", .ofKey key), ("mount", .ofBackend mount)]
         text := s!"mounted namespace {key.nameSpace.text} on {backendText mount}" }

def bind (nameSpace name locator : String) : Operation Report := do
  let address ← address nameSpace name
  manage (.ofScope address.scope)
  let _ ← stack opened
  storage (Federation.bind address ⟨locator⟩)
  pure (doneReport "bound" address)

def unbind (nameSpace name : String) : Operation Report := do
  let address ← address nameSpace name
  manage (.ofScope address.scope)
  let _ ← stack opened
  storage (Federation.unbind address)
  pure (doneReport "unbound" address)

end Commands

-- The local commands of the command line.
inductive Command where
  | put (args : PutArgs)
  | read (name nameSpace path : String)
  | describe (name nameSpace : String)
  | list (nameSpace : String) (all : Bool)
  | delete (name nameSpace : String)
  | rename (name newName nameSpace : String)
  | namespaceAdd (name : String) (mount : Option String)
  | namespaceList
  | namespaceRemove (name : String)
  | mountSet (nameSpace mount : String)
  | bind (name locator nameSpace : String)
  | unbind (name nameSpace : String)

namespace Command

def decision : Command → String × List Action
  | .put _ => ("put", [.write])
  | .read _ _ _ => ("read", [.read])
  | .describe _ _ => ("describe", [.list])
  | .list _ _ => ("list", [.list])
  | .delete _ _ => ("delete", [.delete])
  | .rename _ _ _ => ("rename", [.write, .delete])
  | .namespaceAdd _ _ => ("namespace add", [.manageNamespace])
  | .namespaceList => ("namespace list", [.manageNamespace])
  | .namespaceRemove _ => ("namespace remove", [.manageNamespace])
  | .mountSet _ _ => ("mount set", [.manageNamespace])
  | .bind _ _ _ => ("bind", [.manageNamespace])
  | .unbind _ _ => ("unbind", [.manageNamespace])

def perform (opened : Option (BackendRef → Option Offer)) : Command → Operation Report
  | .put args => Local.put opened args
  | .read name nameSpace path => Local.read opened nameSpace name path
  | .describe name nameSpace => Local.describe opened nameSpace name
  | .list nameSpace all => Local.list opened nameSpace all
  | .delete name nameSpace => Local.delete opened nameSpace name
  | .rename name newName nameSpace => Local.rename opened nameSpace name newName
  | .namespaceAdd name mount => Local.namespaceAdd opened name mount
  | .namespaceList => Local.namespaceList opened
  | .namespaceRemove name => Local.namespaceRemove opened name
  | .mountSet nameSpace mount => Local.mountSet opened nameSpace mount
  | .bind name locator nameSpace => Local.bind opened nameSpace name locator
  | .unbind name nameSpace => Local.unbind opened nameSpace name

end Command

inductive Line where
  | text (line : String)
  | json (value : Json)

structure Printed where
  stdout : List Line
  stderr : List Line
  code : Nat

structure Opening where
  backends : Option (BackendRef → Option Offer)
  notes : List String

def denialText : Denial → String
  | .tenant => "tenant"
  | .user => "user"

def finish (json : Bool) (command : String) (notes : List String) : Except Failure Report → Printed
  | .ok report => ⟨[if json then .json report.json else .text report.text], [], 0⟩
  | .error (.denied denial) =>
      let part := denialText denial
      let message := meaning command .denied
      ⟨[], [if json then .json (.object [("error", .text StorageError.denied.code), ("part", .text part), ("reason", .null),
          ("message", .text message), ("notes", .list [])])
        else .text s!"secretsctl: denied ({part}): {message}"], exitCode .denied⟩
  | .error (.refused reason) =>
      ⟨[], [if json then .json (.object [("error", .text "refused"), ("message", .text reason)])
        else .text s!"secretsctl: refused: {reason}"], exitUsage⟩
  | .error (.storage error detail) =>
      let notes := if error = .unavailable then notes else []
      let message := meaning command error
      ⟨[], if json then
          [.json (.object [("error", .text error.code), ("part", .ofOption (fun detail => .text detail.1) detail),
            ("reason", .ofOption (fun detail => .text detail.2.code) detail), ("message", .text message),
            ("notes", .list (notes.map .text))])]
        else
          (match detail with
            | some (part, reason) => .text s!"secretsctl: {error.code} ({part}: {reason.code}): {message}"
            | none => .text s!"secretsctl: {error.code}: {message}") ::
          notes.map fun note => .text s!"secretsctl: note: {note}", exitCode error⟩

structure Cli where
  json : Bool
  tenant : String
  user : String
  command : Command

def denied (cli : Cli) : Except Denial Unit :=
  cli.command.decision.2.forM fun action => LocalAuthorizer.decide (.scope cli.tenant cli.user) action

def Cli.run {State : Type} (perform : (call : Call) → State → call.Answer × State) (opening : Opening) (cli : Cli) (state : State) :
    Printed × State :=
  match denied cli with
  | .error denial => (finish cli.json cli.command.decision.1 [] (.error (.denied denial)), state)
  | .ok _ =>
      let (outcome, after) := Programs.run perform (cli.command.perform opening.backends) state
      (finish cli.json cli.command.decision.1 opening.notes outcome, after)

end Local
end Secrets
