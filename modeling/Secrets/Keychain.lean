import Secrets.Config
import Secrets.Versions

set_option autoImplicit false

namespace Secrets

open Std Programs Storage
open Framing (Bytes)

def uuidFromSlice (bytes : Bytes) : Option Uuid :=
  if length : bytes.length = 16 then some ⟨bytes.toArray, length⟩ else none

namespace Keychain

structure Entry where
  service : String
  user : String
deriving DecidableEq, Repr

def Entry.fields (entry : Entry) : List String := [entry.service, entry.user]

instance : Ord Entry := ⟨compareOn Entry.fields⟩

instance : TransOrd Entry := inferInstanceAs (TransCmp (compareOn Entry.fields))

instance : LawfulEqOrd Entry where
  eq_of_compare same := by
    rename_i first second
    obtain ⟨service, user⟩ := first
    obtain ⟨other, another⟩ := second
    have fields : [service, user] = [other, another] := LawfulEqOrd.eq_of_compare same
    cases fields
    rfl

inductive KeyringError where
  | noEntry
  | other
deriving DecidableEq, Repr

-- Calls of the credential store, and the version that a write generates. An
-- entry that a search returns may name no specifiers.
inductive Call where
  | build (entry : Entry)
  | getSecret (entry : Entry)
  | setSecret (entry : Entry) (blob : Bytes)
  | deleteCredential (entry : Entry)
  | search (service : String)
  | nowV7

abbrev Call.Answer : Call → Type
  | .build _ | .setSecret _ _ | .deleteCredential _ => Except KeyringError Unit
  | .getSecret _ => Except KeyringError Bytes
  | .search _ => Except KeyringError (List (Option Entry))
  | .nowV7 => Uuid

abbrev Operation (Value : Type) : Type := Prog Call Call.Answer StorageError Value

def FORMAT : UInt8 := 1

def HEADER : Nat := 1 + 16

def entryUser (address : Address) : String :=
  let scope := address.scope
  scope.tenant.text ++ "/" ++ scope.nameSpace.text ++ "/" ++ scope.user.text ++ "/" ++ address.name.text

def decodeUser (user : String) : Option Address :=
  match Separated.splitn '/' 4 user.toList with
  | [tenant, nameSpace, user, name] => do
      let tenant ← (ScopeName.parse (String.ofList tenant)).toOption
      let nameSpace ← (ScopeName.parse (String.ofList nameSpace)).toOption
      let user ← (ScopeName.parse (String.ofList user)).toOption
      let name ← (SecretName.parse (String.ofList name)).toOption
      some ⟨⟨tenant, nameSpace, user⟩, name⟩
  | _ => none

def failure : KeyringError → StorageError
  | .noEntry => .notFound
  | .other => .unavailable

def asked {Value : Type} (call : Call) (answer : call.Answer → Except KeyringError Value) : Operation Value :=
  .ask call fun given => Prog.lift ((answer given).mapError failure)

def blobOf (version : Uuid) (value : Bytes) : Bytes := FORMAT :: version.toList ++ value

def versionOf (version : Uuid) : Version := ⟨hyphenated version⟩

def sealBlob (value : SecretValue) : Operation (Bytes × Version) :=
  .ask .nowV7 fun version => .done (blobOf version value.bytes, versionOf version)

def openBlob (blob : Bytes) : Except StorageError (Version × Bytes) :=
  if blob.length < HEADER ∨ blob.head? ≠ some FORMAT then .error .unavailable
  else
    match uuidFromSlice ((blob.take HEADER).drop 1) with
    | none => .error .unavailable
    | some version => .ok (versionOf version, blob.drop HEADER)

def stored (entry : Entry) : Operation (Option Bytes) :=
  .ask (.getSecret entry) fun given =>
    match given with
    | .ok blob => .done (some blob)
    | .error .noEntry => .done none
    | .error error => .stop (failure error)

section Backend
variable (service : String)

def place (address : Address) : Entry := ⟨service, entryUser address⟩

def entry (address : Address) : Operation Entry := do
  asked (.build (place service address)) id
  pure (place service address)

def read (target : Target) : Operation Revealed := do
  let entry ← entry service target.address
  let blob ← asked (.getSecret entry) id
  let (version, value) ← Prog.lift (openBlob blob)
  let value ← Prog.lift (SecretValue.new value)
  pure ⟨value, some version⟩

def outcome (existed : Bool) (version : Version) : Storage.Written :=
  if existed then .replaced (some version) else .created (some version)

def write (target : Target) (value : SecretValue) : Operation Storage.Written := do
  let entry ← entry service target.address
  let existed ← stored entry
  let (blob, version) ← sealBlob value
  asked (.setSecret entry blob) id
  pure (outcome existed.isSome version)

def delete (target : Target) : Operation Unit := do
  let entry ← entry service target.address
  asked (.deleteCredential entry) id

-- The end of a move: the copy is undone when the source stays.
def moved (source destination : Entry) : Operation Unit :=
  .ask (.deleteCredential source) fun given =>
    match given with
    | .ok () => .done ()
    | .error error => .ask (.deleteCredential destination) fun _ => .stop (failure error)

def rename (target : Target) (newName : SecretName) : Operation Unit := do
  let source ← entry service target.address
  let blob ← asked (.getSecret source) id
  let destination ← entry service (target.address.renamed newName)
  let taken ← stored destination
  Prog.ensure taken.isNone .conflict
  asked (.setSecret destination blob) id
  moved source destination

def listable (scope : Scope) (found : Option Entry) : Option (Entry × Address) := do
  let entry ← found
  if entry.service ≠ service then none
  else do
    let address ← decodeUser entry.user
    if address.scope ≠ scope then none else some (entry, address)

def rowOf (address : Address) (blob : Option Bytes) : Except StorageError (Option Storage.SecretMetadata) :=
  match blob with
  | none => .ok none
  | some blob => (openBlob blob).map fun opened => some ⟨address, some opened.1⟩

def rowsOf (scope : Scope) : List (Option Entry) → Operation (List Storage.SecretMetadata)
  | [] => pure []
  | found :: rest =>
      match listable service scope found with
      | none => rowsOf scope rest
      | some (entry, address) => do
          let blob ← stored entry
          let row ← Prog.lift (rowOf address blob)
          let rows ← rowsOf scope rest
          pure (row.toList ++ rows)

def list (scope : Scope) : Operation (List Storage.SecretMetadata) := do
  let found ← asked (.search service) id
  let rows ← rowsOf service scope found
  pure (sort rows)

def perform : (command : Command) → Operation command.Answer
  | .read target => read service target
  | .write target value => write service target value
  | .delete target => delete service target
  | .rename target newName => rename service target newName
  | .list scope => list service scope

end Backend

abbrev Ring : Type := ExtTreeMap Entry Bytes

abbrev Search : Type := Ring → String → List (Option Entry)

def answer (search : Search) (version : Uuid) : (call : Call) → Ring → call.Answer × Ring
  | .build _, ring => (.ok (), ring)
  | .getSecret entry, ring => (ring[entry]?.elim (.error .noEntry) .ok, ring)
  | .setSecret entry blob, ring => (.ok (), ring.insert entry blob)
  | .deleteCredential entry, ring => if ring.contains entry then (.ok (), ring.erase entry) else (.error .noEntry, ring)
  | .search service, ring => (.ok (search ring service), ring)
  | .nowV7, ring => (version, ring)

end Keychain
end Secrets
