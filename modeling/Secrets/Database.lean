import Mathlib.Data.List.Sort
import Secrets.Crypto
import Secrets.Lib.Effects
import Secrets.Lib.Tables

set_option autoImplicit false

namespace Secrets

open Effects Effects.Tx Tables

structure SecretRow where
  id : Uuid
  reference : SecretRef
  ownerSubject : String
  disclosure : Disclosure
  state : SecretState
  currentVersion : Int
  labels : Labels
  createdAt : Int
  updatedAt : Int
deriving DecidableEq, Repr

def SecretRow.metadata (row : SecretRow) : SecretMetadata :=
  { id := row.id
    reference := row.reference
    ownerSubject := row.ownerSubject
    disclosure := row.disclosure
    state := row.state
    version := row.currentVersion
    labels := row.labels
    createdAt := row.createdAt
    updatedAt := row.updatedAt }

structure VersionRow where
  secretId : Uuid
  version : Int
  envelope : Envelope
deriving DecidableEq, Repr

def VersionRow.address (row : VersionRow) : Uuid × Int := (row.secretId, row.version)

structure PreparedRow where
  id : Uuid
  tenant : String
  actor : String
  envelope : Envelope
  expiresAt : Int
deriving DecidableEq, Repr

def PreparedRow.address (row : PreparedRow) : String × Uuid := (row.tenant, row.id)

inductive AuditAction where
  | put
  | delete
  | revoke
  | rewrap
  | commitBatch
deriving DecidableEq, Repr

structure AuditRow where
  tenant : String
  secretId : Option Uuid
  actor : String
  action : AuditAction
deriving DecidableEq, Repr

structure World where
  secrets : Table SecretRow SecretRef SecretRow.reference
  versions : Table VersionRow (Uuid × Int) VersionRow.address
  prepared : Table PreparedRow (String × Uuid) PreparedRow.address
  auditEvents : List AuditRow
  drawn : Nat
deriving DecidableEq

def World.empty : World := ⟨.empty, .empty, .empty, [], 0⟩

-- ROLLBACK undoes the tables; what was drawn stays drawn.
def rollback (before after : World) : World := { before with drawn := after.drawn }

-- What the store relies on outside its own code: the random source, which keys
-- still fit a btree page, and the JSON form of a mutation list.
structure MutationCodec where
  toWriter : List Mutation → Framing.Bytes
  fromSlice : Framing.Bytes → Option (List Mutation)
  readsBack : ∀ mutations, fromSlice (toWriter mutations) = some mutations

structure Platform where
  random : Nat → Draw
  indexFits : List String → Bool
  codec : MutationCodec

abbrev Sql (Value : Type) := Tx World StoreError Value

def unavailable (_ : StoreError) : StoreError := .unavailable

-- PostgreSQL refuses a text parameter that contains U+0000.
def bindText (texts : List String) : Sql Unit := ensure (!texts.any hasNul) .unavailable

def SecretRef.parts (reference : SecretRef) : List String := [reference.tenant, reference.nameSpace, reference.key]

def Labels.texts (labels : Labels) : List String := labels.entries.flatMap fun entry => [entry.1, entry.2]

def World.upsert (world : World) (row : SecretRow) : Option World :=
  match world.secrets.find row.reference with
  | some _ => some { world with
      secrets := world.secrets.amend row.reference (fun old => { old with
        ownerSubject := row.ownerSubject
        disclosure := row.disclosure
        state := .active
        currentVersion := row.currentVersion
        labels := row.labels
        updatedAt := row.updatedAt }) fun _ => rfl }
  | none =>
      if world.secrets.rows.any fun other => decide (other.id = row.id) then none
      else (world.secrets.insert row).map fun secrets => { world with secrets := secrets }

def World.addVersion (world : World) (row : VersionRow) : Option World :=
  if world.secrets.rows.any fun secret => decide (secret.id = row.secretId) then
    (world.versions.insert row).map fun versions => { world with versions := versions }
  else none

-- ON DELETE CASCADE takes the versions along.
def World.dropSecret (world : World) (row : SecretRow) : World :=
  { world with
    secrets := world.secrets.discard fun other => decide (other.reference = row.reference)
    versions := world.versions.discard fun version => decide (version.secretId = row.id) }

section Statements
variable (platform : Platform)

def draw : Sql Draw := do
  let count ← read World.drawn
  write fun world => { world with drawn := count + 1 }
  pure (platform.random count)

def selectSecret (reference : SecretRef) : Sql (Option SecretRow) := do
  bindText reference.parts
  read fun world => world.secrets.find reference

def upsertSecret (row : SecretRow) : Sql Unit := do
  bindText (row.reference.parts ++ row.ownerSubject :: row.labels.texts)
  ensure (decide (row.currentVersion > 0)) .unavailable
  ensure (platform.indexFits row.reference.parts && platform.indexFits [row.reference.tenant, row.ownerSubject]) .unavailable
  attempt (fun world => world.upsert row) .unavailable

def insertVersion (row : VersionRow) : Sql Unit := do
  bindText [row.envelope.keyId]
  attempt (fun world => world.addVersion row) .unavailable

def audit (tenant : String) (id : Option Uuid) (actor : String) (action : AuditAction) : Sql Unit := do
  bindText [tenant, actor]
  ensure (platform.indexFits [tenant]) .unavailable
  write fun world => { world with auditEvents := world.auditEvents ++ [⟨tenant, id, actor, action⟩] }

def deleteSecret (reference : SecretRef) : Sql (Option Uuid) := do
  bindText reference.parts
  let found ← read fun world => world.secrets.find reference
  match found with
  | none => pure none
  | some row =>
      write fun world => world.dropSecret row
      pure (some row.id)

def SecretRow.revokedAt (now : Int) (row : SecretRow) : SecretRow := { row with state := .revoked, updatedAt := now }

def World.revoking (world : World) (reference : SecretRef) (now : Int) : World :=
  { world with secrets := world.secrets.amend reference (SecretRow.revokedAt now) fun _ => rfl }

def revokeSecret (reference : SecretRef) (now : Int) : Sql (Option Uuid) := do
  bindText reference.parts
  let found ← read fun world => world.secrets.find reference
  match found with
  | none => pure none
  | some row =>
      write fun world => world.revoking reference now
      pure (some row.id)

def World.matching (world : World) (tenant : String) (owner : Option String) : List SecretRow :=
  world.secrets.rows.filter fun row =>
    decide (row.reference.tenant = tenant) && owner.all fun subject => decide (row.ownerSubject = subject)

def selectSecrets (tenant : String) (owner : Option String) : Sql (List SecretRow) := do
  bindText (tenant :: owner.toList)
  read fun world => (world.matching tenant owner).insertionSort fun first second => second.updatedAt ≤ first.updatedAt

def World.currentVersion (world : World) (row : SecretRow) : Option VersionRow :=
  world.versions.find (row.id, row.currentVersion)

def World.readable (world : World) (reference : SecretRef) : Option (SecretRow × VersionRow) :=
  match world.secrets.find reference with
  | none => none
  | some row =>
      match world.currentVersion row with
      | none => none
      | some version => if row.state = .active then some (row, version) else none

def selectReadable (reference : SecretRef) : Sql (Option (SecretRow × VersionRow)) := do
  bindText reference.parts
  read fun world => world.readable reference

def selectActive (reference : SecretRef) : Sql Bool := do
  bindText reference.parts
  read fun world => (world.secrets.find reference).any fun row => decide (row.state = .active)

def World.stale (world : World) (active : String) : List (SecretRow × VersionRow) :=
  world.secrets.rows.flatMap fun secret =>
    (world.versions.rows.filter fun version =>
      decide (version.secretId = secret.id) && decide (version.envelope.keyId ≠ active)).map fun version => (secret, version)

def selectStale (active : String) : Sql (List (SecretRow × VersionRow)) := do
  bindText [active]
  read fun world => world.stale active

def VersionRow.holding (envelope : Envelope) (row : VersionRow) : VersionRow := { row with envelope := envelope }

def World.setVersion (world : World) (id : Uuid) (version : Int) (envelope : Envelope) : World :=
  { world with versions := world.versions.amend (id, version) (VersionRow.holding envelope) fun _ => rfl }

def updateVersion (id : Uuid) (version : Int) (envelope : Envelope) : Sql Unit := do
  bindText [envelope.keyId]
  write fun world => world.setVersion id version envelope

def World.purged (world : World) (tenant : String) (now : Int) : World :=
  { world with
    prepared := world.prepared.discard fun row => decide (row.tenant = tenant) && decide (row.expiresAt ≤ now) }

def deleteExpiredOf (tenant : String) (now : Int) : Sql Unit := do
  bindText [tenant]
  write fun world => world.purged tenant now

def World.purgedAll (world : World) (now : Int) : World :=
  { world with prepared := world.prepared.discard fun row => decide (row.expiresAt ≤ now) }

def deleteExpired (now : Int) : Sql Unit := write fun world => world.purgedAll now

-- to_timestamp overflows from here on.
def timestampEnd : Int := 9224318016000 * 1000000

def insertPrepared (row : PreparedRow) : Sql Unit := do
  bindText [row.tenant, row.actor, row.envelope.keyId]
  ensure (decide (row.expiresAt < timestampEnd)) .unavailable
  ensure (platform.indexFits [row.tenant]) .unavailable
  attempt (fun world => (world.prepared.insert row).map fun prepared => { world with prepared := prepared }) .conflict

def World.held (world : World) (tenant : String) (transaction : Uuid) (now : Int) : Option PreparedRow :=
  (world.prepared.find (tenant, transaction)).filter fun row => decide (row.expiresAt > now)

def World.dropPrepared (world : World) (tenant : String) (transaction : Uuid) : World :=
  { world with prepared := world.prepared.discard fun row => decide (row.address = (tenant, transaction)) }

def takePrepared (tenant : String) (transaction : Uuid) (now : Int) : Sql (Option PreparedRow) := do
  bindText [tenant]
  let found ← read fun world => world.held tenant transaction now
  match found with
  | none => pure none
  | some row =>
      write fun world => world.dropPrepared tenant transaction
      pure (some row)

def deletePrepared (tenant : String) (transaction : Uuid) (now : Int) (keyIds : List String) : Sql Nat := do
  bindText (tenant :: keyIds)
  let found ← read fun world => (world.held tenant transaction now).filter fun row => decide (row.envelope.keyId ∈ keyIds)
  match found with
  | none => pure 0
  | some _ =>
      write fun world => world.dropPrepared tenant transaction
      pure 1

def World.staleBatches (world : World) (active : String) (now : Int) : List PreparedRow :=
  world.prepared.rows.filter fun row => decide (row.envelope.keyId ≠ active) && decide (row.expiresAt > now)

def selectStaleBatches (active : String) (now : Int) : Sql (List PreparedRow) := do
  bindText [active]
  read fun world => world.staleBatches active now

def PreparedRow.holding (envelope : Envelope) (row : PreparedRow) : PreparedRow := { row with envelope := envelope }

def World.setPrepared (world : World) (tenant : String) (id : Uuid) (envelope : Envelope) : World :=
  { world with prepared := world.prepared.amend (tenant, id) (PreparedRow.holding envelope) fun _ => rfl }

def updatePrepared (tenant : String) (id : Uuid) (envelope : Envelope) : Sql Unit := do
  bindText [tenant, envelope.keyId]
  write fun world => world.setPrepared tenant id envelope

end Statements
end Secrets
