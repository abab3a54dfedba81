import Secrets.Lib.RowSessions
import Secrets.StoreSpec

set_option autoImplicit false

namespace Secrets

open Programs RowLocks

namespace RecordCalls

-- A row of secrets with the versions that reference it: they are added under its
-- lock and go when it goes.
structure Kept where
  row : SecretRow
  versions : List VersionRow

inductive Reply where
  | metadata (metadata : SecretMetadata)
  | done
  | count (rows : Nat)

abbrev Work (Value : Type) : Type := Dialogue SecretRef Kept AuditRow StoreError StoreError Value

def bindText (texts : List String) : Work Unit := Prog.ensure (!texts.any hasNul) .unavailable

def look (reference : SecretRef) : Work (Option Kept) := do
  bindText reference.parts
  .ask (.look reference) fun answer => Prog.lift (answer.mapError unavailable)

def change (reference : SecretRef) (sought : Kept → Bool) (becomes : Kept → Option Kept) : Work (Option Kept) :=
  .ask (.change reference sought becomes) fun answer => Prog.lift (answer.mapError unavailable)

def selectSecret (reference : SecretRef) : Work (Option Kept) := do
  bindText reference.parts
  change reference (fun _ => true) some

def Kept.written (row : SecretRow) (old : Kept) : Kept := { old with row := row.over (some old.row) }

section Statements
variable (platform : Platform)

def upsertSecret (row : SecretRow) : Work Unit := do
  bindText (row.reference.parts ++ row.ownerSubject :: row.labels.texts)
  Prog.ensure (decide (row.currentVersion > 0)) .unavailable
  Prog.ensure (platform.indexFits row.reference.parts && platform.indexFits [row.reference.tenant, row.ownerSubject]) .unavailable
  .ask (.upsert row.reference ⟨row, []⟩ (Kept.written row)) fun answer => Prog.lift (answer.mapError unavailable) >>= fun _ => .done ()

-- The foreign key finds the record by its id, the primary key no such version.
def insertVersion (reference : SecretRef) (version : VersionRow) : Work Unit := do
  bindText [version.envelope.keyId]
  let found ← change reference
    (fun kept => decide (kept.row.id = version.secretId) && !(kept.versions.any fun other => decide (other.address = version.address)))
    fun kept => some { kept with versions := kept.versions ++ [version] }
  Prog.ensure found.isSome .unavailable

def audit (tenant : String) (id : Option Uuid) (actor : String) (action : AuditAction) : Work Unit := do
  bindText [tenant, actor]
  Prog.ensure (platform.indexFits [tenant]) .unavailable
  .ask (.note ⟨tenant, id, actor, action⟩) fun answer => Prog.lift (answer.mapError unavailable)

def metadataTx (reference : SecretRef) : Work SecretMetadata := do
  let found ← look reference
  match found with
  | none => .stop .notFound
  | some kept => pure kept.row.metadata

end Statements

section Calls
variable (platform : Platform) (store : PostgresStore) (clock : Clock)

def putTx (drawn : Draw) (input : PutSecret) (actor : String) : Work SecretMetadata := do
  Prog.lift (validateRef input.reference)
  let existing ← selectSecret input.reference
  let (id, version) := nextVersion (existing.map Kept.row) drawn
  let envelope ← Prog.lift
    ((store.keyring.encryptValue drawn input.reference version input.disclosure input.value).mapError fun _ => .crypto)
  upsertSecret platform
    { id := id
      reference := input.reference
      ownerSubject := input.ownerSubject
      disclosure := input.disclosure
      state := .active
      currentVersion := version
      labels := input.labels
      createdAt := clock.transaction
      updatedAt := clock.transaction }
  insertVersion input.reference { secretId := id, version := version, envelope := envelope }
  audit platform input.reference.tenant (some id) actor .put
  metadataTx input.reference

def deleteTx (reference : SecretRef) (actor : String) : Work Unit := do
  bindText reference.parts
  let gone ← change reference (fun _ => true) fun _ => none
  match gone with
  | none => .stop .notFound
  | some kept => audit platform reference.tenant (some kept.row.id) actor .delete

def revokeTx (reference : SecretRef) (actor : String) : Work SecretMetadata := do
  bindText reference.parts
  let changed ← change reference (fun _ => true) fun kept => some { kept with row := kept.row.revokedAt clock.transaction }
  match changed with
  | none => .stop .notFound
  | some kept => do
      audit platform reference.tenant (some kept.row.id) actor .revoke
      metadataTx reference

def applyMutation (actor : String) (drawn : Draw) : Mutation → Work Unit
  | .put secret => putTx platform store clock drawn secret actor >>= fun _ => .done ()
  | .delete reference => relabel deleteTargetMissing (deleteTx platform reference actor)

def put (drawn : Draw) (input : PutSecret) : Work SecretMetadata := atomically unavailable (putTx platform store clock drawn input input.ownerSubject)

def delete (reference : SecretRef) (actor : String) : Work Unit := atomically unavailable (deleteTx platform reference actor)

def revoke (reference : SecretRef) (actor : String) : Work SecretMetadata := atomically unavailable (revokeTx platform clock reference actor)

def applyBatch (tenant actor : String) (mutations : List (Draw × Mutation)) : Work Unit :=
  atomically unavailable do
    each (fun entry => applyMutation platform store clock actor entry.1 entry.2) mutations
    audit platform tenant none actor .commitBatch

def Kept.stale (active : String) (number : Int) (kept : Kept) : Option VersionRow :=
  kept.versions.find? fun version => decide (version.version = number) && decide (version.envelope.keyId ≠ active)

def selectStale : List (SecretRef × Int) → Work (List (SecretRow × VersionRow))
  | [] => pure []
  | (reference, number) :: rest => do
      let found ← change reference (fun kept => (kept.stale store.keyring.active number).isSome) some
      let others ← selectStale rest
      let here := found.bind fun kept => (kept.stale store.keyring.active number).map fun version => (kept.row, version)
      pure (here.toList ++ others)

def Kept.setVersion (version : VersionRow) (envelope : Envelope) (kept : Kept) : Kept :=
  { kept with versions := kept.versions.map fun other => if other.address = version.address then other.holding envelope else other }

def rewrapRow (drawn : SecretRef → Int → Draw) (actor : String) (entry : SecretRow × VersionRow) : Work Unit := do
  let (secret, version) := entry
  let value ← Prog.lift
    ((store.keyring.decryptValue secret.reference version.version secret.disclosure version.envelope).mapError fun _ => .crypto)
  let envelope ← Prog.lift ((store.keyring.encryptValue (drawn secret.reference version.version) secret.reference version.version
    secret.disclosure value).mapError fun _ => .crypto)
  bindText [envelope.keyId]
  let _ ← change secret.reference (fun _ => true) fun kept => some (kept.setVersion version envelope)
  audit platform secret.reference.tenant (some secret.id) actor .rewrap

-- The rows of the join that the scan comes by, each once.
structure Scan where
  rows : List (SecretRef × Int)
  once : rows.Nodup

def rewrapVersions (drawn : SecretRef → Int → Draw) (visited : Scan) (actor : String) : Work Nat :=
  atomically unavailable do
    bindText [store.keyring.active]
    let rows ← selectStale store visited.rows
    each (rewrapRow platform store drawn actor) rows
    pure rows.length

def Kept.current (kept : Kept) : Option VersionRow :=
  kept.versions.find? fun version => decide (version.secretId = kept.row.id) && decide (version.version = kept.row.currentVersion)

def get (reference : SecretRef) (found : Option Kept) : Except StoreError StoredSecret :=
  if reference.parts.any hasNul then .error .unavailable
  else
    match (found.filter fun kept => decide (kept.row.state = .active)).bind fun kept => kept.current.map fun version => (kept.row, version) with
    | none => .error .notFound
    | some (row, version) =>
        let metadata := row.metadata
        match store.keyring.decryptValue reference metadata.version metadata.disclosure version.envelope with
        | .ok value => .ok { metadata := metadata, value := value }
        | .error _ => .error .crypto

end Calls

inductive Task where
  | put (store : PostgresStore) (clock : Clock) (drawn : Draw) (input : PutSecret)
  | delete (reference : SecretRef) (actor : String)
  | revoke (clock : Clock) (reference : SecretRef) (actor : String)
  | applyBatch (store : PostgresStore) (clock : Clock) (tenant actor : String) (mutations : List (Draw × Mutation))
  | rewrapVersions (store : PostgresStore) (drawn : SecretRef → Int → Draw) (visited : Scan) (actor : String)

def Task.program (platform : Platform) : Task → Work Reply
  | .put store clock drawn input => RecordCalls.put platform store clock drawn input >>= fun metadata => .done (.metadata metadata)
  | .delete reference actor => RecordCalls.delete platform reference actor >>= fun _ => .done .done
  | .revoke clock reference actor => RecordCalls.revoke platform clock reference actor >>= fun metadata => .done (.metadata metadata)
  | .applyBatch store clock tenant actor mutations =>
      RecordCalls.applyBatch platform store clock tenant actor mutations >>= fun _ => .done .done
  | .rewrapVersions store drawn visited actor =>
      RecordCalls.rewrapVersions platform store drawn visited actor >>= fun rows => .done (.count rows)

end RecordCalls
end Secrets
