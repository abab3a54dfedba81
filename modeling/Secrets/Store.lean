import Secrets.Database

set_option autoImplicit false

namespace Secrets

open Effects Effects.Tx
open Framing (Bytes bigEndian ofBigEndian)

structure PostgresStore where
  keyring : Keyring
  batchLifetime : Nat

-- What the clocks show during one call: the service's in whole seconds, the
-- database's at a statement outside and then at the start of a transaction.
structure Clock where
  service : Int
  statement : Int
  transaction : Int
  ordered : statement ≤ transaction

def crypto {Value : Type} (result : Except CryptoError Value) (refused : StoreError) : Sql Value :=
  lift (result.mapError fun _ => refused)

def toBeBytes (value : Int) : Bytes := bigEndian 8 (value % 2 ^ 64).toNat

def fromBeBytes (bytes : Bytes) : Int :=
  let value : Int := ofBigEndian bytes
  if value ≤ i64Max then value else value - 2 ^ 64

def unixSeconds (clock : Clock) : Except StoreError Int :=
  if 0 ≤ clock.service ∧ clock.service ≤ i64Max then .ok clock.service else .error .unavailable

def saturatingAdd (first second : Int) : Int := max i64Min (min i64Max (first + second))

def batchPayload (platform : Platform) (expiresAt : Int) (mutations : List Mutation) : Except StoreError Bytes :=
  let capacity := 8 + (platform.codec.toWriter mutations).length
  let payload := toBeBytes expiresAt ++ platform.codec.toWriter mutations
  if payload.length ≠ capacity then .error .unavailable else .ok payload

def splitExpiry (batch : Bytes) : Option (Int × Bytes) :=
  if batch.length < 8 then none else some (fromBeBytes (batch.take 8), batch.drop 8)

def deleteTargetMissing : StoreError → StoreError
  | .notFound => .deleteTargetMissing
  | other => other

section Calls
variable (platform : Platform) (store : PostgresStore) (clock : Clock)

def metadataTx (reference : SecretRef) : Sql SecretMetadata := do
  let found ← selectSecret reference
  match found with
  | none => fail .notFound
  | some row => pure row.metadata

def nextVersion (existing : Option SecretRow) (drawn : Draw) : Uuid × Int :=
  match existing with
  | some row => (row.id, i64Succ row.currentVersion)
  | none => (drawn.uuid, 1)

def putTx (input : PutSecret) (actor : String) : Sql SecretMetadata := do
  lift (validateRef input.reference)
  let existing ← selectSecret input.reference
  let drawn ← draw platform
  let (id, version) := nextVersion existing drawn
  let envelope ← crypto (store.keyring.encryptValue drawn input.reference version input.disclosure input.value) .crypto
  upsertSecret platform
    { id := id
      reference := input.reference
      ownerSubject := input.ownerSubject
      disclosure := input.disclosure
      state := .active
      currentVersion := version
      labels := input.labels
      createdAt := clock.transaction
      updatedAt := clock.transaction }
  insertVersion { secretId := id, version := version, envelope := envelope }
  audit platform input.reference.tenant (some id) actor .put
  metadataTx input.reference

def deleteTx (reference : SecretRef) (actor : String) : Sql Unit := do
  let gone ← deleteSecret reference
  match gone with
  | none => fail .notFound
  | some id => audit platform reference.tenant (some id) actor .delete

def put (input : PutSecret) : Sql SecretMetadata :=
  atomic rollback (putTx platform store clock input input.ownerSubject)

def get (reference : SecretRef) : Sql StoredSecret := do
  let found ← selectReadable reference
  match found with
  | none => fail .notFound
  | some (row, version) =>
      let metadata := row.metadata
      let value ← crypto
        (store.keyring.decryptValue reference metadata.version metadata.disclosure version.envelope) .crypto
      pure { metadata := metadata, value := value }

def existsActive (reference : SecretRef) : Sql Bool := selectActive reference

def delete (reference : SecretRef) (actor : String) : Sql Unit :=
  atomic rollback (deleteTx platform reference actor)

def revoke (reference : SecretRef) (actor : String) : Sql SecretMetadata :=
  atomic rollback do
    let changed ← revokeSecret reference clock.transaction
    match changed with
    | none => fail .notFound
    | some id =>
        audit platform reference.tenant (some id) actor .revoke
        metadataTx reference

def list (tenant : String) (owner : Option String) : Sql (List SecretMetadata) := do
  let rows ← selectSecrets tenant owner
  pure (rows.map SecretRow.metadata)

def purgeExpired (tenant : String) : Sql Unit := deleteExpiredOf tenant clock.statement

def prepare (tenant : String) (transaction : Uuid) (mutations : List Mutation) (actor : String) : Sql Unit := do
  ensure (!mutations.isEmpty) (.invalid .emptyBatch)
  ensure (mutations.all fun mutation => decide (mutation.reference.tenant = tenant)) (.invalid .crossTenantBatch)
  let now ← lift (unixSeconds clock)
  ensure (decide ((store.batchLifetime : Int) ≤ i64Max)) .unavailable
  let expiresAt := saturatingAdd now store.batchLifetime
  let batch ← lift (batchPayload platform expiresAt mutations)
  let drawn ← draw platform
  let envelope ← crypto (store.keyring.sealBatch drawn tenant transaction actor batch) .crypto
  purgeExpired clock tenant
  insertPrepared platform
    { id := transaction
      tenant := tenant
      actor := actor
      envelope := envelope
      expiresAt := expiresAt * 1000000 }

def applyMutation (actor : String) : Mutation → Sql Unit
  | .put secret => do
      let _ ← putTx platform store clock secret actor
      pure ()
  | .delete reference => mapError deleteTargetMissing (deleteTx platform reference actor)

-- The transaction of a commit. `false`: the sealed expiry has passed, and the
-- claimed row is dropped for good.
def commitTx (tenant : String) (transaction : Uuid) : Sql Bool := do
  let claimed ← takePrepared tenant transaction clock.transaction
  match claimed with
  | none => fail .notFound
  | some row =>
      let batch ← crypto (store.keyring.openBatch tenant transaction row.actor row.envelope) .unavailable
      match splitExpiry batch with
      | none => fail .unavailable
      | some (sealedExpiry, json) =>
          if sealedExpiry * 1000000 ≤ clock.transaction then pure false
          else
            match platform.codec.fromSlice json with
            | none => fail .unavailable
            | some mutations =>
                forEach (applyMutation platform store clock row.actor) mutations
                audit platform tenant none row.actor .commitBatch
                pure true

def commit (tenant : String) (transaction : Uuid) : Sql Unit := do
  purgeExpired clock tenant
  let live ← atomic rollback (commitTx platform store clock tenant transaction)
  ensure live .notFound

def abort (tenant : String) (transaction : Uuid) : Sql Unit := do
  let affected ← deletePrepared tenant transaction clock.statement store.keyring.keyIds
  ensure (decide (affected ≠ 0)) .notFound

def rewrapRow (actor : String) (entry : SecretRow × VersionRow) : Sql Unit := do
  let (secret, version) := entry
  let value ← crypto
    (store.keyring.decryptValue secret.reference version.version secret.disclosure version.envelope) .crypto
  let drawn ← draw platform
  let envelope ← crypto
    (store.keyring.encryptValue drawn secret.reference version.version secret.disclosure value) .crypto
  updateVersion secret.id version.version envelope
  audit platform secret.reference.tenant (some secret.id) actor .rewrap

def rewrapVersions (actor : String) : Sql Nat :=
  atomic rollback do
    let rows ← selectStale store.keyring.active
    forEach (rewrapRow platform store actor) rows
    pure rows.length

def resealRow (row : PreparedRow) : Sql Unit := do
  let drawn ← draw platform
  let envelope ← crypto (store.keyring.resealBatch drawn row.tenant row.id row.actor row.envelope) .crypto
  updatePrepared row.tenant row.id envelope

def resealBatches : Sql Unit :=
  atomic rollback do
    deleteExpired clock.transaction
    let batches ← selectStaleBatches store.keyring.active clock.transaction
    forEach (resealRow platform store) batches

def rewrapAll (actor : String) : Sql Nat := do
  let count ← rewrapVersions platform store actor
  resealBatches platform store clock
  pure count

end Calls

inductive StoreCall where
  | put (input : PutSecret)
  | get (reference : SecretRef)
  | existsActive (reference : SecretRef)
  | delete (reference : SecretRef) (actor : String)
  | revoke (reference : SecretRef) (actor : String)
  | list (tenant : String) (owner : Option String)
  | prepare (tenant : String) (transaction : Uuid) (mutations : List Mutation) (actor : String)
  | commit (tenant : String) (transaction : Uuid)
  | abort (tenant : String) (transaction : Uuid)

namespace StoreCall

abbrev Answer : StoreCall → Type
  | .put _ => SecretMetadata
  | .get _ => StoredSecret
  | .existsActive _ => Bool
  | .delete _ _ => Unit
  | .revoke _ _ => SecretMetadata
  | .list _ _ => List SecretMetadata
  | .prepare _ _ _ _ => Unit
  | .commit _ _ => Unit
  | .abort _ _ => Unit

def perform (platform : Platform) (store : PostgresStore) (clock : Clock) : (call : StoreCall) → Sql call.Answer
  | .put input => Secrets.put platform store clock input
  | .get reference => Secrets.get store reference
  | .existsActive reference => Secrets.existsActive reference
  | .delete reference actor => Secrets.delete platform reference actor
  | .revoke reference actor => Secrets.revoke platform clock reference actor
  | .list tenant owner => Secrets.list tenant owner
  | .prepare tenant transaction mutations actor =>
      Secrets.prepare platform store clock tenant transaction mutations actor
  | .commit tenant transaction => Secrets.commit platform store clock tenant transaction
  | .abort tenant transaction => Secrets.abort store clock tenant transaction

end StoreCall
end Secrets
