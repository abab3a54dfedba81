import Secrets.Lib.RowSessions
import Secrets.Represents

set_option autoImplicit false

namespace Secrets

open Programs RowLocks

namespace BatchCalls

abbrev Place : Type := String × Uuid

inductive Deed where
  | mutation (actor : String) (mutation : Mutation)
  | audit (actor : String)
  | rewrap

def Deed.refused : Deed → StoreError → StoreError
  | .mutation _ (.put _), error => error
  | .mutation _ (.delete _), error => deleteTargetMissing error
  | .audit _, _ => .unavailable
  | .rewrap, error => error

abbrev Work (Value : Type) : Type := Dialogue Place PreparedRow Deed StoreError StoreError Value

def change (place : Place) (sought : PreparedRow → Bool) (becomes : PreparedRow → Option PreparedRow) : Work (Option PreparedRow) :=
  .ask (.change place (fun row => decide (row.address = place) && sought row) becomes) fun answer => Prog.lift (answer.mapError unavailable)

def insert (row : PreparedRow) : Work Unit :=
  .ask (.insert row.address row) fun answer =>
    Prog.lift (answer.mapError unavailable) >>= fun fresh => Prog.ensure fresh .conflict

def deed (deed : Deed) : Work Unit := .ask (.note deed) fun answer => Prog.lift (answer.mapError deed.refused)

section Calls
variable (platform : Platform) (store : PostgresStore) (clock : Clock)

def expire (sought : PreparedRow → Bool) (now : Int) (place : Place) : Work Unit :=
  change place (fun row => sought row && decide (row.expiresAt ≤ now)) (fun _ => none) >>= fun _ => .done ()

def purgeExpired (tenant : String) (visited : List Place) : Work Unit :=
  atomically unavailable (each (expire (fun row => decide (row.tenant = tenant)) clock.statement) visited)

def prepare (drawn : Draw) (visited : List Place) (tenant : String) (transaction : Uuid) (mutations : List Mutation) (actor : String) :
    Work Unit := do
  Prog.ensure (!mutations.isEmpty) (.invalid .emptyBatch)
  Prog.ensure (mutations.all fun mutation => decide (mutation.reference.tenant = tenant)) (.invalid .crossTenantBatch)
  let now ← Prog.lift (unixSeconds clock)
  Prog.ensure (decide ((store.batchLifetime : Int) ≤ i64Max)) .unavailable
  let expiresAt := saturatingAdd now store.batchLifetime
  let batch ← Prog.lift (batchPayload platform expiresAt mutations)
  let envelope ← Prog.lift ((store.keyring.sealBatch drawn tenant transaction actor batch).mapError fun _ => .crypto)
  purgeExpired clock tenant visited
  atomically unavailable (insert
    { id := transaction
      tenant := tenant
      actor := actor
      envelope := envelope
      expiresAt := expiresAt * 1000000 })

-- `false`: the sealed expiry has passed, and the claimed row is dropped for good.
def commitTx (tenant : String) (transaction : Uuid) : Work Bool := do
  let claimed ← change (tenant, transaction) (fun row => decide (row.expiresAt > clock.transaction)) fun _ => none
  match claimed with
  | none => .stop .notFound
  | some row =>
      let batch ← Prog.lift ((store.keyring.openBatch tenant transaction row.actor row.envelope).mapError fun _ => .unavailable)
      match splitExpiry batch with
      | none => .stop .unavailable
      | some (sealedExpiry, json) =>
          if sealedExpiry * 1000000 ≤ clock.transaction then pure false
          else
            match platform.codec.fromSlice json with
            | none => .stop .unavailable
            | some mutations =>
                each (fun mutation => deed (.mutation row.actor mutation)) mutations
                deed (.audit row.actor)
                pure true

def commit (visited : List Place) (tenant : String) (transaction : Uuid) : Work Unit := do
  purgeExpired clock tenant visited
  let live ← atomically unavailable (commitTx platform store clock tenant transaction)
  Prog.ensure live .notFound

def abort (tenant : String) (transaction : Uuid) : Work Unit := do
  let affected ← atomically unavailable (change (tenant, transaction)
    (fun row => decide (row.expiresAt > clock.statement) && decide (row.envelope.keyId ∈ store.keyring.keyIds)) fun _ => none)
  Prog.ensure affected.isSome .notFound

def lockStale : List Place → Work (List PreparedRow)
  | [] => pure []
  | place :: rest => do
      let found ← change place
        (fun row => decide (row.envelope.keyId ≠ store.keyring.active) && decide (row.expiresAt > clock.transaction)) some
      let others ← lockStale rest
      pure (found.toList ++ others)

def resealRow (drawn : Place → Draw) (row : PreparedRow) : Work Unit := do
  let envelope ← Prog.lift
    ((store.keyring.resealBatch (drawn row.address) row.tenant row.id row.actor row.envelope).mapError fun _ => .crypto)
  let _ ← change row.address (fun _ => true) fun row => some (row.holding envelope)
  pure ()

def resealBatches (drawn : Place → Draw) (visited : List Place) : Work Unit :=
  atomically unavailable do
    each (expire (fun _ => true) clock.transaction) visited
    let batches ← lockStale store clock visited
    each (resealRow store drawn) batches

def rewrapAll (drawn : Place → Draw) (visited : List Place) : Work Unit := do
  atomically unavailable (deed .rewrap)
  resealBatches store clock drawn visited

end Calls

-- A call, with the clocks, the random draws and the scans it meets.
inductive Task where
  | prepare (store : PostgresStore) (clock : Clock) (drawn : Draw) (visited : List Place) (tenant : String) (transaction : Uuid)
      (mutations : List Mutation) (actor : String)
  | commit (store : PostgresStore) (clock : Clock) (visited : List Place) (tenant : String) (transaction : Uuid)
  | abort (store : PostgresStore) (clock : Clock) (tenant : String) (transaction : Uuid)
  | rewrapAll (store : PostgresStore) (clock : Clock) (drawn : Place → Draw) (visited : List Place)

def Task.clock : Task → Clock
  | .prepare _ clock _ _ _ _ _ _ => clock
  | .commit _ clock _ _ _ => clock
  | .abort _ clock _ _ => clock
  | .rewrapAll _ clock _ _ => clock

def Task.program (platform : Platform) : Task → Work Unit
  | .prepare store clock drawn visited tenant transaction mutations actor =>
      BatchCalls.prepare platform store clock drawn visited tenant transaction mutations actor
  | .commit store clock visited tenant transaction => BatchCalls.commit platform store clock visited tenant transaction
  | .abort store clock tenant transaction => BatchCalls.abort store clock tenant transaction
  | .rewrapAll store clock drawn visited => BatchCalls.rewrapAll store clock drawn visited

end BatchCalls
end Secrets
