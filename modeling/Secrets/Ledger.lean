import Mathlib.Logic.Function.Basic
import Secrets.StoreSpec

set_option autoImplicit false

namespace Secrets

open Effects Effects.Tx Tables
open Framing (Bytes)

-- What the store is for: a map from references to records. A record remembers
-- every put since it was created, so its version is a count and older versions
-- can be spoken of.
structure Written where
  disclosure : Disclosure
  value : Bytes
deriving DecidableEq

structure Record where
  ownerSubject : String
  labels : Labels
  state : SecretState
  older : List Written
  latest : Written
deriving DecidableEq

namespace Record

def history (record : Record) : List Written := record.older ++ [record.latest]

def version (record : Record) : Int := record.older.length + 1

theorem history_latest (record : Record) : record.history[record.older.length]? = some record.latest := by
  simp [history]

end Record

structure Batch where
  mutations : List Mutation
  actor : String
  expiresAt : Int

structure Ledger where
  records : SecretRef → Option Record
  batches : String × Uuid → Option Batch

namespace Ledger

def empty : Ledger := ⟨fun _ => none, fun _ => none⟩

def puts (records : SecretRef → Option Record) (input : PutSecret) : SecretRef → Option Record :=
  Function.update records input.reference (some {
    ownerSubject := input.ownerSubject
    labels := input.labels
    state := .active
    older := (records input.reference).elim [] Record.history
    latest := ⟨input.disclosure, input.value⟩ })

def deletes (records : SecretRef → Option Record) (reference : SecretRef) : SecretRef → Option Record :=
  Function.update records reference none

def revokes (records : SecretRef → Option Record) (reference : SecretRef) : SecretRef → Option Record :=
  Function.update records reference ((records reference).map fun record => { record with state := .revoked })

def prepares (batches : String × Uuid → Option Batch) (address : String × Uuid) (batch : Batch) :
    String × Uuid → Option Batch :=
  Function.update batches address (some batch)

def mutates (records : SecretRef → Option Record) : Mutation → SecretRef → Option Record
  | .put secret => puts records secret
  | .delete reference => deletes records reference

end Ledger

def Content (envelope : Envelope) (aad plaintext : Bytes) : Prop := ∃ key, SealedUnder key aad plaintext envelope

def SameContent (first second : Envelope) : Prop := ∀ aad plaintext, Content first aad plaintext ↔ Content second aad plaintext

theorem same_content (first second : Envelope) (aad plaintext : Bytes) (left : Content first aad plaintext)
    (right : Content second aad plaintext) : SameContent first second := by
  intro other text
  constructor
  · rintro ⟨key, under⟩
    obtain ⟨made, known⟩ := left
    obtain ⟨_, rfl, rfl⟩ := sealed_under_unique _ _ _ _ _ _ _ known under
    exact right
  · rintro ⟨key, under⟩
    obtain ⟨made, known⟩ := right
    obtain ⟨_, rfl, rfl⟩ := sealed_under_unique _ _ _ _ _ _ _ known under
    exact left

theorem open_content (keyring : Keyring) (aad plaintext : Bytes) (envelope : Envelope)
    (opened : keyring.openEnvelope aad envelope = .ok plaintext) : Content envelope aad plaintext := by
  obtain ⟨key, _, under⟩ := (open_ok _ _ _ _).mp opened
  exact ⟨key, under⟩

theorem content_unique (envelope : Envelope) (aad other plaintext text : Bytes) (left : Content envelope aad plaintext)
    (right : Content envelope other text) : aad = other ∧ plaintext = text := by
  obtain ⟨_, under⟩ := left
  obtain ⟨_, again⟩ := right
  exact (sealed_under_unique _ _ _ _ _ _ _ under again).2

def Keyring.Holds (keyring : Keyring) (envelope : Envelope) : Prop :=
  ∃ key, keyring.get envelope.keyId = some key ∧ envelope.wrappedKey.madeUnder key

instance (keyring : Keyring) (envelope : Envelope) : Decidable (keyring.Holds envelope) :=
  decidable_of_iff ((keyring.get envelope.keyId).any fun key => decide (envelope.wrappedKey.madeUnder key)) (by
    unfold Keyring.Holds
    cases keyring.get envelope.keyId <;> simp)

theorem holds_opens (keyring : Keyring) (aad plaintext : Bytes) (envelope : Envelope)
    (held : keyring.Holds envelope) (content : Content envelope aad plaintext) :
    keyring.openEnvelope aad envelope = .ok plaintext := by
  obtain ⟨key, found, made⟩ := held
  obtain ⟨used, under⟩ := content
  have same : used = key := by
    obtain ⟨dek, wrapped, _⟩ := under
    rw [wrapped] at made
    exact made
  exact (open_ok _ _ _ _).mpr ⟨key, found, same ▸ under⟩

theorem opens_holds (keyring : Keyring) (aad plaintext : Bytes) (envelope : Envelope)
    (opened : keyring.openEnvelope aad envelope = .ok plaintext) : keyring.Holds envelope := by
  obtain ⟨key, found, dek, wrapped, _⟩ := (open_ok _ _ _ _).mp opened
  refine ⟨key, found, ?_⟩
  rw [wrapped]
  rfl

def SealedAs (reference : SecretRef) (number : Int) (written : Written) (envelope : Envelope) : Prop :=
  Content envelope (associatedData reference number written.disclosure) written.value

-- The row shows the record, and every put of the record is a version row sealed
-- as that put was.
structure Shows (world : World) (reference : SecretRef) (record : Record) (row : SecretRow) : Prop where
  ownerSubject : row.ownerSubject = record.ownerSubject
  disclosure : row.disclosure = record.latest.disclosure
  state : row.state = record.state
  version : row.currentVersion = record.version
  labels : row.labels = record.labels
  versions : ∀ (index : Nat) written, record.history[index]? = some written →
    ∃ version, world.versions.find (row.id, (index : Int) + 1) = some version ∧
      SealedAs reference ((index : Int) + 1) written version.envelope

structure RecordsMatch (platform : Platform) (records : SecretRef → Option Record) (world : World) : Prop where
  absent : ∀ reference, records reference = none → world.secrets.find reference = none
  present : ∀ reference record, records reference = some record →
    ∃ row, world.secrets.find reference = some row ∧ Shows world reference record row
  owned : ∀ address version, world.versions.find address = some version →
    ∃ reference row, world.secrets.find reference = some row ∧ row.id = address.1 ∧
      1 ≤ address.2 ∧ address.2 ≤ row.currentVersion
  distinct : ∀ first row second other, world.secrets.find first = some row → world.secrets.find second = some other →
    row.id = other.id → first = second
  valid : ∀ reference row, world.secrets.find reference = some row →
    validateRef reference = .ok () ∧ platform.indexFits [reference.tenant] = true

section Records
variable (platform : Platform) (records : SecretRef → Option Record) (before after : World)

theorem record_of_row (matched : RecordsMatch platform records before) (reference : SecretRef) (row : SecretRow)
    (found : before.secrets.find reference = some row) :
    ∃ record, records reference = some record ∧ Shows before reference record row := by
  cases known : records reference with
  | none => rw [matched.absent reference known] at found; cases found
  | some record =>
      obtain ⟨other, again, shows⟩ := matched.present reference record known
      cases found.symm.trans again
      exact ⟨record, rfl, shows⟩

theorem i64_succ_positive (value : Int) (positive : i64Succ value > 0) : i64Succ value = value + 1 := by
  unfold i64Succ at positive ⊢
  split at positive
  · rename_i top
    rw [if_pos top]
    unfold i64Min at positive
    omega
  · rename_i below
    rw [if_neg below]

theorem shows_frame (reference : SecretRef) (record : Record) (row : SecretRow)
    (shows : Shows before reference record row)
    (kept : ∀ address version, address.1 = row.id → before.versions.find address = some version →
      after.versions.find address = some version) : Shows after reference record row := by
  refine { shows with versions := ?_ }
  intro index written there
  obtain ⟨version, found, sealedAs⟩ := shows.versions index written there
  exact ⟨version, kept _ version rfl found, sealedAs⟩

variable (store : PostgresStore) (clock : Clock)

theorem put_place (matched : RecordsMatch platform records before) (input : PutSecret) (actor : String)
    (metadata : SecretMetadata) (done : PutDone platform store clock input actor before after metadata) :
    (putPlace platform input before).2 = ((records input.reference).elim [] Record.history).length + 1 ∧
    (∀ row, before.secrets.find input.reference = some row → (putPlace platform input before).1 = row.id) ∧
    (∀ reference row, before.secrets.find reference = some row → row.id = (putPlace platform input before).1 →
      reference = input.reference) := by
  have positive := done.positive
  have fresh := done.freshId
  unfold putPlace nextVersion at positive fresh ⊢
  cases found : before.secrets.find input.reference with
  | none =>
      have unknown : records input.reference = none := by
        cases known : records input.reference with
        | none => rfl
        | some record =>
            obtain ⟨row, there, _⟩ := matched.present _ _ known
            rw [found] at there
            cases there
      simp only [found] at fresh
      refine ⟨by simp [unknown], by simp, fun reference row there same => ?_⟩
      exact absurd same (fresh trivial row (Table.find_mem _ _ _ there))
  | some row =>
      obtain ⟨record, known, shows⟩ := record_of_row platform records before matched _ _ found
      simp only [found] at positive
      refine ⟨?_, fun other same => by cases same; rfl, fun reference other there same => ?_⟩
      · change i64Succ row.currentVersion = _
        rw [known, i64_succ_positive _ positive, shows.version, Record.version]
        simp [Record.history]
      · exact matched.distinct _ _ _ _ there found same

section Put
variable (matched : RecordsMatch platform records before) (input : PutSecret) (actor : String) (metadata : SecretMetadata)
  (done : PutDone platform store clock input actor before after metadata)
include matched done

theorem put_row_id : (putRow platform clock input before).id = (putPlace platform input before).1 := by
  have place := (put_place platform records before after store clock matched input actor metadata done).2.1
  unfold putRow SecretRow.over
  cases found : before.secrets.find input.reference with
  | none => rfl
  | some row => exact (place row found).symm

omit matched done in
theorem put_row_fields :
    (putRow platform clock input before).ownerSubject = input.ownerSubject ∧
    (putRow platform clock input before).disclosure = input.disclosure ∧
    (putRow platform clock input before).state = .active ∧
    (putRow platform clock input before).currentVersion = (putPlace platform input before).2 ∧
    (putRow platform clock input before).labels = input.labels := by
  unfold putRow SecretRow.over
  cases before.secrets.find input.reference <;> exact ⟨rfl, rfl, rfl, rfl, rfl⟩

theorem put_elsewhere (reference : SecretRef) (row : SecretRow) (found : before.secrets.find reference = some row)
    (other : input.reference ≠ reference) (address : Uuid × Int) (version : VersionRow) (owner : address.1 = row.id)
    (there : before.versions.find address = some version) : after.versions.find address = some version := by
  have onlyId := (put_place platform records before after store clock matched input actor metadata done).2.2
  have apart : putPlace platform input before ≠ address := by
    rintro rfl
    exact other (onlyId reference row found owner.symm).symm
  rw [done.versions, if_neg apart, there]

theorem put_shows_newest (index : Nat) (newest : index = ((records input.reference).elim [] Record.history).length) :
    ∃ version, after.versions.find ((putPlace platform input before).1, (index : Int) + 1) = some version ∧
      SealedAs input.reference ((index : Int) + 1) ⟨input.disclosure, input.value⟩ version.envelope := by
  have number := (put_place platform records before after store clock matched input actor metadata done).1
  rw [← newest] at number
  rw [done.versions, ← number, if_pos rfl]
  exact ⟨_, rfl, store.keyring.activeKey, envelope_of_sealed _ _ _ _⟩

theorem put_shows_older (index : Nat) (written : Written)
    (old : ((records input.reference).elim [] Record.history)[index]? = some written) :
    ∃ version, after.versions.find ((putPlace platform input before).1, (index : Int) + 1) = some version ∧
      SealedAs input.reference ((index : Int) + 1) written version.envelope := by
  obtain ⟨number, sameId, _⟩ := put_place platform records before after store clock matched input actor metadata done
  have bound := (List.getElem?_eq_some_iff.mp old).1
  have apart : putPlace platform input before ≠ ((putPlace platform input before).1, (index : Int) + 1) := by
    rw [Ne, Prod.ext_iff]
    rintro ⟨_, same⟩
    rw [number] at same
    omega
  rw [done.versions, if_neg apart]
  cases earlier : records input.reference with
  | none => simp [earlier] at old
  | some record =>
      obtain ⟨row, found, shows⟩ := matched.present _ _ earlier
      rw [earlier] at old
      rw [sameId row found]
      exact shows.versions index written old

theorem put_shows (record : Record) (known : Ledger.puts records input input.reference = some record) :
    Shows after input.reference record (putRow platform clock input before) := by
  rw [Ledger.puts, Function.update_self, Option.some.injEq] at known
  subst known
  obtain ⟨owner, disclosure, state, version, labels⟩ := put_row_fields platform before clock input
  have number := (put_place platform records before after store clock matched input actor metadata done).1
  refine ⟨owner, disclosure, state, by rw [version, number, Record.version], labels, ?_⟩
  intro index written there
  rw [put_row_id platform records before after store clock matched input actor metadata done]
  rw [Record.history] at there
  dsimp only at there
  rw [List.getElem?_append] at there
  split at there
  · exact put_shows_older platform records before after store clock matched input actor metadata done index written there
  · rename_i beyond
    have single := (List.getElem?_eq_some_iff.mp there).1
    rw [List.length_singleton] at single
    have newest : index = ((records input.reference).elim [] Record.history).length := by omega
    rw [newest, Nat.sub_self] at there
    cases there
    exact put_shows_newest platform records before after store clock matched input actor metadata done index newest

theorem put_owned (address : Uuid × Int) (version : VersionRow) (there : after.versions.find address = some version) :
    ∃ reference row, after.secrets.find reference = some row ∧ row.id = address.1 ∧
      1 ≤ address.2 ∧ address.2 ≤ row.currentVersion := by
  obtain ⟨number, sameId, _⟩ := put_place platform records before after store clock matched input actor metadata done
  have rowId := put_row_id platform records before after store clock matched input actor metadata done
  have current := (put_row_fields platform before clock input).2.2.2.1
  have mine : after.secrets.find input.reference = some (putRow platform clock input before) := by
    rw [done.secrets, if_pos rfl]
  rw [done.versions] at there
  by_cases hit : putPlace platform input before = address
  · subst hit
    have positive := done.positive
    exact ⟨input.reference, _, mine, rowId, by omega, by omega⟩
  · rw [if_neg hit] at there
    obtain ⟨reference, row, found, same, low, high⟩ := matched.owned address version there
    by_cases continued : input.reference = reference
    · subst continued
      obtain ⟨record, known, shows⟩ := record_of_row platform records before matched _ _ found
      have total : record.history.length = record.older.length + 1 := by simp [Record.history]
      rw [shows.version, Record.version] at high
      rw [known, Option.elim_some, total] at number
      exact ⟨input.reference, _, mine, by rw [rowId, sameId row found, same], low, by omega⟩
    · exact ⟨reference, row, by rw [done.secrets, if_neg continued, found], same, low, high⟩

theorem records_match_put : RecordsMatch platform (Ledger.puts records input) after := by
  have onlyId := (put_place platform records before after store clock matched input actor metadata done).2.2
  have rowId := put_row_id platform records before after store clock matched input actor metadata done
  constructor
  · intro reference unknown
    have other : input.reference ≠ reference := by
      rintro rfl
      simp [Ledger.puts] at unknown
    rw [Ledger.puts, Function.update_of_ne (Ne.symm other)] at unknown
    rw [done.secrets, if_neg other, matched.absent reference unknown]
  · intro reference record known
    by_cases hit : input.reference = reference
    · subst hit
      exact ⟨_, by rw [done.secrets, if_pos rfl],
        put_shows platform records before after store clock matched input actor metadata done record known⟩
    · rw [Ledger.puts, Function.update_of_ne (Ne.symm hit)] at known
      obtain ⟨row, found, shows⟩ := matched.present reference record known
      refine ⟨row, by rw [done.secrets, if_neg hit, found], ?_⟩
      exact shows_frame before after reference record row shows
        (put_elsewhere platform records before after store clock matched input actor metadata done reference row found hit)
  · exact put_owned platform records before after store clock matched input actor metadata done
  · intro first row second other found there same
    rw [done.secrets] at found there
    by_cases hit : input.reference = first
    · by_cases again : input.reference = second
      · exact hit.symm.trans again
      · rw [if_pos hit, Option.some.injEq] at found
        rw [if_neg again] at there
        subst found
        exact hit.symm.trans (onlyId second other there (same.symm.trans rowId)).symm
    · by_cases again : input.reference = second
      · rw [if_pos again, Option.some.injEq] at there
        rw [if_neg hit] at found
        subst there
        exact (onlyId first row found (same.trans rowId)).trans again
      · rw [if_neg hit] at found
        rw [if_neg again] at there
        exact matched.distinct _ _ _ _ found there same
  · intro reference row found
    rw [done.secrets] at found
    by_cases hit : input.reference = reference
    · subst hit
      exact ⟨done.valid, done.fits⟩
    · rw [if_neg hit] at found
      exact matched.valid reference row found

end Put

theorem shows_same (reference : SecretRef) (record : Record) (row : SecretRow) (versions : after.versions = before.versions)
    (shows : Shows before reference record row) : Shows after reference record row :=
  shows_frame before after reference record row shows fun _ _ _ there => by rw [versions, there]

theorem records_match_same (secrets : after.secrets = before.secrets) (versions : after.versions = before.versions)
    (matched : RecordsMatch platform records before) : RecordsMatch platform records after := by
  constructor
  · rw [secrets]
    exact matched.absent
  · intro reference record known
    obtain ⟨row, found, shows⟩ := matched.present reference record known
    exact ⟨row, by rw [secrets, found], shows_same before after reference record row versions shows⟩
  · rw [secrets, versions]
    exact matched.owned
  · rw [secrets]
    exact matched.distinct
  · rw [secrets]
    exact matched.valid

theorem records_match_drop (matched : RecordsMatch platform records before) (reference : SecretRef) (row : SecretRow)
    (found : before.secrets.find reference = some row) :
    RecordsMatch platform (Ledger.deletes records reference) (before.dropSecret row) := by
  have key := Table.find_key _ _ _ found
  have other : ∀ target other, (before.dropSecret row).secrets.find target = some other →
      reference ≠ target ∧ before.secrets.find target = some other := by
    intro target other there
    rw [find_drop_secret, key] at there
    split at there
    · cases there
    · rename_i apart
      exact ⟨apart, there⟩
  constructor
  · intro target unknown
    rw [find_drop_secret, key]
    by_cases hit : reference = target
    · rw [if_pos hit]
    · rw [Ledger.deletes, Function.update_of_ne (Ne.symm hit)] at unknown
      rw [if_neg hit, matched.absent target unknown]
  · intro target record known
    have apart : reference ≠ target := by
      rintro rfl
      simp [Ledger.deletes] at known
    rw [Ledger.deletes, Function.update_of_ne (Ne.symm apart)] at known
    obtain ⟨kept, there, shows⟩ := matched.present target record known
    refine ⟨kept, by rw [find_drop_secret, key, if_neg apart, there], ?_⟩
    apply shows_frame before _ target record kept shows
    intro address version owner present
    have ids : address.1 ≠ row.id := by
      rw [owner]
      exact fun same => apart (matched.distinct _ _ _ _ there found same).symm
    rw [find_version_drop_secret, if_neg ids, present]
  · intro address version there
    rw [find_version_drop_secret] at there
    split at there
    · cases there
    · rename_i ids
      obtain ⟨target, kept, present, same, low, high⟩ := matched.owned address version there
      have apart : reference ≠ target := by
        rintro rfl
        cases found.symm.trans present
        exact ids same.symm
      exact ⟨target, kept, by rw [find_drop_secret, key, if_neg apart, present], same, low, high⟩
  · intro first kept second again here there same
    exact matched.distinct _ _ _ _ (other _ _ here).2 (other _ _ there).2 same
  · intro target kept there
    exact matched.valid target kept (other _ _ there).2

theorem find_revoked_row (reference target : SecretRef) (now : Int) (row : SecretRow)
    (found : (before.revoking reference now).secrets.find target = some row) :
    ∃ old, before.secrets.find target = some old ∧ row.id = old.id ∧ row.currentVersion = old.currentVersion := by
  rw [find_revoking] at found
  split at found
  · obtain ⟨old, there, rfl⟩ := Option.map_eq_some_iff.mp found
    exact ⟨old, there, rfl, rfl⟩
  · exact ⟨row, found, rfl, rfl⟩

theorem records_match_revoke (matched : RecordsMatch platform records before) (reference : SecretRef) (now : Int) :
    RecordsMatch platform (Ledger.revokes records reference) (before.revoking reference now) := by
  constructor
  · intro target unknown
    rw [find_revoking]
    by_cases hit : reference = target
    · subst hit
      rw [Ledger.revokes, Function.update_self, Option.map_eq_none_iff] at unknown
      rw [if_pos rfl, matched.absent _ unknown, Option.map_none]
    · rw [Ledger.revokes, Function.update_of_ne (Ne.symm hit)] at unknown
      rw [if_neg hit, matched.absent _ unknown]
  · intro target record known
    by_cases hit : reference = target
    · subst hit
      rw [Ledger.revokes, Function.update_self, Option.map_eq_some_iff] at known
      obtain ⟨record, known, rfl⟩ := known
      obtain ⟨row, found, shows⟩ := matched.present _ _ known
      refine ⟨row.revokedAt now, by rw [find_revoking, if_pos rfl, found, Option.map_some], ?_⟩
      exact ⟨shows.ownerSubject, shows.disclosure, rfl, shows.version, shows.labels, shows.versions⟩
    · rw [Ledger.revokes, Function.update_of_ne (Ne.symm hit)] at known
      obtain ⟨row, found, shows⟩ := matched.present _ _ known
      refine ⟨row, by rw [find_revoking, if_neg hit, found], ?_⟩
      exact shows_same before _ _ _ _ rfl shows
  · intro address version there
    obtain ⟨target, row, found, same, low, high⟩ := matched.owned address version there
    by_cases hit : reference = target
    · exact ⟨target, row.revokedAt now, by rw [find_revoking, if_pos hit, found, Option.map_some], same, low, high⟩
    · exact ⟨target, row, by rw [find_revoking, if_neg hit, found], same, low, high⟩
  · intro first row second other found there same
    obtain ⟨old, here, ids, _⟩ := find_revoked_row _ _ _ _ _ found
    obtain ⟨older, again, otherIds, _⟩ := find_revoked_row _ _ _ _ _ there
    exact matched.distinct _ _ _ _ here again (ids.symm.trans (same.trans otherIds))
  · intro target row found
    obtain ⟨old, here, _⟩ := find_revoked_row _ _ _ _ _ found
    exact matched.valid target old here

theorem records_match_mutation (matched : RecordsMatch platform records before) (actor : String) (mutation : Mutation)
    (done : Unit) (ran : applyMutation platform store clock actor mutation before = (.ok done, after)) :
    RecordsMatch platform (Ledger.mutates records mutation) after ∧ after.prepared = before.prepared := by
  cases mutation with
  | put secret =>
      simp only [applyMutation, bind_ok, pure_run, Prod.mk.injEq] at ran
      obtain ⟨metadata, _, stored, _, rfl⟩ := ran
      have putDone := put_tx_ok platform store clock secret actor _ _ _ stored
      exact ⟨records_match_put platform records _ _ store clock matched secret actor metadata putDone, putDone.prepared⟩
  | delete reference =>
      rw [applyMutation, map_error_ok, delete_tx_ok] at ran
      obtain ⟨_, _, _, row, found, rfl⟩ := ran
      refine ⟨?_, rfl⟩
      exact records_match_same _ _ (before.dropSecret row) _ rfl rfl (records_match_drop platform records before matched reference row found)

theorem records_match_mutations (actor : String) (mutations : List Mutation) (start : SecretRef → Option Record)
    (first last : World) (matched : RecordsMatch platform start first) (done : Unit)
    (ran : forEach (applyMutation platform store clock actor) mutations first = (.ok done, last)) :
    RecordsMatch platform (mutations.foldl Ledger.mutates start) last ∧ last.prepared = first.prepared := by
  induction mutations generalizing start first with
  | nil =>
      cases ran
      exact ⟨matched, rfl⟩
  | cons mutation rest ih =>
      rw [for_each_cons, bind_ok] at ran
      obtain ⟨_, middle, here, later⟩ := ran
      obtain ⟨step, same⟩ := records_match_mutation platform start first middle store clock matched actor mutation _ here
      obtain ⟨all, kept⟩ := ih _ _ step later
      exact ⟨all, kept.trans same⟩

end Records
end Secrets
