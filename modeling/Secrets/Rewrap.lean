import Secrets.Ledger

set_option autoImplicit false

namespace Secrets

open Effects Effects.Tx Tables
open Framing (Bytes)

theorem same_content_refl (envelope : Envelope) : SameContent envelope envelope := fun _ _ => Iff.rfl

theorem same_content_trans (first middle last : Envelope) (start : SameContent first middle)
    (finish : SameContent middle last) : SameContent first last :=
  fun aad plaintext => (start aad plaintext).trans (finish aad plaintext)

theorem reseal_content (reader : Keyring) (drawn : Draw) (aad plaintext : Bytes) (envelope : Envelope)
    (opened : reader.openEnvelope aad envelope = .ok plaintext) (sealer : Keyring) :
    SameContent envelope (sealer.envelopeOf drawn aad plaintext) :=
  same_content _ _ aad plaintext (open_content _ _ _ _ opened) ⟨_, envelope_of_sealed _ _ _ _⟩

def FreshlySealed (keyring : Keyring) (envelope : Envelope) : Prop :=
  envelope.keyId = keyring.active ∧ envelope.wrappedKey.madeUnder keyring.activeKey

theorem envelope_of_fresh (keyring : Keyring) (drawn : Draw) (aad plaintext : Bytes) :
    FreshlySealed keyring (keyring.envelopeOf drawn aad plaintext) := ⟨rfl, rfl⟩

def SameVersion (first second : VersionRow) : Prop := SameContent first.envelope second.envelope

theorem same_version_refl (version : VersionRow) : SameVersion version version := same_content_refl _

theorem same_version_trans (first middle last : VersionRow) (start : SameVersion first middle)
    (finish : SameVersion middle last) : SameVersion first last := same_content_trans _ _ _ start finish

-- What rewrapping may do to a world: reseal versions in place.
structure Rewrapped (before after : World) : Prop where
  secrets : after.secrets = before.secrets
  prepared : after.prepared = before.prepared
  versions : Table.Aligned SameVersion before.versions after.versions

theorem rewrapped_refl (world : World) : Rewrapped world world :=
  ⟨rfl, rfl, Table.aligned_refl SameVersion same_version_refl _⟩

theorem rewrapped_trans (first middle last : World) (start : Rewrapped first middle) (finish : Rewrapped middle last) :
    Rewrapped first last :=
  ⟨finish.secrets.trans start.secrets, finish.prepared.trans start.prepared,
    Table.aligned_trans SameVersion same_version_trans _ _ _ start.versions finish.versions⟩

def rewrapping : Frame World := ⟨Rewrapped, rewrapped_refl, rewrapped_trans⟩

theorem records_match_rewrapped (platform : Platform) (records : SecretRef → Option Record) (before after : World)
    (rewrapped : Rewrapped before after) (matched : RecordsMatch platform records before) :
    RecordsMatch platform records after := by
  constructor
  · rw [rewrapped.secrets]
    exact matched.absent
  · intro reference record known
    obtain ⟨row, found, shows⟩ := matched.present reference record known
    refine ⟨row, by rw [rewrapped.secrets, found], { shows with versions := ?_ }⟩
    intro index written there
    obtain ⟨version, held, sealedAs⟩ := shows.versions index written there
    obtain ⟨newer, renewed, same⟩ := Table.aligned_some _ _ _ rewrapped.versions _ _ held
    exact ⟨newer, renewed, (same _ _).mp sealedAs⟩
  · intro address version there
    obtain ⟨old, held, _⟩ := Table.aligned_back _ _ _ rewrapped.versions _ _ there
    rw [rewrapped.secrets]
    exact matched.owned address old held
  · rw [rewrapped.secrets]
    exact matched.distinct
  · rw [rewrapped.secrets]
    exact matched.valid

theorem mem_stale (world : World) (active : String) (entry : SecretRow × VersionRow) :
    entry ∈ world.stale active ↔ entry.1 ∈ world.secrets.rows ∧ entry.2 ∈ world.versions.rows ∧
      entry.2.secretId = entry.1.id ∧ entry.2.envelope.keyId ≠ active := by
  obtain ⟨secret, version⟩ := entry
  simp only [World.stale, List.mem_flatMap, List.mem_map, List.mem_filter, Bool.and_eq_true, decide_eq_true_eq,
    Prod.mk.injEq]
  constructor
  · rintro ⟨row, member, other, ⟨there, owner, foreign⟩, rfl, rfl⟩
    exact ⟨member, there, owner, foreign⟩
  · rintro ⟨member, there, owner, foreign⟩
    exact ⟨secret, member, version, ⟨there, owner, foreign⟩, rfl, rfl⟩

def entryAddress (entry : SecretRow × VersionRow) : Uuid × Int := (entry.1.id, entry.2.version)

def Snapshot (entry : SecretRow × VersionRow) (world : World) : Prop :=
  ∃ version, world.versions.find (entryAddress entry) = some version ∧ SameVersion entry.2 version

theorem stale_stored (world : World) (active : String) (entry : SecretRow × VersionRow)
    (member : entry ∈ world.stale active) : world.versions.find (entryAddress entry) = some entry.2 := by
  obtain ⟨_, there, owner, _⟩ := (mem_stale world active entry).mp member
  rw [Table.find_some, entryAddress, ← owner]
  exact ⟨there, rfl⟩

section Rows
variable (platform : Platform) (store : PostgresStore) (actor : String)

theorem rewrap_row_find (entry : SecretRow × VersionRow) (done : Unit) (before after : World)
    (ran : rewrapRow platform store actor entry before = (.ok done, after)) (address : Uuid × Int) (version : VersionRow)
    (found : after.versions.find address = some version) :
    FreshlySealed store.keyring version.envelope ∨
      before.versions.find address = some version ∧ entryAddress entry ≠ address := by
  obtain ⟨value, _, _, _, _, rfl⟩ := (rewrap_row_ok platform store actor entry done before after).mp ran
  rw [auditing, find_set_version] at found
  by_cases hit : (entry.1.id, entry.2.version) = address
  · rw [if_pos hit] at found
    obtain ⟨old, _, rfl⟩ := Option.map_eq_some_iff.mp found
    exact .inl (envelope_of_fresh _ _ _ _)
  · rw [if_neg hit] at found
    exact .inr ⟨found, hit⟩

theorem rewrap_row_keeps (entry : SecretRow × VersionRow) (done : Unit) (before after : World)
    (snapshot : Snapshot entry before)
    (ran : rewrapRow platform store actor entry before = (.ok done, after)) : Rewrapped before after := by
  obtain ⟨value, opened, _, _, _, rfl⟩ := (rewrap_row_ok platform store actor entry done before after).mp ran
  refine ⟨rfl, rfl, Table.aligned_amend SameVersion same_version_refl before.versions _ (VersionRow.holding _)
    (fun _ => rfl) ?_⟩
  intro row found
  obtain ⟨version, there, same⟩ := snapshot
  cases found.symm.trans there
  intro aad plaintext
  rw [← same aad plaintext]
  exact reseal_content store.keyring _ _ _ _ opened store.keyring aad plaintext

theorem snapshot_rewrapped (entry : SecretRow × VersionRow) (before after : World) (snapshot : Snapshot entry before)
    (rewrapped : Rewrapped before after) : Snapshot entry after := by
  obtain ⟨version, there, same⟩ := snapshot
  obtain ⟨newer, renewed, kept⟩ := Table.aligned_some _ _ _ rewrapped.versions _ _ there
  exact ⟨newer, renewed, same_version_trans _ _ _ same kept⟩

theorem stale_snapshots (world : World) (active : String) :
    ∀ entry ∈ world.stale active, Snapshot entry world :=
  fun entry member => ⟨entry.2, stale_stored world active entry member, same_version_refl _⟩

theorem rewrap_rows_keep (entries : List (SecretRow × VersionRow)) (done : Unit) (first last : World)
    (snapshots : ∀ entry ∈ entries, Snapshot entry first)
    (ran : forEach (rewrapRow platform store actor) entries first = (.ok done, last)) : Rewrapped first last :=
  for_each_frame rewrapping _ entries Snapshot first last done
    (fun entry before after finished ready turn => rewrap_row_keeps platform store actor entry finished before after ready turn)
    snapshot_rewrapped snapshots ran

theorem rewrap_rows_find (entries : List (SecretRow × VersionRow)) (done : Unit) (first last : World)
    (ran : forEach (rewrapRow platform store actor) entries first = (.ok done, last)) (address : Uuid × Int)
    (version : VersionRow) (found : last.versions.find address = some version) :
    FreshlySealed store.keyring version.envelope ∨
      first.versions.find address = some version ∧ ∀ entry ∈ entries, entryAddress entry ≠ address :=
  for_each_back _ entries (fun world => world.versions.find address = some version) _ _ first last done
    (fun entry before after finished turn there =>
      rewrap_row_find platform store actor entry finished before after turn address version there) ran found

theorem rewrap_versions_ok (count : Nat) (before after : World)
    (ran : rewrapVersions platform store actor before = (.ok count, after)) :
    Clean [store.keyring.active] ∧ count = (before.stale store.keyring.active).length ∧
      forEach (rewrapRow platform store actor) (before.stale store.keyring.active) before = (.ok (), after) := by
  rw [rewrapVersions, atomic_ok] at ran
  simp only [selectStale, bind_ok, bind_text_ok, read_run, pure_run, Prod.mk.injEq, Except.ok.injEq] at ran
  obtain ⟨rows, _, ⟨_, _, ⟨clean, rfl⟩, rfl, rfl⟩, _, _, looped, rfl, rfl⟩ := ran
  exact ⟨clean, rfl, looped⟩

theorem rewrap_versions_keep (before : World) : Rewrapped before (rewrapVersions platform store actor before).2 := by
  cases ran : rewrapVersions platform store actor before with
  | mk outcome after =>
      cases outcome with
      | ok count =>
          obtain ⟨_, _, looped⟩ := rewrap_versions_ok platform store actor count before after ran
          exact rewrap_rows_keep platform store actor _ _ before after (stale_snapshots before _) looped
      | error error =>
          rw [atomic_rollback _ _ _ _ ran]
          exact ⟨rfl, rfl, (rewrapped_refl before).versions⟩

end Rows
end Secrets
