import Secrets.WriteLog
import Secrets.Refinement
import Secrets.Wire

set_option autoImplicit false

namespace Secrets

open Effects Effects.Tx Tables
open Framing (Bytes)

-- Somebody with access to the table writes an envelope over a version row.
def tampered (world : World) (target : Write) (copied : Envelope) : World :=
  world.setVersion target.secretId target.version copied

def ReadBy (world : World) (target : Write) (row : SecretRow) : Prop :=
  world.secrets.find target.reference = some row ∧ row.state = .active ∧ row.id = target.secretId ∧
    row.currentVersion = target.version

def SameBinding (source target : Write) (row : SecretRow) : Prop :=
  source.reference = target.reference ∧ source.version = target.version ∧ source.disclosure = row.disclosure

section Copying
variable (platform : Platform) (state : Logged) (represents : Represents platform state.ledger state.world)
  (matched : LogMatch state.world state.log) (reader : PostgresStore) (source target : Write)
  (copied : Envelope) (same : SameContent source.envelope copied) (fromLog : source ∈ state.log.writes)
  (toLog : target ∈ state.log.writes)
include represents matched same fromLog toLog

omit represents same fromLog in
theorem target_clean : Clean target.reference.parts := by
  obtain ⟨tenant, space, key⟩ := valid_ref_no_nul _ (matched.bound target toLog).1
  simp [Clean, SecretRef.parts, hasNul, tenant, space, key]

omit represents in
theorem copied_opens (row : SecretRow) :
    (∃ value, reader.keyring.decryptValue target.reference target.version row.disclosure copied = .ok value) ↔
      SameBinding source target row ∧ reader.keyring.Holds copied := by
  obtain ⟨valid, content⟩ := matched.bound source fromLog
  constructor
  · rintro ⟨value, opened⟩
    obtain ⟨aads, _⟩ := content_unique _ _ _ _ _ ((same _ _).mp content) (open_content _ _ _ _ opened)
    exact ⟨associated_data_unique _ _ _ _ _ _ valid (matched.bound target toLog).1 aads, opens_holds _ _ _ _ opened⟩
  · rintro ⟨⟨references, versions, disclosures⟩, held⟩
    rw [references, versions, disclosures] at content
    exact ⟨source.value, holds_opens _ _ _ _ held ((same _ _).mp content)⟩

omit matched same fromLog toLog in
theorem tampered_read (row : SecretRow) (read : ReadBy state.world target row) :
    (tampered state.world target copied).readable target.reference =
      some (row, ⟨target.secretId, target.version, copied⟩) := by
  obtain ⟨found, active, id, version⟩ := read
  obtain ⟨record, known, shows⟩ := record_of_row platform state.ledger.records state.world represents.records _ _ found
  obtain ⟨stored, there, _⟩ := shows.versions _ _ record.history_latest
  have place : (row.id, (record.older.length : Int) + 1) = (target.secretId, target.version) := by
    rw [id, ← version, shows.version, Record.version]
  rw [place] at there
  have key := Table.find_key _ _ _ there
  have current : (tampered state.world target copied).currentVersion row =
      some ⟨target.secretId, target.version, copied⟩ := by
    rw [World.currentVersion, tampered, id, version, find_set_version, if_pos rfl, there, Option.map_some]
    simp only [VersionRow.holding, VersionRow.address, Prod.mk.injEq] at key ⊢
    rw [key.1, key.2]
  have kept : (tampered state.world target copied).secrets.find target.reference = some row := found
  simp only [World.readable, kept, current, if_pos active]

omit represents matched same fromLog toLog in
theorem tampered_unread (unread : ∀ row, ¬ReadBy state.world target row) :
    (tampered state.world target copied).readable target.reference = state.world.readable target.reference := by
  unfold World.readable
  rw [show (tampered state.world target copied).secrets = state.world.secrets from rfl]
  cases found : state.world.secrets.find target.reference with
  | none => rfl
  | some row =>
      dsimp only
      by_cases active : row.state = .active
      · have apart : (target.secretId, target.version) ≠ (row.id, row.currentVersion) := by
          rintro place
          rw [Prod.mk.injEq] at place
          exact unread row ⟨found, active, place.1.symm, place.2.symm⟩
        have current : (tampered state.world target copied).currentVersion row = state.world.currentVersion row := by
          rw [World.currentVersion, tampered, find_set_version, if_neg apart]
          rfl
        rw [current]
      · simp only [if_neg active]
        cases (tampered state.world target copied).currentVersion row <;> cases state.world.currentVersion row <;> rfl

theorem read_get (row : SecretRow) (read : ReadBy state.world target row) :
    ((get reader target.reference (tampered state.world target copied)).1 = .error .crypto ↔
      ¬(SameBinding source target row ∧ reader.keyring.Holds copied)) ∧
    (SameBinding source target row → reader.keyring.Holds copied →
      ∃ stored, (get reader target.reference (tampered state.world target copied)).1 = .ok stored ∧
        stored.value = source.value) := by
  have clean := target_clean state matched target toLog
  have opens := copied_opens state matched reader source target copied same fromLog toLog row
  rw [get_answer reader _ _ clean, tampered_read platform state represents target copied row read]
  simp only [read.2.2.2]
  cases opened : reader.keyring.decryptValue target.reference target.version row.disclosure copied with
  | ok value =>
      have both := opens.mp ⟨value, opened⟩
      refine ⟨by simp [both], fun _ _ => ⟨_, rfl, ?_⟩⟩
      have content := (matched.bound source fromLog).2
      exact (content_unique _ _ _ _ _ (open_content _ _ _ _ opened) ((same _ _).mp content)).2
  | error refused =>
      have neither : ¬(SameBinding source target row ∧ reader.keyring.Holds copied) := by
        intro both
        obtain ⟨value, again⟩ := opens.mpr both
        rw [opened] at again
        cases again
      exact ⟨by simp [neither], fun binding held => absurd ⟨binding, held⟩ neither⟩

omit same fromLog in
theorem unread_get (holds : HoldsCurrent reader.keyring state.world) (unread : ∀ row, ¬ReadBy state.world target row) :
    (get reader target.reference (tampered state.world target copied)).1 ≠ .error .crypto := by
  have clean := target_clean state matched target toLog
  rw [get_answer reader _ _ clean, tampered_unread state target copied unread, ← get_answer reader _ _ clean]
  cases known : state.ledger.records target.reference with
  | none =>
      rw [get_missing platform state.ledger state.world represents reader _ clean (by simp [known])]
      simp
  | some record =>
      cases active : record.state with
      | active =>
          obtain ⟨stored, answered, _⟩ :=
            get_active platform state.ledger state.world represents reader _ record clean holds known active
          simp [answered]
      | revoked =>
          rw [get_missing platform state.ledger state.world represents reader _ clean (by simp [known, active])]
          simp

end Copying

/-- An envelope written over another version is refused exactly when what it was sealed for
differs from what the row says. -/
theorem copied_write_fails (platform : Platform) (invocations : List Invocation) (reader : PostgresStore)
    (source target : Write) (copied : Envelope)
    (holds : HoldsCurrent reader.keyring (runLogged platform invocations).world)
    (fromLog : source ∈ (runLogged platform invocations).log.writes)
    (toLog : target ∈ (runLogged platform invocations).log.writes) (same : SameContent source.envelope copied) :
    let state := runLogged platform invocations
    ((get reader target.reference (tampered state.world target copied)).1 = .error .crypto ↔
      ∃ row, ReadBy state.world target row ∧ ¬(SameBinding source target row ∧ reader.keyring.Holds copied)) ∧
    (∀ row, ReadBy state.world target row → SameBinding source target row → reader.keyring.Holds copied →
      ∃ stored, (get reader target.reference (tampered state.world target copied)).1 = .ok stored ∧
        stored.value = source.value) ∧
    (∀ row, state.log.current target.reference = some target → state.world.secrets.find target.reference = some row →
      row.id = target.secretId ∧ row.currentVersion = target.version ∧ row.disclosure = target.disclosure) := by
  intro state
  obtain ⟨represents, matched⟩ := run_logged platform invocations
  have read := read_get platform state represents matched reader source target copied same fromLog toLog
  refine ⟨?_, fun row readable => (read row readable).2, ?_⟩
  · by_cases readable : ∃ row, ReadBy state.world target row
    · obtain ⟨row, here⟩ := readable
      rw [(read row here).1]
      constructor
      · exact fun fails => ⟨row, here, fails⟩
      · rintro ⟨other, there, fails⟩
        cases here.1.symm.trans there.1
        exact fails
    · have unread : ∀ row, ¬ReadBy state.world target row := fun row here => readable ⟨row, here⟩
      have passes := unread_get platform state represents matched reader target copied toLog holds unread
      constructor
      · exact fun fails => absurd fails passes
      · rintro ⟨row, here, _⟩
        exact absurd here (unread row)
  · intro row current found
    obtain ⟨_, stored, there, id, version, disclosure⟩ := matched.shown _ _ current
    cases found.symm.trans there
    exact ⟨id, version, disclosure⟩

namespace Sample

def recreated : List Invocation :=
  [⟨oldStore, clockAt 1, .call (.put (secret .workloadOnly 1))⟩, ⟨oldStore, clockAt 2, .call (.delete reference "user:one")⟩,
    ⟨oldStore, clockAt 3, .call (.put (secret .workloadOnly 2))⟩]

def overwritten : List Invocation :=
  [⟨oldStore, clockAt 1, .call (.put (secret .workloadOnly 1))⟩, ⟨oldStore, clockAt 2, .call (.put (secret .workloadOnly 2))⟩]

def written (id : Uuid) (version : Int) (drawn : Draw) (byte : UInt8) : Write :=
  { reference := reference
    disclosure := .workloadOnly
    value := [byte]
    secretId := id
    version := version
    envelope := oldKeyring.envelopeOf drawn (associatedData reference version .workloadOnly) [byte] }

def firstWrite : Write := written (countingDraw 0).uuid 1 (countingDraw 0) 1
def recreatedWrite : Write := written (countingDraw 1).uuid 1 (countingDraw 1) 2
def secondWrite : Write := written (countingDraw 0).uuid 2 (countingDraw 1) 2

end Sample

theorem recreated_reads_old_value : ¬ ∀ (platform : Platform) (invocations : List Invocation) (reader : PostgresStore)
    (source target : Write), HoldsCurrent reader.keyring (runLogged platform invocations).world →
    source ∈ (runLogged platform invocations).log.writes → target ∈ (runLogged platform invocations).log.writes →
    source ≠ target → (∃ row, ReadBy (runLogged platform invocations).world target row) →
    (get reader target.reference (tampered (runLogged platform invocations).world target source.envelope)).1 =
      .error .crypto := by
  intro claim
  have writes : (runLogged countingPlatform Sample.recreated).log.writes = [Sample.firstWrite, Sample.recreatedWrite] := rfl
  have fails := claim countingPlatform Sample.recreated Sample.oldStore Sample.firstWrite Sample.recreatedWrite
    (holds_current_rows _ _ (by decide)) (by simp [writes]) (by simp [writes]) (by decide) ⟨_, rfl, rfl, rfl, rfl⟩
  have opened : (get Sample.oldStore Sample.recreatedWrite.reference (tampered
      (runLogged countingPlatform Sample.recreated).world Sample.recreatedWrite Sample.firstWrite.envelope)).1.map
        StoredSecret.value = .ok [1] := rfl
  rw [fails] at opened
  cases opened

theorem overwritten_rejects_old_value :
    (get Sample.oldStore Sample.secondWrite.reference (tampered (runLogged countingPlatform Sample.overwritten).world
      Sample.secondWrite Sample.firstWrite.envelope)).1 = .error .crypto := by
  have writes : (runLogged countingPlatform Sample.overwritten).log.writes = [Sample.firstWrite, Sample.secondWrite] := rfl
  have exactly := copied_write_fails countingPlatform Sample.overwritten Sample.oldStore Sample.firstWrite Sample.secondWrite
    Sample.firstWrite.envelope (holds_current_rows _ _ (by decide)) (by simp [writes]) (by simp [writes]) fun _ _ => Iff.rfl
  refine exactly.1.mpr ⟨_, ⟨rfl, rfl, rfl, rfl⟩, ?_⟩
  rintro ⟨⟨_, versions, _⟩, _⟩
  exact absurd versions (by decide)

end Secrets
