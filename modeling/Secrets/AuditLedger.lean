import Secrets.Changes
import Secrets.TenantCalls

set_option autoImplicit false

namespace Secrets

open Effects Effects.Tx Tables

def World.audited (world : World) (action : AuditAction) (id : Uuid) : Nat :=
  world.auditEvents.countP fun row => decide (row.action = action ∧ row.secretId = some id)

def World.versionsOf (world : World) (id : Uuid) : List Int :=
  (world.versions.rows.filter fun version => decide (version.secretId = id)).map VersionRow.version

def World.Live (world : World) (id : Uuid) : Prop := ∃ reference row, world.secrets.find reference = some row ∧ row.id = id

-- The log against the records: as many puts as versions, and a delete only for
-- an id that is gone. An id that the log speaks of was drawn.
structure Counted (platform : Platform) (world : World) : Prop where
  distinct : ∀ first row second other, world.secrets.find first = some row → world.secrets.find second = some other →
    row.id = other.id → first = second
  puts : ∀ reference row, world.secrets.find reference = some row → (world.audited .put row.id : Int) = row.currentVersion
  positive : ∀ reference row, world.secrets.find reference = some row → 0 < row.currentVersion
  kept : ∀ reference row, world.secrets.find reference = some row → world.audited .delete row.id = 0
  gone : ∀ id, 0 < world.audited .put id → ¬ world.Live id → world.audited .delete id = 1
  drawnPuts : ∀ id, 0 < world.audited .put id → ∃ count < world.drawn, id = (platform.random count).uuid
  drawnDeletes : ∀ id, 0 < world.audited .delete id → ∃ count < world.drawn, id = (platform.random count).uuid

theorem counted_empty (platform : Platform) : Counted platform World.empty := by
  refine ⟨?_, ?_, ?_, ?_, ?_, ?_, ?_⟩
  · intro first row second other found
    cases found
  · intro reference row found
    cases found
  · intro reference row found
    cases found
  · intro reference row found
    cases found
  · intro id positive
    cases positive
  · intro id positive
    cases positive
  · intro id positive
    cases positive

theorem audited_append (world after : World) (row : AuditRow) (log : after.auditEvents = world.auditEvents ++ [row])
    (action : AuditAction) (id : Uuid) :
    after.audited action id = world.audited action id + if row.action = action ∧ row.secretId = some id then 1 else 0 := by
  rw [World.audited, log, List.countP_append, List.countP_singleton, World.audited]
  simp only [decide_eq_true_eq]

theorem audited_same (world after : World) (log : after.auditEvents = world.auditEvents) (action : AuditAction) (id : Uuid) :
    after.audited action id = world.audited action id := by
  rw [World.audited, log, World.audited]

section Counting
variable (platform : Platform) (store : PostgresStore) (clock : Clock) (before after : World) (counted : Counted platform before)
include counted

theorem counted_aside (action : AuditAction) (neither : action ≠ .put ∧ action ≠ .delete)
    (log : ∀ other id, other ≠ action → after.audited other id = before.audited other id)
    (secrets : ∀ reference row, after.secrets.find reference = some row →
      ∃ old, before.secrets.find reference = some old ∧ old.id = row.id ∧ old.currentVersion = row.currentVersion)
    (back : ∀ reference row, before.secrets.find reference = some row →
      ∃ changed, after.secrets.find reference = some changed ∧ changed.id = row.id)
    (grows : before.drawn ≤ after.drawn) : Counted platform after := by
  have puts (id : Uuid) : after.audited .put id = before.audited .put id := log .put id neither.1.symm
  have deletes (id : Uuid) : after.audited .delete id = before.audited .delete id := log .delete id neither.2.symm
  refine ⟨?_, ?_, ?_, ?_, ?_, ?_, ?_⟩
  · intro first row second other found there same
    obtain ⟨old, oldFound, oldId, _⟩ := secrets first row found
    obtain ⟨past, pastFound, pastId, _⟩ := secrets second other there
    exact counted.distinct first old second past oldFound pastFound (oldId.trans (same.trans pastId.symm))
  · intro reference row found
    obtain ⟨old, oldFound, oldId, version⟩ := secrets reference row found
    rw [puts, ← oldId, counted.puts reference old oldFound, version]
  · intro reference row found
    obtain ⟨old, oldFound, _, version⟩ := secrets reference row found
    rw [← version]
    exact counted.positive reference old oldFound
  · intro reference row found
    obtain ⟨old, oldFound, oldId, _⟩ := secrets reference row found
    rw [deletes, ← oldId, counted.kept reference old oldFound]
  · intro id positive dead
    rw [puts] at positive
    rw [deletes]
    refine counted.gone id positive ?_
    rintro ⟨reference, row, found, rfl⟩
    obtain ⟨changed, there, same⟩ := back reference row found
    exact dead ⟨reference, changed, there, same⟩
  · intro id positive
    rw [puts] at positive
    obtain ⟨count, early, drawn⟩ := counted.drawnPuts id positive
    exact ⟨count, Nat.lt_of_lt_of_le early grows, drawn⟩
  · intro id positive
    rw [deletes] at positive
    obtain ⟨count, early, drawn⟩ := counted.drawnDeletes id positive
    exact ⟨count, Nat.lt_of_lt_of_le early grows, drawn⟩

theorem counted_delete (reference : SecretRef) (actor : String) (row : SecretRow)
    (found : before.secrets.find reference = some row) :
    Counted platform (auditing (before.dropSecret row) reference.tenant (some row.id) actor .delete) := by
  have named := Table.find_key _ _ _ found
  subst named
  have puts (id : Uuid) : (auditing (before.dropSecret row) row.reference.tenant (some row.id) actor .delete).audited .put id =
      before.audited .put id := by
    rw [audited_append _ _ _ rfl, if_neg (by simp), Nat.add_zero]
    rfl
  have deletes (id : Uuid) : (auditing (before.dropSecret row) row.reference.tenant (some row.id) actor .delete).audited .delete id =
      before.audited .delete id + if row.id = id then 1 else 0 := by
    rw [audited_append _ _ _ rfl]
    simp only [true_and, Option.some.injEq]
    rfl
  have remains (other : SecretRef) (left : SecretRow)
      (there : (auditing (before.dropSecret row) row.reference.tenant (some row.id) actor .delete).secrets.find other = some left) :
      before.secrets.find other = some left ∧ row.reference ≠ other := by
    rw [auditing, find_drop_secret] at there
    split at there
    · cases there
    · exact ⟨there, ‹_›⟩
  refine ⟨?_, ?_, ?_, ?_, ?_, ?_, ?_⟩
  · intro first one second other there elsewhere same
    exact counted.distinct first one second other (remains _ _ there).1 (remains _ _ elsewhere).1 same
  · intro other left there
    rw [puts, counted.puts other left (remains _ _ there).1]
  · intro other left there
    exact counted.positive other left (remains _ _ there).1
  · intro other left there
    obtain ⟨was, apart⟩ := remains _ _ there
    rw [deletes, if_neg fun same => apart (counted.distinct _ _ _ _ found was same), counted.kept other left was]
  · intro id positive dead
    rw [puts] at positive
    rw [deletes]
    by_cases hit : row.id = id
    · rw [if_pos hit, ← hit, counted.kept row.reference row found]
    · rw [if_neg hit]
      refine counted.gone id positive ?_
      rintro ⟨other, left, was, same⟩
      refine dead ⟨other, left, ?_, same⟩
      rw [auditing, find_drop_secret, if_neg]
      · exact was
      · rintro rfl
        cases found.symm.trans was
        exact hit same
  · intro id positive
    rw [puts] at positive
    exact counted.drawnPuts id positive
  · intro id positive
    rw [deletes] at positive
    by_cases hit : row.id = id
    · refine counted.drawnPuts id ?_
      have counts := counted.puts row.reference row found
      have one := counted.positive row.reference row found
      rw [hit] at counts
      omega
    · rw [if_neg hit] at positive
      exact counted.drawnDeletes id positive

-- Where a put goes, as the log has it.
structure PutCounts (input : PutSecret) : Prop where
  version : (before.audited .put (putPlace platform input before).1 : Int) + 1 = (putPlace platform input before).2
  kept : before.audited .delete (putPlace platform input before).1 = 0
  alone : ∀ reference row, before.secrets.find reference = some row → input.reference ≠ reference →
    row.id ≠ (putPlace platform input before).1
  drawn : ∃ count < before.drawn + 1, (putPlace platform input before).1 = (platform.random count).uuid
  id : (putRow platform clock input before).id = (putPlace platform input before).1

theorem put_counts (limit : Nat) (distinct : Distinct platform limit) (room : before.drawn < limit) (input : PutSecret)
    (actor : String) (metadata : SecretMetadata) (done : PutDone platform store clock input actor before after metadata) :
    PutCounts platform clock before input := by
  have positive := done.positive
  have fresh := done.freshId
  have unseen (action : AuditAction)
      (drawn : ∀ id, 0 < before.audited action id → ∃ count < before.drawn, id = (platform.random count).uuid) :
      before.audited action (platform.random before.drawn).uuid = 0 := by
    by_contra seen
    obtain ⟨count, early, same⟩ := drawn _ (Nat.pos_of_ne_zero seen)
    have again := distinct before.drawn count room (Nat.lt_trans early room) same
    omega
  cases found : before.secrets.find input.reference with
  | none =>
      have place : putPlace platform input before = ((platform.random before.drawn).uuid, 1) := by
        simp only [putPlace, nextVersion, found]
      rw [place] at fresh
      refine ⟨?_, ?_, ?_, ?_, ?_⟩
      · rw [place, unseen .put counted.drawnPuts]
        rfl
      · rw [place, unseen .delete counted.drawnDeletes]
      · intro reference row there _
        rw [place]
        exact fresh found row (Table.find_mem _ _ _ there)
      · exact ⟨before.drawn, Nat.lt_succ_self _, by rw [place]⟩
      · rw [putRow, found]
        rfl
  | some row =>
      have place : putPlace platform input before = (row.id, i64Succ row.currentVersion) := by
        simp only [putPlace, nextVersion, found]
      rw [place] at positive
      have one := counted.positive input.reference row found
      have counts := counted.puts input.reference row found
      refine ⟨?_, ?_, ?_, ?_, ?_⟩
      · rw [place, i64_succ_positive _ positive, counts]
      · rw [place]
        exact counted.kept input.reference row found
      · intro reference other there apart same
        rw [place] at same
        exact apart (counted.distinct _ _ _ _ there found same).symm
      · obtain ⟨count, early, drawn⟩ := counted.drawnPuts row.id (by omega)
        exact ⟨count, Nat.lt_succ_of_lt early, by rw [place]; exact drawn⟩
      · rw [putRow, found, place]
        rfl

theorem counted_put (limit : Nat) (distinct : Distinct platform limit) (room : after.drawn ≤ limit) (input : PutSecret)
    (actor : String) (metadata : SecretMetadata) (done : PutDone platform store clock input actor before after metadata) :
    Counted platform after := by
  have drawn := done.drawn
  have place := put_counts platform store clock before after counted limit distinct (by omega) input actor metadata done
  have version := (put_row_fields platform before clock input).2.2.2.1
  have puts (id : Uuid) : after.audited .put id =
      before.audited .put id + if (putPlace platform input before).1 = id then 1 else 0 := by
    rw [audited_append before after _ done.auditEvents]
    simp only [true_and, Option.some.injEq]
  have deletes (id : Uuid) : after.audited .delete id = before.audited .delete id := by
    rw [audited_append before after _ done.auditEvents, if_neg (by simp), Nat.add_zero]
  refine ⟨?_, ?_, ?_, ?_, ?_, ?_, ?_⟩
  · intro first row second other found there same
    rw [done.secrets] at found there
    split at found
    · rename_i here
      cases found
      split at there
      · rename_i again
        exact here.symm.trans again
      · rename_i apart
        exact absurd (same.symm.trans place.id) (place.alone second other there apart)
    · rename_i apart
      split at there
      · cases there
        exact absurd (same.trans place.id) (place.alone first row found apart)
      · exact counted.distinct first row second other found there same
  · intro reference row found
    rw [done.secrets] at found
    split at found
    · cases found
      rw [puts, place.id, if_pos rfl, version, ← place.version]
      rfl
    · rename_i apart
      rw [puts, if_neg (place.alone reference row found apart).symm, Nat.add_zero, counted.puts reference row found]
  · intro reference row found
    rw [done.secrets] at found
    split at found
    · cases found
      rw [version]
      exact done.positive
    · exact counted.positive reference row found
  · intro reference row found
    rw [done.secrets] at found
    rw [deletes]
    split at found
    · cases found
      rw [place.id]
      exact place.kept
    · exact counted.kept reference row found
  · intro id positive dead
    have apart : (putPlace platform input before).1 ≠ id := by
      rintro rfl
      exact dead ⟨input.reference, _, by rw [done.secrets, if_pos rfl], place.id⟩
    rw [puts, if_neg apart, Nat.add_zero] at positive
    rw [deletes]
    refine counted.gone id positive ?_
    rintro ⟨reference, row, found, same⟩
    by_cases hit : input.reference = reference
    · subst hit
      refine apart ?_
      rw [← same, ← place.id, putRow, found]
      rfl
    · exact dead ⟨reference, row, by rw [done.secrets, if_neg hit]; exact found, same⟩
  · intro id positive
    rw [drawn]
    by_cases hit : (putPlace platform input before).1 = id
    · rw [← hit]
      exact place.drawn
    · rw [puts, if_neg hit, Nat.add_zero] at positive
      obtain ⟨count, early, same⟩ := counted.drawnPuts id positive
      exact ⟨count, Nat.lt_succ_of_lt early, same⟩
  · intro id positive
    rw [deletes] at positive
    rw [drawn]
    obtain ⟨count, early, same⟩ := counted.drawnDeletes id positive
    exact ⟨count, Nat.lt_succ_of_lt early, same⟩

theorem counted_change (limit : Nat) (distinct : Distinct platform limit) (room : after.drawn ≤ limit)
    (change : Change platform store clock before after) : Counted platform after := by
  cases change with
  | put input actor _ metadata done =>
      exact counted_put platform store clock before after counted limit distinct room input actor metadata done
  | delete reference actor row found => exact counted_delete platform before counted reference actor row found
  | revoke reference actor row found =>
      refine counted_aside platform before _ counted .revoke ⟨by decide, by decide⟩ ?_ ?_ ?_ (Nat.le_refl _)
      · intro other id apart
        rw [audited_append _ _ _ rfl, if_neg fun same => apart same.1.symm, Nat.add_zero]
        rfl
      · intro target kept there
        obtain ⟨old, was, same, version⟩ := find_revoked_row before reference target clock.transaction kept there
        exact ⟨old, was, same.symm, version.symm⟩
      · intro target old was
        rw [auditing, find_revoking]
        split
        · exact ⟨old.revokedAt clock.transaction, by rw [was]; rfl, rfl⟩
        · exact ⟨old, was, rfl⟩
  | rewrap entry actor envelope =>
      refine counted_aside platform before _ counted .rewrap ⟨by decide, by decide⟩ ?_ ?_ ?_ (Nat.le_succ _)
      · intro other id apart
        rw [audited_append _ _ _ rfl, if_neg fun same => apart same.1.symm, Nat.add_zero]
        rfl
      · exact fun reference row found => ⟨row, found, rfl, rfl⟩
      · exact fun reference row found => ⟨row, found, rfl⟩
  | aside _ secrets versions auditEvents grows =>
      refine counted_aside platform before after counted .commitBatch ⟨by decide, by decide⟩ ?_ ?_ ?_ grows
      · exact fun other id _ => audited_same before after auditEvents other id
      · exact fun reference row found => ⟨row, by rwa [secrets] at found, rfl, rfl⟩
      · exact fun reference row found => ⟨row, by rwa [secrets], rfl⟩

theorem counted_commit (tenant actor : String) : Counted platform (auditing before tenant none actor .commitBatch) := by
  refine counted_aside platform before _ counted .commitBatch ⟨by decide, by decide⟩ ?_ ?_ ?_ (Nat.le_refl _)
  · intro other id apart
    rw [audited_append _ _ _ rfl, if_neg fun same => apart same.1.symm, Nat.add_zero]
  · exact fun reference row found => ⟨row, found, rfl, rfl⟩
  · exact fun reference row found => ⟨row, found, rfl⟩

theorem counted_changes (limit : Nat) (distinct : Distinct platform limit) (room : after.drawn ≤ limit)
    (changes : (changing platform store clock).rel before after) : Counted platform after := by
  induction changes with
  | refl => exact counted
  | @tail middle last _ change ih =>
      have between := (change_grows platform store clock middle last change).trans room
      exact counted_change platform store clock middle last (ih between) limit distinct room change

end Counting

section Runs
variable (platform : Platform)

theorem step_grows (invocation : Invocation) (state : World × Ledger) :
    state.1.drawn ≤ (invocation.step platform state).1.drawn :=
  drawn_grows platform invocation.store invocation.clock state.1 _ invocation.operation _ rfl

theorem steps_grow (invocations : List Invocation) (state : World × Ledger) :
    state.1.drawn ≤ (invocations.foldl (Invocation.step platform) state).1.drawn := by
  induction invocations generalizing state with
  | nil => exact Nat.le_refl _
  | cons invocation rest ih => exact (step_grows platform invocation state).trans (ih _)

theorem steps_counted (limit : Nat) (distinct : Distinct platform limit) (invocations : List Invocation) (state : World × Ledger)
    (counted : Counted platform state.1) (room : (invocations.foldl (Invocation.step platform) state).1.drawn ≤ limit) :
    Counted platform (invocations.foldl (Invocation.step platform) state).1 := by
  induction invocations generalizing state with
  | nil => exact counted
  | cons invocation rest ih =>
      have between := (steps_grow platform rest (invocation.step platform state)).trans room
      refine ih _ ?_ room
      have counts (applied : World) (small : applied.drawn ≤ limit)
          (changes : (changing platform invocation.store invocation.clock).rel state.1 applied) : Counted platform applied :=
        counted_changes platform invocation.store invocation.clock state.1 applied counted limit distinct small changes
      cases operation_performed platform invocation.store invocation.clock state.1 _ invocation.operation _ rfl with
      | done value answered plain changes => exact counts _ between changes
      | failed error refused secrets versions auditEvents grows =>
          exact counts _ between (.single (.aside _ secrets versions auditEvents grows))
      | stranded error refused actor count middle rotation rewrapped changes auditEvents => exact counts _ between changes
      | committed value answered tenant actor applied named changes logged =>
          have last : (invocation.step platform state).1 = auditing applied tenant none actor .commitBatch := logged
          rw [last] at between ⊢
          exact counted_commit platform applied (counts applied between changes) tenant actor

end Runs

section Versions
variable (platform : Platform) (records : SecretRef → Option Record) (world : World)
  (matched : RecordsMatch platform records world)

theorem versions_distinct (id : Uuid) : (world.versionsOf id).Nodup := by
  rw [World.versionsOf, List.nodup_map_iff_inj_on]
  · intro first member second there same
    rw [List.mem_filter, decide_eq_true_eq] at member there
    exact List.inj_on_of_nodup_map world.versions.unique member.1 there.1
      (Prod.ext (member.2.trans there.2.symm) same)
  · exact List.filter_sublist.nodup (List.Nodup.of_map _ world.versions.unique)

theorem mem_versions_of (id : Uuid) (number : Int) :
    number ∈ world.versionsOf id ↔ ∃ version, world.versions.find (id, number) = some version := by
  rw [World.versionsOf, List.mem_map]
  constructor
  · rintro ⟨version, member, rfl⟩
    rw [List.mem_filter, decide_eq_true_eq] at member
    obtain ⟨there, rfl⟩ := member
    exact ⟨version, Table.find_of_mem _ _ there⟩
  · rintro ⟨version, found⟩
    have address := Table.find_key _ _ _ found
    rw [VersionRow.address, Prod.mk.injEq] at address
    exact ⟨version, by simp [Table.find_mem _ _ _ found, address.1], address.2⟩

include matched

theorem versions_consecutive (reference : SecretRef) (row : SecretRow) (found : world.secrets.find reference = some row) :
    (world.versionsOf row.id).Perm ((List.range row.currentVersion.toNat).map fun index : Nat => (index : Int) + 1) := by
  obtain ⟨record, known, shows⟩ := record_of_row platform records world matched reference row found
  rw [List.perm_ext_iff_of_nodup (versions_distinct world row.id)
    (List.Nodup.map (fun first second same => by simpa using same) List.nodup_range)]
  intro number
  rw [mem_versions_of, List.mem_map]
  constructor
  · rintro ⟨version, there⟩
    obtain ⟨other, owner, stored, same, low, high⟩ := matched.owned _ _ there
    cases matched.distinct _ _ _ _ stored found same
    cases stored.symm.trans found
    exact ⟨(number - 1).toNat, List.mem_range.mpr (by omega), by omega⟩
  · rintro ⟨index, early, rfl⟩
    have bound : index < record.history.length := by
      rw [List.mem_range, shows.version, Record.version] at early
      rw [Record.history, List.length_append, List.length_singleton]
      omega
    obtain ⟨version, there, _⟩ := shows.versions index _ (List.getElem?_eq_getElem bound)
    exact ⟨version, there⟩

theorem versions_gone (id : Uuid) (dead : ¬ world.Live id) : world.versionsOf id = [] := by
  rw [List.eq_nil_iff_forall_not_mem]
  intro number member
  obtain ⟨version, there⟩ := (mem_versions_of world id number).mp member
  obtain ⟨reference, row, stored, same, _⟩ := matched.owned _ _ there
  exact dead ⟨reference, row, stored, same⟩

end Versions

-- The ledger of versions and log entries.
structure LedgerExact (world : World) : Prop where
  versions : ∀ reference row, world.secrets.find reference = some row →
    (world.versionsOf row.id).Perm ((List.range row.currentVersion.toNat).map fun index : Nat => (index : Int) + 1)
  puts : ∀ reference row, world.secrets.find reference = some row → (world.audited .put row.id : Int) = row.currentVersion
  kept : ∀ reference row, world.secrets.find reference = some row → world.audited .delete row.id = 0
  gone : ∀ id, 0 < world.audited .put id → ¬ world.Live id → world.versionsOf id = [] ∧ world.audited .delete id = 1

def Invocation.succeeds (platform : Platform) (world : World) (invocation : Invocation) : Bool :=
  (invocation.operation.perform platform invocation.store invocation.clock world).1.isOk

def Invocation.after (platform : Platform) (world : World) (invocation : Invocation) : World :=
  (invocation.operation.perform platform invocation.store invocation.clock world).2

def World.commitRows (world : World) : List AuditRow := world.auditEvents.filter fun row => decide (row.action = .commitBatch)

def World.rewrapRows (world : World) (active actor : String) : List AuditRow :=
  (world.stale active).map fun entry => ⟨entry.1.reference.tenant, some entry.1.id, actor, .rewrap⟩

structure Logs (platform : Platform) (invocation : Invocation) (before : World) : Prop where
  committed : ∀ tenant, invocation.operation.committing = some tenant → invocation.succeeds platform before = true →
    ∃ actor, (invocation.after platform before).commitRows = before.commitRows ++ [⟨tenant, none, actor, .commitBatch⟩]
  others : invocation.operation.committing = none ∨ invocation.succeeds platform before = false →
    (invocation.after platform before).commitRows = before.commitRows
  failed : invocation.succeeds platform before = false →
    (invocation.after platform before).auditEvents = before.auditEvents ∨
      ∃ actor count middle, invocation.operation = .rewrapAll actor ∧
        rewrapVersions platform invocation.store actor before = (.ok count, middle) ∧
        (invocation.after platform before).auditEvents =
          before.auditEvents ++ before.rewrapRows invocation.store.keyring.active actor

section Logging
variable (platform : Platform) (store : PostgresStore) (clock : Clock)

theorem change_commit_rows (before after : World) (change : Change platform store clock before after) :
    after.commitRows = before.commitRows := by
  have appended (row : AuditRow) (log : after.auditEvents = before.auditEvents ++ [row]) (other : row.action ≠ .commitBatch) :
      after.commitRows = before.commitRows := by
    rw [World.commitRows, log, List.filter_append, World.commitRows]
    simp [other]
  cases change with
  | put input actor _ metadata done => exact appended _ done.auditEvents (by simp)
  | delete reference actor row found => exact appended _ rfl (by simp)
  | revoke reference actor row found => exact appended _ rfl (by simp)
  | rewrap entry actor envelope => exact appended _ rfl (by simp)
  | aside _ secrets versions auditEvents grows => rw [World.commitRows, auditEvents, World.commitRows]

theorem changes_commit_rows (before after : World) (changes : (changing platform store clock).rel before after) :
    after.commitRows = before.commitRows := by
  induction changes with
  | refl => rfl
  | tail _ change ih => rw [change_commit_rows platform store clock _ _ change, ih]

theorem rewrap_rows_log (actor : String) (entries : List (SecretRow × VersionRow)) (done : Unit) (first last : World)
    (ran : forEach (rewrapRow platform store actor) entries first = (.ok done, last)) :
    last.auditEvents = first.auditEvents ++
      entries.map fun entry => ⟨entry.1.reference.tenant, some entry.1.id, actor, .rewrap⟩ := by
  induction entries generalizing first with
  | nil =>
      cases ran
      rw [List.map_nil, List.append_nil]
  | cons entry rest ih =>
      rw [for_each_cons, bind_ok] at ran
      obtain ⟨finished, middle, here, later⟩ := ran
      obtain ⟨_, _, _, _, _, rfl⟩ := (rewrap_row_ok platform store actor entry finished first middle).mp here
      rw [ih _ later, List.map_cons, List.append_cons]
      rfl

theorem rewrap_versions_rows (actor : String) (count : Nat) (before after : World)
    (ran : rewrapVersions platform store actor before = (.ok count, after)) :
    after.auditEvents = before.auditEvents ++ before.rewrapRows store.keyring.active actor :=
  rewrap_rows_log platform store actor _ () before after (rewrap_versions_ok platform store actor count before after ran).2.2

theorem operation_logged (invocation : Invocation) (before : World) : Logs platform invocation before := by
  cases ran : invocation.operation.perform platform invocation.store invocation.clock before with
  | mk outcome after =>
      have ends : invocation.after platform before = after := by rw [Invocation.after, ran]
      have judged : invocation.succeeds platform before = outcome.isOk := by rw [Invocation.succeeds, ran]
      rcases operation_performed platform invocation.store invocation.clock before after invocation.operation outcome ran with
        ⟨value, rfl, plain, changes⟩ | ⟨value, rfl, tenant, actor, applied, named, changes, logged⟩ |
          ⟨error, rfl, secrets, versions, auditEvents, grows⟩ |
          ⟨error, rfl, actor, count, middle, rotation, rewrapped, changes, auditEvents⟩
      · refine ⟨fun tenant named => ?_, fun _ => ?_, fun bad => ?_⟩
        · rw [plain] at named
          cases named
        · rw [ends]
          exact changes_commit_rows platform _ _ before after changes
        · rw [judged] at bad
          cases bad
      · refine ⟨fun other same _ => ⟨actor, ?_⟩, fun quiet => ?_, fun bad => ?_⟩
        · cases named.symm.trans same
          rw [ends, logged, ← changes_commit_rows platform _ _ before applied changes, World.commitRows, auditing,
            List.filter_append]
          rfl
        · rw [judged, named] at quiet
          rcases quiet with plain | bad
          · cases plain
          · cases bad
        · rw [judged] at bad
          cases bad
      · refine ⟨fun tenant _ good => ?_, fun _ => ?_, fun _ => .inl ?_⟩
        · rw [judged] at good
          cases good
        · rw [ends, World.commitRows, auditEvents, World.commitRows]
        · rw [ends, auditEvents]
      · refine ⟨fun tenant _ good => ?_, fun _ => ?_, fun _ => .inr ⟨actor, count, middle, rotation, rewrapped, ?_⟩⟩
        · rw [judged] at good
          cases good
        · rw [ends]
          exact changes_commit_rows platform _ _ before after changes
        · rw [ends, auditEvents]
          exact rewrap_versions_rows platform invocation.store actor count before middle rewrapped

theorem change_log (before after : World) (change : Change platform store clock before after) :
    before.auditEvents <+: after.auditEvents := by
  cases change with
  | put input actor _ metadata done => exact ⟨_, done.auditEvents.symm⟩
  | delete reference actor row found => exact ⟨_, rfl⟩
  | revoke reference actor row found => exact ⟨_, rfl⟩
  | rewrap entry actor envelope => exact ⟨_, rfl⟩
  | aside _ secrets versions auditEvents grows => rw [auditEvents]

theorem changes_log (before after : World) (changes : (changing platform store clock).rel before after) :
    before.auditEvents <+: after.auditEvents := by
  induction changes with
  | refl => exact List.prefix_rfl
  | tail _ change ih => exact ih.trans (change_log platform store clock _ _ change)

theorem step_log (invocation : Invocation) (state : World × Ledger) :
    state.1.auditEvents <+: (invocation.step platform state).1.auditEvents := by
  rcases operation_performed platform invocation.store invocation.clock state.1 _ invocation.operation _ rfl with
    ⟨_, _, _, changes⟩ | ⟨_, _, tenant, actor, applied, _, changes, logged⟩ | ⟨_, _, _, _, auditEvents, _⟩ |
      ⟨_, _, _, _, _, _, _, changes, _⟩
  · exact changes_log platform _ _ _ _ changes
  · have last : (invocation.step platform state).1 = auditing applied tenant none actor .commitBatch := logged
    rw [last]
    exact (changes_log platform _ _ _ _ changes).trans ⟨_, rfl⟩
  · have same : (invocation.step platform state).1.auditEvents = state.1.auditEvents := auditEvents
    rw [same]
  · exact changes_log platform _ _ _ _ changes

theorem steps_log (invocations : List Invocation) (state : World × Ledger) :
    state.1.auditEvents <+: (invocations.foldl (Invocation.step platform) state).1.auditEvents := by
  induction invocations generalizing state with
  | nil => exact List.prefix_rfl
  | cons invocation rest ih => exact (step_log platform invocation state).trans (ih _)

theorem audited_grows (before after : World) (grown : before.auditEvents <+: after.auditEvents) (action : AuditAction) (id : Uuid) :
    before.audited action id ≤ after.audited action id := grown.sublist.countP_le

end Logging

/-- After any run: the versions of a live record are 1 to its version, the log has as many
puts of its id and no delete; an id that was put (live in some earlier state, or never
outside a batch) and is gone has no version and one delete. Every operation logs as
`Logs` says. -/
theorem ledger_exact (platform : Platform) (invocations : List Invocation)
    (fresh : Distinct platform (runAll platform invocations).1.drawn) :
    LedgerExact (runAll platform invocations).1 ∧
      (∀ earlier later id, invocations = earlier ++ later → (runAll platform earlier).1.Live id →
        0 < (runAll platform invocations).1.audited .put id) ∧
      ∀ earlier invocation later, invocations = earlier ++ invocation :: later →
        Logs platform invocation (runAll platform earlier).1 := by
  have matched := (run_represents platform invocations).records
  have counts (run : List Invocation) (room : (runAll platform run).1.drawn ≤ (runAll platform invocations).1.drawn) :
      Counted platform (runAll platform run).1 :=
    steps_counted platform _ fresh run (World.empty, Ledger.empty) (counted_empty platform) room
  have counted := counts invocations (Nat.le_refl _)
  refine ⟨⟨versions_consecutive platform _ _ matched, counted.puts, counted.kept, fun id positive dead => ?_⟩, ?_,
    fun earlier invocation _ _ => operation_logged platform invocation (runAll platform earlier).1⟩
  · exact ⟨versions_gone platform _ _ matched id dead, counted.gone id positive dead⟩
  · rintro earlier later id rfl ⟨reference, row, found, rfl⟩
    have whole : runAll platform (earlier ++ later) = later.foldl (Invocation.step platform) (runAll platform earlier) :=
      List.foldl_append
    have room : (runAll platform earlier).1.drawn ≤ (runAll platform (earlier ++ later)).1.drawn := by
      rw [whole]
      exact steps_grow platform later _
    have early := counts earlier room
    have logged := early.puts reference row found
    have positive := early.positive reference row found
    have grown := audited_grows _ _ (steps_log platform later (runAll platform earlier)) .put row.id
    rw [whole]
    omega

namespace Sample

def retiredStore : PostgresStore := ⟨⟨"v0", [("v0", key 200)], by decide⟩, 600⟩

def heldAtRotation : List Invocation :=
  [⟨oldStore, clockAt 1, .call (.put (secret .workloadOnly 1))⟩,
   ⟨retiredStore, clockAt 1, .call (.prepare "t" transaction [.delete reference] "workload:one")⟩]

def rotation : Invocation := ⟨newStore, clockAt 2, .rewrapAll "operator"⟩

def putAgain : List Invocation :=
  [⟨oldStore, clockAt 1, .call (.put (secret .workloadOnly 1))⟩, ⟨oldStore, clockAt 1, .call (.delete reference "user:one")⟩,
   ⟨oldStore, clockAt 1, .call (.put (secret .workloadOnly 2))⟩]

end Sample

set_option maxRecDepth 8000 in
theorem failed_rewrap_logs : ¬ ∀ (platform : Platform) (invocations : List Invocation) (invocation : Invocation),
    Distinct platform (runAll platform (invocations ++ [invocation])).1.drawn →
    invocation.succeeds platform (runAll platform invocations).1 = false →
    (invocation.after platform (runAll platform invocations).1).auditEvents = (runAll platform invocations).1.auditEvents := by
  intro claim
  have spent : (runAll countingPlatform (Sample.heldAtRotation ++ [Sample.rotation])).1.drawn = 4 := rfl
  have silent := claim countingPlatform Sample.heldAtRotation Sample.rotation ?_ rfl
  · have more := congrArg List.length silent
    exact absurd more (by decide)
  · rw [spent]
    exact counting_distinct 4 (by decide)

theorem recreated_ledger : LedgerExact (runAll countingPlatform Sample.putAgain).1 := by
  have spent : (runAll countingPlatform Sample.putAgain).1.drawn = 2 := rfl
  refine (ledger_exact countingPlatform Sample.putAgain ?_).1
  rw [spent]
  exact counting_distinct 2 (by decide)

end Secrets
