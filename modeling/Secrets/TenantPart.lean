import Secrets.Runs

set_option autoImplicit false

namespace Secrets

open Effects Effects.Tx Tables

def World.ownedId (tenant : String) (world : World) (id : Uuid) : Bool :=
  world.secrets.rows.any fun row => decide (row.reference.tenant = tenant) && decide (row.id = id)

def World.part (tenant : String) (base : Nat) (world : World) : World :=
  { secrets := world.secrets.discard fun row => !decide (row.reference.tenant = tenant)
    versions := world.versions.discard fun version => !world.ownedId tenant version.secretId
    prepared := world.prepared.discard fun row => !decide (row.tenant = tenant)
    auditEvents := world.auditEvents.filter fun row => decide (row.tenant = tenant)
    drawn := world.drawn - base }

def Platform.since (base : Nat) (platform : Platform) : Platform :=
  { platform with random := fun later => platform.random (base + later) }

theorem world_ext (first second : World) (secrets : first.secrets = second.secrets) (versions : first.versions = second.versions)
    (prepared : first.prepared = second.prepared) (auditEvents : first.auditEvents = second.auditEvents)
    (drawn : first.drawn = second.drawn) : first = second := by
  cases first
  cases second
  cases secrets
  cases versions
  cases prepared
  cases auditEvents
  cases drawn
  rfl

section Finding
variable (tenant : String) (base : Nat) (world : World)

theorem part_find (reference : SecretRef) (own : reference.tenant = tenant) :
    (world.part tenant base).secrets.find reference = world.secrets.find reference := by
  refine Table.find_discard_kept _ _ _ fun row found => ?_
  have key : row.reference = reference := Table.find_key _ _ _ found
  simp [key, own]

theorem owned_id (id : Uuid) : world.ownedId tenant id = true ↔
    ∃ row ∈ world.secrets.rows, row.reference.tenant = tenant ∧ row.id = id := by
  simp [World.ownedId]

theorem owned_id_found (reference : SecretRef) (row : SecretRow) (own : reference.tenant = tenant)
    (found : world.secrets.find reference = some row) : world.ownedId tenant row.id = true := by
  have key : row.reference = reference := Table.find_key _ _ _ found
  exact (owned_id tenant world row.id).mpr ⟨row, Table.find_mem _ _ _ found, by rw [key, own], rfl⟩

theorem part_find_version (address : Uuid × Int) (own : world.ownedId tenant address.1 = true) :
    (world.part tenant base).versions.find address = world.versions.find address := by
  refine Table.find_discard_kept _ _ _ fun version found => ?_
  have key : version.secretId = address.1 := congrArg Prod.fst (Table.find_key _ _ _ found)
  rw [key, own]
  rfl

theorem part_find_prepared (transaction : Uuid) :
    (world.part tenant base).prepared.find (tenant, transaction) = world.prepared.find (tenant, transaction) := by
  refine Table.find_discard_kept _ _ _ fun row found => ?_
  have key : row.tenant = tenant := congrArg Prod.fst (Table.find_key _ _ _ found)
  simp [key]

theorem part_held (transaction : Uuid) (now : Int) :
    (world.part tenant base).held tenant transaction now = world.held tenant transaction now := by
  rw [World.held, World.held, part_find_prepared]

theorem part_matching (owner : Option String) : (world.part tenant base).matching tenant owner = world.matching tenant owner := by
  rw [World.matching, World.matching, World.part, Table.discard_rows, List.filter_filter]
  apply List.filter_congr
  intro row _
  by_cases own : row.reference.tenant = tenant <;> simp [own]

theorem part_readable (reference : SecretRef) (own : reference.tenant = tenant) :
    (world.part tenant base).readable reference = world.readable reference := by
  unfold World.readable
  rw [part_find tenant base world reference own]
  cases found : world.secrets.find reference with
  | none => rfl
  | some row =>
      have same : (world.part tenant base).currentVersion row = world.currentVersion row :=
        part_find_version tenant base world _ (owned_id_found tenant world reference row own found)
      simp only [same]

end Finding

section Changing
variable (tenant : String) (base : Nat) (world : World)

theorem part_auditing (id : Option Uuid) (actor : String) (action : AuditAction) :
    auditing (world.part tenant base) tenant id actor action = (auditing world tenant id actor action).part tenant base := by
  refine world_ext _ _ rfl rfl rfl ?_ rfl
  simp [auditing, World.part, List.filter_append]

theorem part_purged (now : Int) : (world.part tenant base).purged tenant now = (world.purged tenant now).part tenant base :=
  world_ext _ _ rfl rfl (Table.discard_comm _ _ _) rfl rfl

theorem part_drop_prepared (transaction : Uuid) :
    (world.part tenant base).dropPrepared tenant transaction = (world.dropPrepared tenant transaction).part tenant base :=
  world_ext _ _ rfl rfl (Table.discard_comm _ _ _) rfl rfl

theorem part_insert_prepared (row : PreparedRow) (own : row.tenant = tenant) :
    ((world.part tenant base).prepared.insert row).map (fun prepared => { world.part tenant base with prepared := prepared }) =
      ((world.prepared.insert row).map fun prepared => { world with prepared := prepared }).map (World.part tenant base) := by
  have moved := Table.insert_discard world.prepared (fun row => !decide (row.tenant = tenant)) row (by simp [own])
    fun old found => by
      have key : old.tenant = row.tenant := congrArg Prod.fst (Table.find_key _ _ _ found)
      simp [key, own]
  change (Table.insert (world.prepared.discard fun row => !decide (row.tenant = tenant)) row).map _ = _
  rw [moved, Option.map_map, Option.map_map]
  rfl

theorem part_amend (reference : SecretRef) (change : SecretRow → SecretRow)
    (keyed : ∀ row, (change row).reference = row.reference) (same : ∀ row, (change row).id = row.id) :
    { world.part tenant base with secrets := (world.part tenant base).secrets.amend reference change keyed } =
      ({ world with secrets := world.secrets.amend reference change keyed } : World).part tenant base := by
  have ids : ∀ id, World.ownedId tenant { world with secrets := world.secrets.amend reference change keyed } id =
      world.ownedId tenant id := by
    intro id
    simp only [World.ownedId, Table.amend_rows, List.any_map]
    congr 1
    funext row
    simp only [Function.comp]
    split <;> simp [keyed, same]
  refine world_ext _ _ (Table.amend_discard world.secrets _ reference change keyed fun row => by rw [keyed]) ?_ rfl rfl rfl
  refine Table.discard_congr _ _ _ fun version _ => ?_
  rw [ids]

theorem part_revoking (reference : SecretRef) (now : Int) :
    (world.part tenant base).revoking reference now = (world.revoking reference now).part tenant base :=
  part_amend tenant base world reference (SecretRow.revokedAt now) (fun _ => rfl) fun _ => rfl

theorem part_drop_secret (row : SecretRow) (member : row ∈ world.secrets.rows) :
    (world.part tenant base).dropSecret row = (world.dropSecret row).part tenant base := by
  refine world_ext _ _ (Table.discard_comm _ _ _) ?_ rfl rfl rfl
  change (world.versions.discard _).discard _ = (world.versions.discard _).discard _
  rw [Table.discard_comm]
  refine Table.discard_congr _ _ _ fun version kept => ?_
  have apart : version.secretId ≠ row.id := by simpa using (List.mem_filter.mp kept).2
  have still : (world.dropSecret row).ownedId tenant version.secretId = world.ownedId tenant version.secretId := by
    rw [Bool.eq_iff_iff, owned_id, owned_id]
    constructor
    · rintro ⟨other, there, own, id⟩
      exact ⟨other, (List.mem_filter.mp there).1, own, id⟩
    · rintro ⟨other, there, own, id⟩
      refine ⟨other, List.mem_filter.mpr ⟨there, ?_⟩, own, id⟩
      have different : other.reference ≠ row.reference := by
        intro same
        cases List.inj_on_of_nodup_map world.secrets.unique there member same
        exact apart id.symm
      simp [different]
  rw [still]

-- A put may take an id that is new to the whole store, or the one its reference
-- has. No version waits for a record.
structure IdFits (row : SecretRow) : Prop where
  mine : ∀ other ∈ world.secrets.rows, other.id = row.id → other.reference.tenant = tenant
  unclaimed : ∀ version ∈ world.versions.rows, ∃ other ∈ world.secrets.rows, other.id = version.secretId

theorem part_upsert (row : SecretRow) (own : row.reference.tenant = tenant) (fits : IdFits tenant world row) :
    (world.part tenant base).upsert row = (world.upsert row).map (World.part tenant base) := by
  unfold World.upsert
  rw [part_find tenant base world row.reference own]
  cases found : world.secrets.find row.reference with
  | some old => exact congrArg some (part_amend tenant base world row.reference _ _ fun _ => rfl)
  | none =>
      have taken : ((world.part tenant base).secrets.rows.any fun other => decide (other.id = row.id)) =
          world.secrets.rows.any fun other => decide (other.id = row.id) := by
        rw [World.part, Table.discard_rows, List.any_filter, Bool.eq_iff_iff, List.any_eq_true, List.any_eq_true]
        constructor
        · rintro ⟨other, member, both⟩
          exact ⟨other, member, (Bool.and_eq_true_iff.mp both).2⟩
        · rintro ⟨other, member, same⟩
          exact ⟨other, member, by simpa [same] using fits.mine other member (of_decide_eq_true same)⟩
      simp only [taken]
      split
      · rfl
      · rename_i free
        have moved := Table.insert_discard world.secrets (fun row => !decide (row.reference.tenant = tenant)) row (by simp [own])
          fun old there => by rw [found] at there; cases there
        change (Table.insert (world.secrets.discard fun row => !decide (row.reference.tenant = tenant)) row).map _ = _
        rw [moved, Option.map_map, Option.map_map]
        apply Option.map_congr
        intro secrets inserted
        obtain ⟨_, rows⟩ := (Table.insert_some _ _ _).mp inserted
        refine world_ext _ _ rfl (Table.discard_congr _ _ _ fun version member => ?_) rfl rfl rfl
        have ids : World.ownedId tenant { world with secrets := secrets } version.secretId =
            world.ownedId tenant version.secretId := by
          obtain ⟨other, there, claimed⟩ := fits.unclaimed version member
          have apart : row.id ≠ version.secretId := by
            rw [← claimed]
            intro same
            exact free (List.any_eq_true.mpr ⟨other, there, by simp [same]⟩)
          simp [World.ownedId, rows, apart]
        rw [ids]

theorem part_add_version (row : VersionRow) (own : world.ownedId tenant row.secretId = true) :
    (world.part tenant base).addVersion row = (world.addVersion row).map (World.part tenant base) := by
  obtain ⟨secret, member, tenants, id⟩ := (owned_id tenant world row.secretId).mp own
  have there : world.secrets.rows.any (fun secret => decide (secret.id = row.secretId)) = true :=
    List.any_eq_true.mpr ⟨secret, member, by simp [id]⟩
  have here : (world.part tenant base).secrets.rows.any (fun secret => decide (secret.id = row.secretId)) = true :=
    List.any_eq_true.mpr ⟨secret, List.mem_filter.mpr ⟨member, by simp [tenants]⟩, by simp [id]⟩
  unfold World.addVersion
  rw [if_pos there, if_pos here]
  have moved := Table.insert_discard world.versions (fun version => !world.ownedId tenant version.secretId) row (by simp [own])
    fun old found => by
      have key : old.secretId = row.secretId := congrArg Prod.fst (Table.find_key _ _ _ found)
      simp [key, own]
  change (Table.insert (world.versions.discard fun version => !world.ownedId tenant version.secretId) row).map _ = _
  rw [moved, Option.map_map, Option.map_map]
  rfl

end Changing
end Secrets
