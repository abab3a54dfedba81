import Secrets.TenantIsolation

set_option autoImplicit false

namespace Secrets

open Effects Effects.Tx Programs Tables

-- What a subject of a tenant may see: the rows `list` answers it with.
def World.owned (world : World) (tenant subject : String) : List SecretRow := world.matching tenant (some subject)

theorem mem_owned (world : World) (tenant subject : String) (row : SecretRow) :
    row ∈ world.owned tenant subject ↔
      world.secrets.find row.reference = some row ∧ row.reference.tenant = tenant ∧ row.ownerSubject = subject := by
  rw [World.owned, mem_matching, Table.find_some]
  simp

theorem owned_keys (world : World) (tenant subject : String) :
    ((world.owned tenant subject).map SecretRow.reference).Nodup :=
  (List.filter_sublist.map SecretRow.reference).nodup world.secrets.unique

section Calls
variable (platform : Platform) (clock : Clock) (world : World) (reference : SecretRef) (actor : String) (row : SecretRow)

-- What a change of an existing record needs besides: nothing of the record.
def changeable : Bool :=
  !reference.parts.any hasNul && !([reference.tenant, actor].any hasNul) && platform.indexFits [reference.tenant]

theorem audit_run (tenant : String) (id : Option Uuid) (action : AuditAction) :
    audit platform tenant id actor action world =
      if !([tenant, actor].any hasNul) && platform.indexFits [tenant] then (.ok (), auditing world tenant id actor action)
      else (.error .unavailable, world) := by
  cases dirty : [tenant, actor].any hasNul with
  | true => simp only [audit, bind_run, bindText, ensure, dirty, Bool.not_true, Bool.false_eq_true, if_false, Bool.false_and]
  | false =>
      cases fits : platform.indexFits [tenant] <;>
        simp only [audit, bind_run, bindText, ensure, dirty, fits, Bool.not_false, Bool.false_eq_true, if_true, if_false,
          Bool.and_false, Bool.and_true, write_run, auditing]

theorem list_run (tenant : String) (owner : Option String) :
    list tenant owner world =
      if (tenant :: owner.toList).any hasNul then (.error .unavailable, world)
      else (.ok (((world.matching tenant owner).insertionSort fun first second : SecretRow =>
        second.updatedAt ≤ first.updatedAt).map SecretRow.metadata), world) := by
  rw [list, selectSecrets, bind_run, bind_run, bindText, ensure]
  cases (tenant :: owner.toList).any hasNul <;> rfl

theorem revoke_run (found : world.secrets.find reference = some row) :
    revoke platform clock reference actor world =
      if changeable platform reference actor then
        (.ok (row.revokedAt clock.transaction).metadata,
          auditing (world.revoking reference clock.transaction) reference.tenant (some row.id) actor .revoke)
      else (.error .unavailable, world) := by
  have shown : (auditing (world.revoking reference clock.transaction) reference.tenant (some row.id) actor
      .revoke).secrets.find reference = some (row.revokedAt clock.transaction) := by
    rw [auditing, find_revoking, if_pos rfl, found]
    rfl
  cases dirty : reference.parts.any hasNul with
  | true =>
      simp only [revoke, atomic, revokeSecret, bind_run, bindText, ensure, changeable, dirty, rollback, Bool.not_true,
        Bool.false_eq_true, if_false, Bool.false_and]
  | false =>
      cases logged : (!([reference.tenant, actor].any hasNul) && platform.indexFits [reference.tenant]) <;>
        simp only [revoke, atomic, revokeSecret, metadataTx, selectSecret, bind_run, bindText, ensure, changeable, dirty, found,
          read_run, write_run, pure_run, audit_run, logged, shown, Bool.not_false, Bool.false_eq_true, if_true, if_false,
          Bool.true_and]
      rfl

theorem delete_run (found : world.secrets.find reference = some row) :
    delete platform reference actor world =
      if changeable platform reference actor then
        (.ok (), auditing (world.dropSecret row) reference.tenant (some row.id) actor .delete)
      else (.error .unavailable, world) := by
  cases dirty : reference.parts.any hasNul with
  | true =>
      simp only [delete, deleteTx, atomic, deleteSecret, bind_run, bindText, ensure, changeable, dirty, rollback, Bool.not_true,
        Bool.false_eq_true, if_false, Bool.false_and]
  | false =>
      cases logged : (!([reference.tenant, actor].any hasNul) && platform.indexFits [reference.tenant]) <;>
        simp only [delete, deleteTx, atomic, deleteSecret, bind_run, bindText, ensure, changeable, dirty, found, read_run,
          write_run, pure_run, audit_run, logged, Bool.not_false, Bool.false_eq_true, if_true, if_false, Bool.true_and]
      rfl

end Calls

section Changes
variable (world : World) (tenant subject : String) (reference : SecretRef)

def SecretRow.revokedIf (reference : SecretRef) (now : Int) (row : SecretRow) : SecretRow :=
  if row.reference = reference then row.revokedAt now else row

theorem owned_revoking (now : Int) :
    (world.revoking reference now).owned tenant subject =
      (world.owned tenant subject).map (SecretRow.revokedIf reference now) := by
  have rows : (world.revoking reference now).secrets.rows = world.secrets.rows.map (SecretRow.revokedIf reference now) :=
    Table.amend_rows world.secrets reference (SecretRow.revokedAt now) fun _ => rfl
  rw [World.owned, World.matching, rows, List.filter_map, World.owned, World.matching]
  refine congrArg (List.map _) (List.filter_congr fun row _ => ?_)
  rw [Function.comp_apply, SecretRow.revokedIf]
  split <;> rfl

theorem owned_drop_secret (row : SecretRow) :
    (world.dropSecret row).owned tenant subject =
      (world.owned tenant subject).filter fun other => !decide (other.reference = row.reference) := by
  rw [World.owned, World.matching, World.dropSecret, Table.discard_rows, List.filter_filter, World.owned, World.matching,
    List.filter_filter]
  exact List.filter_congr fun other _ => Bool.and_comm _ _

end Changes

-- When two sets of rows say the same to their owner, in what sense two answers
-- are then the same, and for which clocks: every change an owner can make must
-- keep it.
structure Likeness where
  rows : List SecretRow → List SecretRow → Prop
  clocks : Clock → Clock → Prop
  sees : SecretRow → SecretRow → Prop
  reads : SecretMetadata → SecretMetadata → Prop
  lists : List SecretMetadata → List SecretMetadata → Prop
  paired : ∀ left right, rows left right → ∀ row ∈ left, ∃ other ∈ right, other.reference = row.reference ∧ sees row other
  flipped : ∀ left right, rows left right → ∀ other ∈ right, ∃ row ∈ left, row.reference = other.reference
  read : ∀ row other, sees row other → reads row.metadata other.metadata
  revoked : ∀ row other first second, sees row other → clocks first second →
    sees (row.revokedAt first.transaction) (other.revokedAt second.transaction)
  revoking : ∀ left right reference first second, rows left right → clocks first second →
    rows (left.map (SecretRow.revokedIf reference first.transaction))
      (right.map (SecretRow.revokedIf reference second.transaction))
  dropping : ∀ left right reference, rows left right →
    rows (left.filter fun row => !decide (row.reference = reference))
      (right.filter fun row => !decide (row.reference = reference))
  listing : ∀ left right, rows left right →
    lists ((left.insertionSort fun first second : SecretRow => second.updatedAt ≤ first.updatedAt).map SecretRow.metadata)
      ((right.insertionSort fun first second : SecretRow => second.updatedAt ≤ first.updatedAt).map SecretRow.metadata)

def Likeness.exact : Likeness where
  rows := Eq
  clocks := Eq
  sees := Eq
  reads := Eq
  lists := Eq
  paired := by
    rintro left _ rfl row member
    exact ⟨row, member, rfl, rfl⟩
  flipped := by
    rintro left _ rfl other member
    exact ⟨other, member, rfl⟩
  read := by
    rintro row _ rfl
    rfl
  revoked := by
    rintro row _ clock _ rfl rfl
    rfl
  revoking := by
    rintro left _ reference clock _ rfl rfl
    rfl
  dropping := by
    rintro left _ reference rfl
    rfl
  listing := by
    rintro left _ rfl
    rfl

def SecretRow.untimed (row : SecretRow) : SecretRow := { row with createdAt := 0, updatedAt := 0 }

def SecretMetadata.untimed (metadata : SecretMetadata) : SecretMetadata := { metadata with createdAt := 0, updatedAt := 0 }

def Likeness.untimed : Likeness where
  rows left right := (left.map SecretRow.untimed).Perm (right.map SecretRow.untimed)
  clocks _ _ := True
  sees row other := row.untimed = other.untimed
  reads metadata other := metadata.untimed = other.untimed
  lists left right := (left.map SecretMetadata.untimed).Perm (right.map SecretMetadata.untimed)
  paired left right same row member := by
    obtain ⟨other, there, alike⟩ := List.mem_map.mp (same.subset (List.mem_map_of_mem member))
    have named : other.untimed.reference = row.untimed.reference := congrArg SecretRow.reference alike
    exact ⟨other, there, named, alike.symm⟩
  flipped left right same other member := by
    obtain ⟨row, there, alike⟩ := List.mem_map.mp (same.symm.subset (List.mem_map_of_mem member))
    have named : row.untimed.reference = other.untimed.reference := congrArg SecretRow.reference alike
    exact ⟨row, there, named⟩
  read row other same := congrArg SecretRow.metadata same
  revoked row other first second same _ := congrArg (fun row : SecretRow => { row with state := .revoked }) same
  revoking left right reference first second same _ := by
    have retimed (now : Int) (row : SecretRow) : (row.revokedIf reference now).untimed = row.untimed.revokedIf reference 0 := by
      by_cases hit : row.reference = reference <;> simp [SecretRow.revokedIf, SecretRow.untimed, SecretRow.revokedAt, hit]
    have renamed (now : Int) (rows : List SecretRow) : (rows.map (SecretRow.revokedIf reference now)).map SecretRow.untimed =
        (rows.map SecretRow.untimed).map (SecretRow.revokedIf reference 0) := by
      simp only [List.map_map, List.map_inj_left, Function.comp_apply, retimed, implies_true]
    rw [renamed, renamed]
    exact same.map _
  dropping left right reference same := by
    have renamed (rows : List SecretRow) : (rows.filter fun row => !decide (row.reference = reference)).map SecretRow.untimed =
        (rows.map SecretRow.untimed).filter fun row => !decide (row.reference = reference) := by
      rw [List.filter_map]
      rfl
    rw [renamed, renamed]
    exact same.filter _
  listing left right same := by
    have plain (rows : List SecretRow) : (rows.map SecretRow.metadata).map SecretMetadata.untimed =
        (rows.map SecretRow.untimed).map SecretRow.metadata := by simp [SecretMetadata.untimed, SecretRow.untimed, SecretRow.metadata]
    rw [plain, plain]
    refine List.Perm.map _ ?_
    exact (((List.perm_insertionSort _ left).map _).trans same).trans ((List.perm_insertionSort _ right).map _).symm

section Shown
variable (world : World) (tenant subject : String) (reference : SecretRef)

def World.shown : List SecretMetadata :=
  ((world.owned tenant subject).insertionSort fun first second : SecretRow => second.updatedAt ≤ first.updatedAt).map
    SecretRow.metadata

theorem mem_shown (metadata : SecretMetadata) :
    metadata ∈ world.shown tenant subject ↔ ∃ row ∈ world.owned tenant subject, row.metadata = metadata := by
  rw [World.shown, List.mem_map]
  simp only [(List.perm_insertionSort _ _).mem_iff]

theorem owned_unique (row other : SecretRow) (member : row ∈ world.owned tenant subject)
    (there : other ∈ world.owned tenant subject) (same : row.reference = other.reference) : row = other :=
  List.inj_on_of_nodup_map (owned_keys world tenant subject) member there same

theorem find_shown (metadata : SecretMetadata) :
    (world.shown tenant subject).find? (fun metadata => decide (metadata.reference = reference)) = some metadata ↔
      ∃ row ∈ world.owned tenant subject, row.reference = reference ∧ row.metadata = metadata := by
  constructor
  · intro found
    obtain ⟨row, member, rfl⟩ := (mem_shown _ _ _ _).mp (List.mem_of_find?_eq_some found)
    exact ⟨row, member, of_decide_eq_true (List.find?_some found :), rfl⟩
  · rintro ⟨row, member, named, rfl⟩
    have listed := (mem_shown _ _ _ _).mpr ⟨row, member, rfl⟩
    cases found : (world.shown tenant subject).find? fun metadata => decide (metadata.reference = reference) with
    | none => exact absurd (decide_eq_true (named : row.metadata.reference = reference)) (List.find?_eq_none.mp found _ listed)
    | some other =>
        obtain ⟨shown, there, rfl⟩ := (mem_shown _ _ _ _).mp (List.mem_of_find?_eq_some found)
        have same : shown.reference = reference := of_decide_eq_true (List.find?_some found :)
        rw [owned_unique world tenant subject shown row there member (same.trans named.symm)]

end Shown

def Service.clocked (clocks : Nat → Clock) (service : Service) : Service := { service with clocks := clocks }

section Handlers
variable (likeness : Likeness) (service : Service) (clocks : Nat → Clock) (extractors : Extractors) (tenant subject : String)
variable (timed : ∀ calls, likeness.clocks (service.clocks calls) (clocks calls))

structure Likeness.Servings (left right : Serving) : Prop where
  rows : likeness.rows (left.world.owned tenant subject) (right.world.owned tenant subject)
  calls : left.calls = right.calls

inductive Likeness.Replies : Reply → Reply → Prop where
  | secrets (left right : List SecretMetadata) (same : likeness.lists left right) : Replies (.secrets left) (.secrets right)
  | metadata (left right : SecretMetadata) (same : likeness.reads left right) : Replies (.metadata left) (.metadata right)
  | noContent : Replies .noContent .noContent

theorem run_list (state : Serving) :
    run service.perform (callStore (.list tenant (some subject))) state =
      (if [tenant, subject].any hasNul then .error .unavailable else .ok (state.world.shown tenant subject),
        ⟨state.world, state.calls + 1⟩) := by
  rw [run_call_store]
  change (Except.mapError Refusal.ofStore (list tenant (some subject) state.world).1,
    (⟨(list tenant (some subject) state.world).2, state.calls + 1⟩ : Serving)) = _
  rw [list_run, Option.toList_some]
  cases [tenant, subject].any hasNul <;> rfl

theorem list_alike (left right : Serving) (same : likeness.Servings tenant subject left right) :
    Resembles (likeness.Servings tenant subject)
      (fun first second => first = left.world.shown tenant subject ∧ second = right.world.shown tenant subject)
      (run service.perform (callStore (.list tenant (some subject))) left)
      (run (service.clocked clocks).perform (callStore (.list tenant (some subject))) right) := by
  rw [run_list, run_list]
  refine ⟨?_, same.rows, congrArg (· + 1) same.calls⟩
  split
  · exact .error _
  · exact .ok _ _ ⟨rfl, rfl⟩

theorem store_alike (call : StoreCall) (alike : call.Answer → call.Answer → Prop) (left right : Serving)
    (calls : left.calls = right.calls)
    (answers : SameOutcome alike (call.perform service.platform service.store (service.clocks left.calls) left.world).1
      (call.perform service.platform service.store (clocks left.calls) right.world).1)
    (rows : likeness.rows
      ((call.perform service.platform service.store (service.clocks left.calls) left.world).2.owned tenant subject)
      ((call.perform service.platform service.store (clocks left.calls) right.world).2.owned tenant subject)) :
    Resembles (likeness.Servings tenant subject) alike (run service.perform (callStore call) left)
      (run (service.clocked clocks).perform (callStore call) right) := by
  rw [run_call_store, run_call_store, ← calls]
  exact ⟨same_outcome_map_error alike Refusal.ofStore _ _ answers, rows, rfl⟩

include timed

theorem revoke_alike (left right : Serving) (same : likeness.Servings tenant subject left right) (reference : SecretRef)
    (actor : String) (held : ∃ row ∈ left.world.owned tenant subject, row.reference = reference) :
    Resembles (likeness.Servings tenant subject) likeness.reads
      (run service.perform (callStore (.revoke reference actor)) left)
      (run (service.clocked clocks).perform (callStore (.revoke reference actor)) right) := by
  obtain ⟨row, member, rfl⟩ := held
  obtain ⟨other, there, named, alike⟩ := likeness.paired _ _ same.rows row member
  have found := ((mem_owned _ _ _ _).mp member).1
  have foundThere := ((mem_owned _ _ _ _).mp there).1
  rw [named] at foundThere
  have here := revoke_run service.platform (service.clocks left.calls) left.world row.reference actor row found
  have yonder := revoke_run service.platform (clocks left.calls) right.world row.reference actor other foundThere
  refine store_alike likeness service clocks tenant subject (.revoke row.reference actor) likeness.reads left right same.calls ?_ ?_
  · change SameOutcome _ (revoke _ _ _ _ _).1 (revoke _ _ _ _ _).1
    rw [here, yonder]
    split
    · exact .ok _ _ (likeness.read _ _ (likeness.revoked _ _ _ _ alike (timed left.calls)))
    · exact .error _
  · change likeness.rows ((revoke _ _ _ _ _).2.owned _ _) ((revoke _ _ _ _ _).2.owned _ _)
    rw [here, yonder]
    split
    · have changed := likeness.revoking _ _ row.reference _ _ same.rows (timed left.calls)
      rw [← owned_revoking, ← owned_revoking] at changed
      exact changed
    · exact same.rows

omit timed in
theorem delete_alike (left right : Serving) (same : likeness.Servings tenant subject left right) (reference : SecretRef)
    (actor : String) (held : ∃ row ∈ left.world.owned tenant subject, row.reference = reference) :
    Resembles (likeness.Servings tenant subject) (fun _ _ => True)
      (run service.perform (callStore (.delete reference actor)) left)
      (run (service.clocked clocks).perform (callStore (.delete reference actor)) right) := by
  obtain ⟨row, member, rfl⟩ := held
  obtain ⟨other, there, named, _⟩ := likeness.paired _ _ same.rows row member
  have found := ((mem_owned _ _ _ _).mp member).1
  have foundThere := ((mem_owned _ _ _ _).mp there).1
  rw [named] at foundThere
  have here := delete_run service.platform left.world row.reference actor row found
  have yonder := delete_run service.platform right.world row.reference actor other foundThere
  refine store_alike likeness service clocks tenant subject (.delete row.reference actor) _ left right same.calls ?_ ?_
  · change SameOutcome _ (delete _ _ _ _).1 (delete _ _ _ _).1
    rw [here, yonder]
    split
    · exact .ok _ _ trivial
    · exact .error _
  · change likeness.rows ((delete _ _ _ _).2.owned _ _) ((delete _ _ _ _).2.owned _ _)
    rw [here, yonder]
    split
    · have changed := likeness.dropping _ _ row.reference same.rows
      rw [← owned_drop_secret left.world, ← named, ← owned_drop_secret right.world] at changed
      exact changed
    · exact same.rows

omit timed in
theorem assert_owner_alike (principal : Principal) (who : principal.tenant = tenant ∧ principal.subject = subject)
    (left right : Serving) (same : likeness.Servings tenant subject left right) (reference : SecretRef) :
    Resembles (likeness.Servings tenant subject) (fun _ _ => ∃ row ∈ left.world.owned tenant subject, row.reference = reference)
      (run service.perform (assertOwner principal reference) left)
      (run (service.clocked clocks).perform (assertOwner principal reference) right) := by
  obtain ⟨rfl, rfl⟩ := who
  rw [assertOwner, run_bind, run_bind]
  refine resembles_bind _ _ _ _ _ _ _ _ _ (list_alike likeness service clocks _ _ left right same) ?_
  rintro _ _ first second _ _ ⟨rfl, rfl⟩ after
  have named (world : World) : ((world.shown principal.tenant principal.subject).any fun metadata =>
      decide (metadata.reference = reference)) = true ↔
      ∃ row ∈ world.owned principal.tenant principal.subject, row.reference = reference := by
    simp only [List.any_eq_true, mem_shown, decide_eq_true_eq]
    constructor
    · rintro ⟨_, ⟨row, member, rfl⟩, named⟩
      exact ⟨row, member, named⟩
    · rintro ⟨row, member, named⟩
      exact ⟨_, ⟨row, member, rfl⟩, named⟩
  have both : (right.world.shown principal.tenant principal.subject).any (fun metadata => decide (metadata.reference = reference)) =
      (left.world.shown principal.tenant principal.subject).any fun metadata => decide (metadata.reference = reference) := by
    rw [Bool.eq_iff_iff, named, named]
    constructor
    · rintro ⟨other, there, rfl⟩
      exact likeness.flipped _ _ same.rows other there
    · rintro ⟨row, member, rfl⟩
      obtain ⟨other, there, shared, _⟩ := likeness.paired _ _ same.rows row member
      exact ⟨other, there, shared⟩
  rw [run_ensure, run_ensure, both]
  cases held : (left.world.shown principal.tenant principal.subject).any fun metadata => decide (metadata.reference = reference) with
  | true => exact ⟨.ok _ _ ((named _).mp held), after⟩
  | false => exact ⟨.error _, after⟩

end Handlers

def Service.Speaks (service : Service) (tenant subject : String) (request : HttpRequest) : Prop :=
  ∀ token, bearer request = some token → ∀ calls principal, service.userAuthority calls token = .ok principal →
    principal.tenant = tenant ∧ principal.subject = subject

theorem find_alike (likeness : Likeness) (left right : World) (tenant subject : String) (reference : SecretRef)
    (same : likeness.rows (left.owned tenant subject) (right.owned tenant subject)) :
    (left.shown tenant subject).find? (fun metadata => decide (metadata.reference = reference)) = none ∧
        (right.shown tenant subject).find? (fun metadata => decide (metadata.reference = reference)) = none ∨
      ∃ first second, (left.shown tenant subject).find? (fun metadata => decide (metadata.reference = reference)) = some first ∧
        (right.shown tenant subject).find? (fun metadata => decide (metadata.reference = reference)) = some second ∧
        likeness.reads first second := by
  by_cases held : ∃ row ∈ left.owned tenant subject, row.reference = reference
  · obtain ⟨row, member, named⟩ := held
    obtain ⟨other, there, shared, alike⟩ := likeness.paired _ _ same row member
    exact .inr ⟨_, _, (find_shown _ _ _ _ _).mpr ⟨row, member, named, rfl⟩,
      (find_shown _ _ _ _ _).mpr ⟨other, there, shared.trans named, rfl⟩, likeness.read _ _ alike⟩
  · refine .inl ⟨Option.eq_none_iff_forall_ne_some.mpr fun metadata found => ?_,
      Option.eq_none_iff_forall_ne_some.mpr fun metadata found => ?_⟩
    · obtain ⟨row, member, named, _⟩ := (find_shown _ _ _ _ _).mp found
      exact held ⟨row, member, named⟩
    · obtain ⟨other, there, named, _⟩ := (find_shown _ _ _ _ _).mp found
      obtain ⟨row, member, shared⟩ := likeness.flipped _ _ same other there
      exact held ⟨row, member, shared.trans named⟩

section Serving
variable (likeness : Likeness) (service : Service) (clocks : Nat → Clock) (extractors : Extractors) (tenant subject : String)
variable (request : HttpRequest) (speaks : service.Speaks tenant subject request)

def UserVerify : ServiceCall → Prop
  | .verify family _ => family = .user
  | .store _ => False

theorem authorize_verifies (action : String) : (authorize request .user action).Asks UserVerify := by
  refine Prog.asks_bind _ _ _ ?_ fun token => ?_
  · cases bearer request <;> trivial
  refine Prog.asks_bind _ _ _ ⟨rfl, fun _ => answered_asks _ _ _⟩ fun principal => ?_
  exact Prog.asks_bind _ _ _ (ensure_asks _ _ _) fun _ => trivial

theorem verify_alike (call : ServiceCall) (left right : Serving) (asked : UserVerify call)
    (same : likeness.Servings tenant subject left right) :
    (service.perform call left).1 = ((service.clocked clocks).perform call right).1 ∧
      likeness.Servings tenant subject (service.perform call left).2 ((service.clocked clocks).perform call right).2 := by
  cases call with
  | store call => cases asked
  | verify family token =>
      have counted := same.calls
      cases asked
      exact ⟨by rw [Service.perform, Service.perform, counted]; rfl, same.rows, congrArg (· + 1) counted⟩

include speaks

theorem authorize_alike (action : String) (left right : Serving) (same : likeness.Servings tenant subject left right) :
    Resembles (likeness.Servings tenant subject)
      (fun first second => first = second ∧ first.tenant = tenant ∧ first.subject = subject)
      (run service.perform (authorize request .user action) left)
      (run (service.clocked clocks).perform (authorize request .user action) right) := by
  obtain ⟨outcomes, related⟩ := matches_run service.perform (service.clocked clocks).perform _ UserVerify
    (verify_alike likeness service clocks tenant subject) _ (authorize_verifies request action) left right same
  refine ⟨?_, related⟩
  rw [← outcomes]
  cases ran : run service.perform (authorize request .user action) left with
  | mk outcome middle =>
      cases outcome with
      | error error => exact .error error
      | ok principal =>
          obtain ⟨token, carried, verified, _⟩ := run_authorize_ok service request _ _ _ _ _ ran
          exact .ok _ _ ⟨rfl, speaks token carried left.calls principal verified⟩

theorem authorize_ref_alike (action : String) (reference : SecretRef) (left right : Serving)
    (same : likeness.Servings tenant subject left right) :
    Resembles (likeness.Servings tenant subject)
      (fun first second => first = second ∧ first.tenant = tenant ∧ first.subject = subject)
      (run service.perform (authorizeRef request .user action reference) left)
      (run (service.clocked clocks).perform (authorizeRef request .user action reference) right) := by
  rw [authorizeRef, run_bind, run_bind]
  refine resembles_bind _ _ _ _ _ _ _ _ _ (authorize_alike likeness service clocks tenant subject request speaks action left right same) ?_
  rintro principal _ first second _ _ ⟨rfl, who⟩ after
  rw [tenantMatch, run_bind, run_bind, bind_run, bind_run, run_ensure, run_ensure]
  cases decide (principal.tenant = reference.tenant)
  · exact ⟨.error _, after⟩
  · exact ⟨.ok _ _ ⟨rfl, who⟩, after⟩

theorem read_reference_alike (action : String) (work : SecretRef → Principal → Handler Reply)
    (works : ∀ reference principal left right, principal.tenant = tenant ∧ principal.subject = subject →
      likeness.Servings tenant subject left right →
      Resembles (likeness.Servings tenant subject) likeness.Replies (run service.perform (work reference principal) left)
        (run (service.clocked clocks).perform (work reference principal) right))
    (left right : Serving) (same : likeness.Servings tenant subject left right) :
    Resembles (likeness.Servings tenant subject) likeness.Replies
      (run service.perform (Prog.lift (jsonBody extractors .reference request) >>= fun reference =>
        authorizeRef request .user action reference >>= work reference) left)
      (run (service.clocked clocks).perform (Prog.lift (jsonBody extractors .reference request) >>= fun reference =>
        authorizeRef request .user action reference >>= work reference) right) := by
  cases jsonBody extractors .reference request with
  | error refusal => exact ⟨.error _, same⟩
  | ok reference =>
      change Resembles _ _ (run _ (authorizeRef request .user action reference >>= work reference) left)
        (run _ (authorizeRef request .user action reference >>= work reference) right)
      rw [run_bind, run_bind]
      refine resembles_bind _ _ _ _ _ _ _ _ _
        (authorize_ref_alike likeness service clocks tenant subject request speaks action reference left right same) ?_
      rintro principal _ first second _ _ ⟨rfl, who⟩ after
      exact works reference principal first second who after

variable (timed : ∀ calls, likeness.clocks (service.clocks calls) (clocks calls))
include timed

theorem serve_alike (user : request.route.family = .user) (left right : Serving)
    (same : likeness.Servings tenant subject left right) :
    Resembles (likeness.Servings tenant subject) likeness.Replies (run service.perform (serve extractors request) left)
      (run (service.clocked clocks).perform (serve extractors request) right) := by
  rw [serve]
  split
  · exact ⟨.error _, same⟩
  obtain ⟨route, authorization, contentLength, segments, body⟩ := request
  cases route with
  | userList =>
      change Resembles _ _ (run _ (userList _) _) (run _ (userList _) _)
      rw [userList, run_bind, run_bind]
      refine resembles_bind _ _ _ _ _ _ _ _ _ (authorize_alike likeness service clocks tenant subject _ speaks _ left right same) ?_
      rintro principal _ first second _ _ ⟨rfl, rfl, rfl⟩ after
      rw [run_bind, run_bind]
      refine resembles_bind _ _ _ _ _ _ _ _ _ (list_alike likeness service clocks _ _ first second after) ?_
      rintro _ _ _ _ _ _ ⟨rfl, rfl⟩ last
      exact ⟨.ok _ _ (.secrets _ _ (likeness.listing _ _ after.rows)), last⟩
  | userDetail =>
      refine read_reference_alike likeness service clocks extractors tenant subject _ speaks _ _ ?_ left right same
      rintro reference principal first second ⟨rfl, rfl⟩ after
      rw [run_bind, run_bind]
      refine resembles_bind _ _ _ _ _ _ _ _ _ (list_alike likeness service clocks _ _ first second after) ?_
      rintro _ _ _ _ _ _ ⟨rfl, rfl⟩ last
      rcases find_alike likeness first.world second.world principal.tenant principal.subject reference after.rows with
        ⟨left, right⟩ | ⟨metadata, other, left, right, alike⟩
      · rw [left, right]
        exact ⟨.error _, last⟩
      · rw [left, right]
        exact ⟨.ok _ _ (.metadata _ _ alike), last⟩
  | userRevoke =>
      refine read_reference_alike likeness service clocks extractors tenant subject _ speaks _ _ ?_ left right same
      rintro reference principal first second who after
      rw [run_bind, run_bind]
      refine resembles_bind _ _ _ _ _ _ _ _ _
        (assert_owner_alike likeness service clocks tenant subject principal who first second after reference) ?_
      rintro _ _ _ _ asserted _ held last
      obtain ⟨rfl, _⟩ := assert_owner_ok service first _ principal reference _ asserted
      rw [run_bind, run_bind]
      refine resembles_bind _ _ _ _ _ _ _ _ _
        (revoke_alike likeness service clocks tenant subject timed _ _ last reference principal.subject held) ?_
      rintro metadata other _ _ _ _ alike done
      exact ⟨.ok _ _ (.metadata _ _ alike), done⟩
  | userDelete =>
      refine read_reference_alike likeness service clocks extractors tenant subject _ speaks _ _ ?_ left right same
      rintro reference principal first second who after
      rw [run_bind, run_bind]
      refine resembles_bind _ _ _ _ _ _ _ _ _
        (assert_owner_alike likeness service clocks tenant subject principal who first second after reference) ?_
      rintro _ _ _ _ asserted _ held last
      obtain ⟨rfl, _⟩ := assert_owner_ok service first _ principal reference _ asserted
      rw [run_bind, run_bind]
      refine resembles_bind _ _ _ _ _ _ _ _ _
        (delete_alike likeness service clocks tenant subject _ _ last reference principal.subject held) ?_
      rintro _ _ _ _ _ _ _ done
      exact ⟨.ok _ _ .noContent, done⟩
  | _ => cases user

omit speaks in
theorem serve_all_alike (requests : List HttpRequest) (users : ∀ request ∈ requests, request.route.family = .user)
    (speakers : ∀ request ∈ requests, service.Speaks tenant subject request) (left right : Serving)
    (same : likeness.Servings tenant subject left right) :
    List.Forall₂ (SameOutcome likeness.Replies) (service.serveAll extractors requests left).1
      ((service.clocked clocks).serveAll extractors requests right).1 := by
  induction requests generalizing left right with
  | nil => exact .nil
  | cons request rest ih =>
      obtain ⟨answers, after⟩ := serve_alike likeness service clocks extractors tenant subject request
        (speakers request (by simp)) timed (users request (by simp)) left right same
      exact .cons answers (ih (fun other member => users other (by simp [member]))
        (fun other member => speakers other (by simp [member])) _ _ after)

end Serving

-- What is not the subject's is as it was: the records, those that are not there
-- among them, and the versions.
structure Spares (tenant subject : String) (before after : World) : Prop where
  records : ∀ reference, (∀ row ∈ before.owned tenant subject, row.reference ≠ reference) →
    after.secrets.find reference = before.secrets.find reference
  versions : ∀ version, (∀ row ∈ before.owned tenant subject, row.id ≠ version.secretId) →
    (version ∈ after.versions.rows ↔ version ∈ before.versions.rows)
  kept : ∀ row ∈ after.owned tenant subject, ∃ old ∈ before.owned tenant subject,
    old.reference = row.reference ∧ old.id = row.id

def sparing (tenant subject : String) : Frame Serving where
  rel before after := Spares tenant subject before.world after.world
  refl state := ⟨fun _ _ => rfl, fun _ _ => Iff.rfl, fun row member => ⟨row, member, rfl, rfl⟩⟩
  trans first middle last start finish := {
    records := fun reference foreign => by
      have later : ∀ row ∈ middle.world.owned tenant subject, row.reference ≠ reference := by
        intro row member named
        obtain ⟨old, there, same, _⟩ := start.kept row member
        exact foreign old there (same.trans named)
      exact (finish.records reference later).trans (start.records reference foreign)
    versions := fun version foreign => by
      have later : ∀ row ∈ middle.world.owned tenant subject, row.id ≠ version.secretId := by
        intro row member named
        obtain ⟨old, there, _, same⟩ := start.kept row member
        exact foreign old there (same.trans named)
      exact (finish.versions version later).trans (start.versions version foreign)
    kept := fun row member => by
      obtain ⟨between, there, named, numbered⟩ := finish.kept row member
      obtain ⟨old, before, first, second⟩ := start.kept between there
      exact ⟨old, before, first.trans named, second.trans numbered⟩ }

section Sparing
variable (service : Service) (extractors : Extractors) (tenant subject : String) (state : Serving)

theorem spares_same (before after : World) (secrets : after.secrets = before.secrets) (versions : after.versions = before.versions) :
    Spares tenant subject before after := by
  have rows : after.owned tenant subject = before.owned tenant subject := by
    rw [World.owned, World.matching, secrets]
    rfl
  refine ⟨fun _ _ => by rw [secrets], fun _ _ => by rw [versions], fun row member => ⟨row, ?_, rfl, rfl⟩⟩
  rwa [rows] at member

theorem spares_revoking (world : World) (row : SecretRow) (member : row ∈ world.owned tenant subject) (now : Int) (actor : String) :
    Spares tenant subject world
      (auditing (world.revoking row.reference now) row.reference.tenant (some row.id) actor .revoke) := by
  refine ⟨fun reference foreign => ?_, fun _ _ => Iff.rfl, fun changed there => ?_⟩
  · rw [auditing, find_revoking, if_neg (foreign row member)]
  · have among : changed ∈ (world.revoking row.reference now).owned tenant subject := there
    rw [owned_revoking] at among
    obtain ⟨old, before, rfl⟩ := List.mem_map.mp among
    refine ⟨old, before, ?_⟩
    unfold SecretRow.revokedIf
    split <;> exact ⟨rfl, rfl⟩

theorem spares_drop (world : World) (row : SecretRow) (member : row ∈ world.owned tenant subject) (actor : String) :
    Spares tenant subject world (auditing (world.dropSecret row) row.reference.tenant (some row.id) actor .delete) := by
  refine ⟨fun reference foreign => ?_, fun version foreign => ?_, fun left there => ?_⟩
  · rw [auditing, find_drop_secret, if_neg (foreign row member)]
  · rw [auditing, World.dropSecret, Table.discard_rows, List.mem_filter]
    simp [(foreign row member).symm]
  · have among : left ∈ (world.dropSecret row).owned tenant subject := there
    rw [owned_drop_secret] at among
    exact ⟨left, (List.mem_filter.mp among).1, rfl, rfl⟩

theorem verify_spares (prog : Handler Principal) (asks : prog.Asks UserVerify) :
    Within (sparing tenant subject) (run service.perform prog) := by
  refine within_run service.perform (sparing tenant subject) UserVerify (fun call state asked => ?_) prog asks
  cases call with
  | store call => cases asked
  | verify family token => exact spares_same tenant subject _ _ rfl rfl

theorem list_spares : (sparing tenant subject).rel state
    (run service.perform (callStore (.list tenant (some subject))) state).2 := by
  rw [run_list]
  exact spares_same tenant subject _ _ rfl rfl

theorem assert_owner_spares (principal : Principal) (who : principal.tenant = tenant ∧ principal.subject = subject)
    (reference : SecretRef) : (sparing tenant subject).rel state (run service.perform (assertOwner principal reference) state).2 := by
  obtain ⟨rfl, rfl⟩ := who
  rw [assertOwner, run_bind]
  refine within_at_bind _ _ _ _ (list_spares service _ _ state) fun rows middle _ => ?_
  rw [run_ensure]
  exact within_ensure _ _ _ middle

theorem change_spares (call : StoreCall) (reference : SecretRef) (actor : String) (row : SecretRow)
    (found : state.world.secrets.find reference = some row) (owner : row.ownerSubject = subject) (inTenant : tenant = reference.tenant)
    (made : call = .revoke reference actor ∨ call = .delete reference actor) :
    (sparing tenant subject).rel state (run service.perform (callStore call) state).2 := by
  have named := Table.find_key _ _ _ found
  subst named
  have member : row ∈ state.world.owned tenant subject := (mem_owned _ _ _ _).mpr ⟨found, inTenant.symm, owner⟩
  rw [run_call_store]
  rcases made with rfl | rfl
  · change Spares tenant subject state.world (revoke _ _ _ _ _).2
    rw [revoke_run _ _ _ _ _ row found]
    split
    · exact spares_revoking tenant subject _ row member _ actor
    · exact spares_same tenant subject _ _ rfl rfl
  · change Spares tenant subject state.world (delete _ _ _ _).2
    rw [delete_run _ _ _ _ row found]
    split
    · exact spares_drop tenant subject _ row member actor
    · exact spares_same tenant subject _ _ rfl rfl

variable (request : HttpRequest) (speaks : service.Speaks tenant subject request)
include speaks

theorem read_reference_spares (action : String) (work : SecretRef → Principal → Handler Reply)
    (works : ∀ reference principal middle, principal.tenant = tenant ∧ principal.subject = subject → tenant = reference.tenant →
      (sparing tenant subject).rel middle (run service.perform (work reference principal) middle).2) :
    (sparing tenant subject).rel state
      (run service.perform (Prog.lift (jsonBody extractors .reference request) >>= fun reference =>
        authorizeRef request .user action reference >>= work reference) state).2 := by
  cases jsonBody extractors .reference request with
  | error refusal => exact (sparing tenant subject).refl state
  | ok reference =>
      change (sparing tenant subject).rel state (run _ (authorizeRef request .user action reference >>= work reference) state).2
      rw [run_bind]
      refine within_at_bind _ _ _ _ ?_ fun principal middle authorized => ?_
      · refine verify_spares service tenant subject _ ?_ state
        exact Prog.asks_bind _ _ _ (authorize_verifies request action) fun _ => Prog.asks_bind _ _ _ (ensure_asks _ _ _) fun _ => trivial
      · obtain ⟨⟨token, carried, verified⟩, same, _⟩ := run_authorize_ref_ok service request _ _ _ _ _ _ authorized
        have who := speaks token carried state.calls principal verified
        exact works reference principal middle who (who.1.symm.trans same)

theorem serve_spares (user : request.route.family = .user) :
    (sparing tenant subject).rel state (run service.perform (serve extractors request) state).2 := by
  rw [serve]
  split
  · exact (sparing tenant subject).refl state
  obtain ⟨route, authorization, contentLength, segments, body⟩ := request
  have changes (call : SecretRef → String → StoreCall)
      (made : ∀ reference actor, call reference actor = .revoke reference actor ∨ call reference actor = .delete reference actor)
      (reference : SecretRef) (principal : Principal) (middle : Serving)
      (reply : (call reference principal.subject).Answer → Reply)
      (who : principal.tenant = tenant ∧ principal.subject = subject) (same : tenant = reference.tenant) :
      (sparing tenant subject).rel middle (run service.perform (assertOwner principal reference >>= fun _ =>
        callStore (call reference principal.subject) >>= fun answer => pure (reply answer)) middle).2 := by
    rw [run_bind]
    refine within_at_bind _ _ _ _ (assert_owner_spares service tenant subject middle principal who reference) ?_
    intro _ last asserted
    obtain ⟨rfl, row, found, owner⟩ := assert_owner_ok service middle last principal reference _ asserted
    rw [run_bind]
    refine within_at_bind _ _ _ _ ?_ fun _ _ _ => (sparing tenant subject).refl _
    exact change_spares service tenant subject _ _ reference principal.subject row found (owner.trans who.2) same (made _ _)
  cases route with
  | userList =>
      change (sparing tenant subject).rel state (run _ (userList _) _).2
      rw [userList, run_bind]
      refine within_at_bind _ _ _ _ (verify_spares service tenant subject _ (authorize_verifies _ _) state) ?_
      intro principal middle authorized
      obtain ⟨token, carried, verified, _⟩ := run_authorize_ok service _ _ _ _ _ _ authorized
      obtain ⟨rfl, rfl⟩ := speaks token carried state.calls principal verified
      rw [run_bind]
      exact within_at_bind _ _ _ _ (list_spares service _ _ middle) fun _ _ _ => (sparing _ _).refl _
  | userDetail =>
      refine read_reference_spares service extractors tenant subject state _ speaks _ _ ?_
      rintro reference principal middle ⟨rfl, rfl⟩ _
      rw [run_bind]
      refine within_at_bind _ _ _ _ (list_spares service _ _ middle) fun rows last _ => ?_
      split <;> exact (sparing _ _).refl _
  | userRevoke =>
      refine read_reference_spares service extractors tenant subject state _ speaks _ _ ?_
      intro reference principal middle who same
      exact changes .revoke (fun _ _ => .inl rfl) reference principal middle .metadata who same
  | userDelete =>
      refine read_reference_spares service extractors tenant subject state _ speaks _ _ ?_
      intro reference principal middle who same
      exact changes .delete (fun _ _ => .inr rfl) reference principal middle (fun _ => .noContent) who same
  | _ => cases user

omit speaks in
theorem serve_all_spares (requests : List HttpRequest) (users : ∀ request ∈ requests, request.route.family = .user)
    (speakers : ∀ request ∈ requests, service.Speaks tenant subject request) :
    Spares tenant subject state.world (service.serveAll extractors requests state).2.world := by
  induction requests generalizing state with
  | nil => exact (sparing tenant subject).refl state
  | cons request rest ih =>
      have here := serve_spares service extractors tenant subject state request (speakers request (by simp)) (users request (by simp))
      exact (sparing tenant subject).trans _ _ _ here (ih _ (fun other member => users other (by simp [member]))
        fun other member => speakers other (by simp [member]))

end Sparing
theorem exact_replies (left right : List (Except Refusal Reply))
    (same : List.Forall₂ (SameOutcome Likeness.exact.Replies) left right) : left = right := by
  induction same with
  | nil => rfl
  | cons here _ ih =>
      rw [ih]
      refine congrArg (· :: _) ?_
      cases here with
      | error refusal => rfl
      | ok first second alike =>
          cases alike with
          | secrets first second same => exact congrArg (fun list => Except.ok (Reply.secrets list)) same
          | metadata first second same => exact congrArg (fun metadata => Except.ok (Reply.metadata metadata)) same
          | noContent => rfl

def World.without (world : World) (reference : SecretRef) : World :=
  { world with secrets := world.secrets.discard fun row => decide (row.reference = reference) }

theorem owned_without (world : World) (tenant subject : String) (reference : SecretRef)
    (foreign : ∀ row ∈ world.owned tenant subject, row.reference ≠ reference) :
    (world.without reference).owned tenant subject = world.owned tenant subject := by
  have rest : (world.without reference).owned tenant subject =
      (world.owned tenant subject).filter fun row => !decide (row.reference = reference) := by
    rw [World.owned, World.matching, World.without, Table.discard_rows, List.filter_filter, World.owned, World.matching,
      List.filter_filter]
    exact List.filter_congr fun _ _ => Bool.and_comm _ _
  rw [rest, List.filter_eq_self]
  intro row member
  simp [foreign row member]

/-- Two stores that agree on a subject's records answer its requests alike, for any clocks
but for the times and what they order; for the same clocks and row order, the very same.
So a reference that is not its own might as well not be there, and is left alone. -/
theorem no_existence_oracle (service : Service) (clocks : Nat → Clock) (extractors : Extractors) (tenant subject : String)
    (requests : List HttpRequest) (left right : Serving) (users : ∀ request ∈ requests, request.route.family = .user)
    (speakers : ∀ request ∈ requests, service.Speaks tenant subject request)
    (agree : Likeness.untimed.Servings tenant subject left right) :
    List.Forall₂ (SameOutcome Likeness.untimed.Replies) (service.serveAll extractors requests left).1
      ((service.clocked clocks).serveAll extractors requests right).1 ∧
    (left.world.owned tenant subject = right.world.owned tenant subject →
      (service.serveAll extractors requests left).1 = (service.serveAll extractors requests right).1) ∧
    (∀ reference, (∀ row ∈ left.world.owned tenant subject, row.reference ≠ reference) →
      (service.serveAll extractors requests ⟨left.world.without reference, left.calls⟩).1 =
        (service.serveAll extractors requests left).1) ∧
    Spares tenant subject left.world (service.serveAll extractors requests left).2.world ∧
    Spares tenant subject right.world ((service.clocked clocks).serveAll extractors requests right).2.world := by
  have exactly (first second : Serving) (same : Likeness.exact.Servings tenant subject first second) :
      (service.serveAll extractors requests first).1 = (service.serveAll extractors requests second).1 :=
    exact_replies _ _ (serve_all_alike Likeness.exact service service.clocks extractors tenant subject (fun _ => rfl) requests
      users speakers first second same)
  refine ⟨?_, fun same => exactly left right ⟨same, agree.calls⟩, fun reference foreign => ?_, ?_, ?_⟩
  · exact serve_all_alike Likeness.untimed service clocks extractors tenant subject (fun _ => trivial) requests users speakers
      left right agree
  · exact exactly _ _ ⟨owned_without left.world tenant subject reference foreign, rfl⟩
  · exact serve_all_spares service extractors tenant subject left requests users speakers
  · exact serve_all_spares (service.clocked clocks) extractors tenant subject right requests users speakers

namespace Sample

def strangerService : Service where
  platform := countingPlatform
  store := oldStore
  clocks _ := clockAt 3
  userAuthority _ _ := .ok ⟨"user:two", "t", ["*"]⟩
  workloadAuthority _ _ := .error .unauthorized

def onReference (route : Route) : HttpRequest := ⟨route, bearerToken, none, ([], []), referenceCodec.print reference⟩

def strangerRequests : List HttpRequest :=
  [onReference .userDetail, onReference .userRevoke, onReference .userDelete, listOwn]

def revokedForeign : World :=
  (revoke countingPlatform (clockAt 2) reference "user:one"
    (put countingPlatform oldStore (clockAt 1) (secret .workloadOnly 1) World.empty).2).2

end Sample

theorem revoked_of_another_as_absent :
    (Sample.strangerService.serveAll wireExtractors Sample.strangerRequests ⟨Sample.revokedForeign, 0⟩).1 =
      (Sample.strangerService.serveAll wireExtractors Sample.strangerRequests ⟨World.empty, 0⟩).1 := by
  have none : Sample.revokedForeign.owned "t" "user:two" = [] := by decide
  refine (no_existence_oracle Sample.strangerService Sample.strangerService.clocks wireExtractors "t" "user:two"
    Sample.strangerRequests ⟨Sample.revokedForeign, 0⟩ ⟨World.empty, 0⟩ ?_ ?_ ⟨?_, rfl⟩).2.1 none
  · intro request member
    simp only [Sample.strangerRequests, List.mem_cons, List.not_mem_nil, or_false] at member
    rcases member with rfl | rfl | rfl | rfl <;> rfl
  · intro request _ token _ calls principal verified
    cases verified
    exact ⟨rfl, rfl⟩
  · change ((Sample.revokedForeign.owned "t" "user:two").map SecretRow.untimed).Perm _
    rw [none]
    exact .nil

end Secrets
