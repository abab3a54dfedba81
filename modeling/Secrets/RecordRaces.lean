import Secrets.RecordPuts
import Secrets.Rewrap

set_option autoImplicit false

namespace Secrets

open Programs RowLocks

namespace RecordCalls

section Spec
variable (store : PostgresStore) (clock : Clock)

def Kept.revoked (kept : Kept) : Kept := { kept with row := kept.row.revokedAt clock.transaction }

def effect (entry : Draw × Mutation) (old : Option Kept) : Option Kept :=
  match entry.2 with
  | .put input => some (Kept.put store clock entry.1 input old)
  | .delete _ => none

def touches (reference : SecretRef) (mutations : List (Draw × Mutation)) : Bool :=
  mutations.any fun entry => decide (entry.2.reference = reference)

structure Proper (entry : Draw × Mutation) (now : Option Kept) : Prop where
  whole : ∀ kept, effect store clock entry now = some kept → Whole entry.2.reference kept
  found : ∀ reference, entry.2 = .delete reference → now.isSome = true

def mutated (entry : Draw × Mutation) (records : Records) : Records :=
  Function.update records entry.2.reference (effect store clock entry (records entry.2.reference))

def auditOf (actor : String) (entry : Draw × Mutation) (found : Option Kept) : AuditRow :=
  match entry.2 with
  | .put input => ⟨input.reference.tenant, some (nextVersion (found.map Kept.row) entry.1).1, actor, .put⟩
  | .delete reference => ⟨reference.tenant, found.map fun kept => kept.row.id, actor, .delete⟩

def auditsOf (actor : String) : Records → List (Draw × Mutation) → List AuditRow
  | _, [] => []
  | records, entry :: rest => auditOf actor entry (records entry.2.reference) :: auditsOf actor (mutated store clock entry records) rest

theorem audits_snoc (actor : String) (records : Records) (done : List (Draw × Mutation)) (entry : Draw × Mutation) :
    auditsOf store clock actor records (done ++ [entry]) = auditsOf store clock actor records done ++
      [auditOf actor entry ((done.foldl (fun records entry => mutated store clock entry records) records) entry.2.reference)] := by
  induction done generalizing records with
  | nil => rfl
  | cons first rest ih => rw [List.cons_append, auditsOf, ih, auditsOf, List.cons_append, List.foldl_cons]

def effects (reference : SecretRef) (mutations : List (Draw × Mutation)) (old : Option Kept) : Option Kept :=
  (mutations.filter fun entry => decide (entry.2.reference = reference)).foldl (fun record entry => effect store clock entry record) old

theorem effects_snoc_own (reference : SecretRef) (done : List (Draw × Mutation)) (entry : Draw × Mutation)
    (same : entry.2.reference = reference) (old : Option Kept) :
    effects store clock reference (done ++ [entry]) old = effect store clock entry (effects store clock reference done old) := by
  unfold effects
  rw [List.filter_append, List.foldl_append, List.filter_singleton, decide_eq_true same]
  rfl

theorem effects_snoc_other (reference : SecretRef) (done : List (Draw × Mutation)) (entry : Draw × Mutation)
    (apart : entry.2.reference ≠ reference) (old : Option Kept) :
    effects store clock reference (done ++ [entry]) old = effects store clock reference done old := by
  unfold effects
  rw [List.filter_append, List.filter_singleton, decide_eq_false apart]
  exact congrArg _ (List.append_nil _)

theorem effects_folded (records : Records) (done : List (Draw × Mutation)) (reference : SecretRef) :
    (done.foldl (fun records entry => mutated store clock entry records) records) reference =
      effects store clock reference done (records reference) := by
  induction done using List.reverseRecOn with
  | nil => rfl
  | append_singleton done entry ih =>
      rw [List.foldl_append, List.foldl_cons, List.foldl_nil, mutated]
      by_cases same : entry.2.reference = reference
      · subst same
        rw [effects_snoc_own store clock _ done entry rfl, Function.update_self, ih]
      · rw [effects_snoc_other store clock reference done entry same, Function.update_of_ne (Ne.symm same), ih]

theorem effects_untouched (reference : SecretRef) (done : List (Draw × Mutation)) (untouched : touches reference done = false)
    (old : Option Kept) : effects store clock reference done old = old := by
  unfold effects
  rw [List.filter_eq_nil_iff.mpr]
  · rfl
  · intro entry member
    exact (List.any_eq_false.mp untouched) entry member

end Spec

theorem touches_snoc (reference : SecretRef) (done : List (Draw × Mutation)) (entry : Draw × Mutation) :
    touches reference (done ++ [entry]) = (touches reference done || decide (entry.2.reference = reference)) := by
  unfold touches
  rw [List.any_append, List.any_cons, List.any_nil, Bool.or_false]

def Renewed (first second : VersionRow) : Prop := second.address = first.address ∧ SameVersion first second

-- The same record, some of its versions resealed.
structure SameKept (old new : Kept) : Prop where
  row : new.row = old.row
  versions : List.Forall₂ Renewed old.versions new.versions

abbrev Version : Type := SecretRow × VersionRow

def visit (entry : Version) : SecretRef × Int := (entry.1.reference, entry.2.version)

def auditOfRewrap (actor : String) (entry : Version) : AuditRow := ⟨entry.1.reference.tenant, some entry.1.id, actor, .rewrap⟩

-- A version that holds what it held, sealed anew if it was chosen and as it was if not.
structure Resealed (keyring : Keyring) (chosen : Prop) (first second : VersionRow) : Prop where
  renewed : Renewed first second
  fresh : chosen → FreshlySealed keyring second.envelope
  kept : ¬chosen → second = first

structure ResealedKept (keyring : Keyring) (entries : List Version) (old new : Kept) : Prop where
  row : new.row = old.row
  versions : List.Forall₂ (fun first second => Resealed keyring ((old.row, first) ∈ entries) first second) old.versions new.versions

-- A rewrap reseals the stale versions of its scan that it found, and notes each once.
structure Rewraps (store : PostgresStore) (visited : Scan) (actor : String) (entries : List Version) (before : Records) (what : Done) : Prop where
  listed : (entries.map visit).Sublist visited.rows
  stale : ∀ entry ∈ entries, ∃ kept, before entry.1.reference = some kept ∧ kept.row = entry.1 ∧ entry.2 ∈ kept.versions ∧
    entry.2.envelope.keyId ≠ store.keyring.active
  written : ∀ entry ∈ entries, (what.rows entry.1.reference).isSome = true
  rows : ∀ reference now, what.rows reference = some now → ∃ old new, before reference = some old ∧ now = some new ∧
    ResealedKept store.keyring entries old new
  notes : what.notes = entries.map (auditOfRewrap actor)

inductive Lawful (task : Task) (before : Records) (what : Done) : Prop where
  | puts (store : PostgresStore) (clock : Clock) (drawn : Draw) (input : PutSecret) (called : task = .put store clock drawn input)
      (rows : what.rows = only input.reference (some (Kept.put store clock drawn input (before input.reference))))
      (notes : what.notes =
        [⟨input.reference.tenant, some (putVersion store drawn input (before input.reference)).secretId, input.ownerSubject, .put⟩])
  | deletes (reference : SecretRef) (actor : String) (kept : Kept) (called : task = .delete reference actor)
      (found : before reference = some kept) (rows : what.rows = only reference none)
      (notes : what.notes = [⟨reference.tenant, some kept.row.id, actor, .delete⟩])
  | revokes (clock : Clock) (reference : SecretRef) (actor : String) (kept : Kept) (called : task = .revoke clock reference actor)
      (found : before reference = some kept) (rows : what.rows = only reference (some (kept.revoked clock)))
      (notes : what.notes = [⟨reference.tenant, some kept.row.id, actor, .revoke⟩])
  | applies (store : PostgresStore) (clock : Clock) (tenant actor : String) (mutations : List (Draw × Mutation))
      (called : task = .applyBatch store clock tenant actor mutations)
      (rows : ∀ reference, what.rows reference =
        if touches reference mutations then some (effects store clock reference mutations (before reference)) else none)
      (proper : ∀ earlier entry later, mutations = earlier ++ entry :: later →
        Proper store clock entry (effects store clock entry.2.reference earlier (before entry.2.reference)))
      (notes : what.notes = auditsOf store clock actor before mutations ++ [⟨tenant, none, actor, .commitBatch⟩])
  | rewraps (store : PostgresStore) (drawn : SecretRef → Int → Draw) (visited : Scan) (actor : String) (entries : List Version)
      (called : task = .rewrapVersions store drawn visited actor) (rewraps : Rewraps store visited actor entries before what)

def Task.Replies : Task → Reply → Done → Prop
  | .put _ _ _ input, .metadata metadata, what => ∃ kept, what.rows input.reference = some (some kept) ∧ metadata = kept.row.metadata
  | .revoke _ reference _, .metadata metadata, what => ∃ kept, what.rows reference = some (some kept) ∧ metadata = kept.row.metadata
  | .delete _ _, .done, _ => True
  | .applyBatch _ _ _ _ _, .done, _ => True
  | .rewrapVersions _ _ _ _, .count rows, what => rows = what.notes.length
  | _, _, _ => False

def Task.Ends (platform : Platform) (terms : Terms SecretRef Kept) (task : Task) : Except StoreError Reply → List Done → Prop
  | .ok reply, settled => ∃ what, settled = [what] ∧ task.Replies reply what
  | .error _, settled => settled = [] ∧ ∀ store clock drawn input, task = .put store clock drawn input →
      Hindered platform terms store Phase.start input input.ownerSubject

def law (task : Task) : Law SecretRef Kept AuditRow := fun earlier before what =>
  earlier = [] ∧ Lawful task before what ∧ ∀ reference kept, what.rows reference = some (some kept) → Whole reference kept

theorem fine_leaves (live : Stage) (fine : Fine live) (reference : SecretRef) (kept : Kept)
    (left : live.leaves.rows reference = some (some kept)) : Whole reference kept := by
  obtain ⟨claim, claimed, now⟩ := Option.map_eq_some_iff.mp left
  apply fine reference claim.1 kept
  rw [claimed, ← now]

section Singles
variable (platform : Platform) (terms : Terms SecretRef Kept) (wholesome : Wholesome terms) (task : Task)

theorem fine_start : Fine (Phase.start : Stage) := by
  intro _ _ _ claimed
  cases claimed

theorem lawful_turned (live : Stage) (fine : Fine live) (reference : SecretRef) (now later : Option Kept) (added : List AuditRow)
    (turned : Turned Phase.start live reference now later added)
    (lawful : ∀ before : Records, before reference = now → Lawful task before ⟨only reference later, added⟩) : live.Lawful (law task) := by
  intro before based
  refine ⟨turned.settled, ?_, fine_leaves live fine⟩
  rw [turned_leaves [] live reference now later added turned]
  exact lawful before (turned_found [] live reference now later added turned before based)

def DeleteEnds (phase : Stage) (reference : SecretRef) (actor : String) : Except StoreError Unit → Stage → Prop
  | .ok _, live => ∃ kept, Turned phase live reference (some kept) none [⟨reference.tenant, some kept.row.id, actor, .delete⟩]
  | .error _, live => live.settled = phase.settled

theorem delete_meets (law : Law SecretRef Kept AuditRow) (phase : Stage) (reference : SecretRef) (actor : String) :
    Meets terms law (deleteTx platform reference actor) (DeleteEnds phase reference actor) phase := by
  apply meets_bind
  apply meets_text
  · intro _
    apply meets_bind
    apply meets_statement
    · exact fun _ => rfl
    · intro _
      exact meets_stop _ _ _ _ _ rfl
    · intro kept _ finds
      apply meets_audit
      · exact fun _ => rfl
      · exact ⟨kept, turned_noted phase _ reference (some kept) none [] (turned_claim terms phase reference (some kept) none finds) _⟩
  · exact fun _ => rfl

theorem whole_revoked (clock : Clock) (reference : SecretRef) (kept : Kept) (whole : Whole reference kept) :
    Whole reference (kept.revoked clock) := ⟨whole.placed, whole.numbered, whole.latest, whole.some⟩

def RevokeEnds (clock : Clock) (phase : Stage) (reference : SecretRef) (actor : String) : Except StoreError SecretMetadata → Stage → Prop
  | .ok metadata, live => ∃ kept, Turned phase live reference (some kept) (some (kept.revoked clock))
      [⟨reference.tenant, some kept.row.id, actor, .revoke⟩] ∧ metadata = (kept.revoked clock).row.metadata ∧ Fine live
  | .error _, live => live.settled = phase.settled

include wholesome in
theorem revoke_meets (law : Law SecretRef Kept AuditRow) (clock : Clock) (phase : Stage) (fine : Fine phase)
    (reference : SecretRef) (actor : String) :
    Meets terms law (revokeTx platform clock reference actor) (RevokeEnds clock phase reference actor) phase := by
  apply meets_bind
  apply meets_text
  · intro _
    apply meets_bind
    apply meets_statement
    · exact fun _ => rfl
    · intro _
      exact meets_stop _ _ _ _ _ rfl
    · intro kept _ finds
      have claims := turned_claim terms phase reference (some kept) (some (kept.revoked clock)) finds
      apply meets_bind
      apply meets_audit
      · exact fun _ => rfl
      · have turned := turned_noted phase _ reference (some kept) _ [] claims ⟨reference.tenant, some kept.row.id, actor, .revoke⟩
        obtain ⟨was, claimed, _⟩ := turned.own
        apply meets_metadata _ _ _ _ reference (kept.revoked clock) was claimed
        · exact fun _ => rfl
        · refine ⟨kept, turned, rfl, ?_⟩
          apply turned_fine phase _ fine reference (some kept) (kept.revoked clock) _ turned
          exact whole_revoked clock reference kept (found_whole terms wholesome phase fine reference kept finds)
  · exact fun _ => rfl

end Singles

section Batches
variable (platform : Platform) (terms : Terms SecretRef Kept) (wholesome : Wholesome terms) (law : Law SecretRef Kept AuditRow)
  (store : PostgresStore) (clock : Clock) (actor : String)

def MutationEnds (phase : Stage) (entry : Draw × Mutation) : Except StoreError Unit → Stage → Prop
  | .ok _, live => ∃ now, Turned phase live entry.2.reference now (effect store clock entry now) [auditOf actor entry now] ∧
      Proper store clock entry now
  | .error _, live => live.settled = phase.settled

include wholesome in
theorem mutation_meets (phase : Stage) (fine : Fine phase) (entry : Draw × Mutation) :
    Meets terms law (applyMutation platform store clock actor entry.1 entry.2) (MutationEnds store clock actor phase entry) phase := by
  obtain ⟨drawn, mutation⟩ := entry
  cases mutation with
  | put input =>
      apply meets_bind
      apply meets_mono _ _ _ _ _ _ _ (put_meets platform terms law store clock wholesome phase fine drawn input actor)
      intro ended live put
      cases ended with
      | error error => exact put.1
      | ok metadata =>
          obtain ⟨now, turned, _, whole⟩ := put
          apply meets_done
          refine ⟨now, turned, ⟨?_, fun _ impossible => (by cases impossible)⟩⟩
          intro kept same
          cases same
          exact whole
  | delete reference =>
      apply meets_relabel
      apply meets_mono _ _ _ _ _ _ _ (delete_meets platform terms law phase reference actor)
      intro ended live gone
      cases ended with
      | error error => exact gone
      | ok done =>
          obtain ⟨kept, turned⟩ := gone
          exact ⟨some kept, turned, ⟨fun _ impossible => (by cases impossible), fun _ _ => rfl⟩⟩

structure Applying (settled : List Done) (done : List (Draw × Mutation)) (live : Stage) : Prop where
  settled : live.settled = settled
  fine : Fine live
  claimed : ∀ reference was now, live.claims reference = some (was, now) →
    touches reference done = true ∧ now = effects store clock reference done was
  unclaimed : ∀ reference, live.claims reference = none → touches reference done = false
  proper : ∀ earlier entry later, done = earlier ++ entry :: later → ∀ was now, live.claims entry.2.reference = some (was, now) →
    Proper store clock entry (effects store clock entry.2.reference earlier was)
  notes : ∀ before : Records, (∀ reference was now, live.claims reference = some (was, now) → before reference = was) →
    live.notes = auditsOf store clock actor before done

theorem applying_start (settled : List Done) : Applying store clock actor settled [] (Phase.closed settled) where
  settled := rfl
  fine _ _ _ claimed := by cases claimed
  claimed _ _ _ claimed := by cases claimed
  unclaimed _ _ := rfl
  proper earlier _ _ same := by
    obtain ⟨_, impossible⟩ := List.append_eq_nil_iff.mp same.symm
    cases impossible
  notes _ _ := rfl

theorem applying_mutation (settled : List Done) (done : List (Draw × Mutation)) (phase live : Stage) (entry : Draw × Mutation)
    (applying : Applying store clock actor settled done phase) (ends : MutationEnds store clock actor phase entry (.ok ()) live) :
    Applying store clock actor settled (done ++ [entry]) live := by
  obtain ⟨now, turned, proper⟩ := ends
  obtain ⟨first, own, earlier⟩ := turned.own
  have found : now = effects store clock entry.2.reference done first := by
    rcases earlier with known | ⟨unknown, rfl⟩
    · exact (applying.claimed _ first now known).2
    · exact (effects_untouched store clock _ done (applying.unclaimed _ unknown) first).symm
  constructor
  · exact turned.settled.trans applying.settled
  · intro reference was kept claimed
    by_cases same : reference = entry.2.reference
    · subst same
      apply proper.whole kept
      rw [own] at claimed
      exact (Prod.mk.inj (Option.some.inj claimed)).2
    · rw [turned.others reference same] at claimed
      exact applying.fine reference was kept claimed
  · intro reference was row claimed
    by_cases same : reference = entry.2.reference
    · subst same
      rw [own] at claimed
      obtain ⟨rfl, rfl⟩ := Prod.mk.inj (Option.some.inj claimed)
      constructor
      · rw [touches_snoc, decide_eq_true rfl, Bool.or_true]
      · rw [effects_snoc_own store clock _ done entry rfl, ← found]
    · rw [turned.others reference same] at claimed
      obtain ⟨touched, made⟩ := applying.claimed reference was row claimed
      constructor
      · rw [touches_snoc, touched, Bool.true_or]
      · rw [effects_snoc_other store clock _ done entry (Ne.symm same)]
        exact made
  · intro reference unclaimed
    by_cases same : reference = entry.2.reference
    · subst same
      cases own.symm.trans unclaimed
    · rw [turned.others reference same] at unclaimed
      rw [touches_snoc, applying.unclaimed reference unclaimed, decide_eq_false (Ne.symm same)]
      rfl
  · intro start other later split was row claimed
    rcases snoc_split done start later entry other split with ⟨_, rfl, rfl⟩ | ⟨rest, _, inside⟩
    · rw [own] at claimed
      obtain ⟨rfl, _⟩ := Prod.mk.inj (Option.some.inj claimed)
      rw [← found]
      exact proper
    · by_cases same : other.2.reference = entry.2.reference
      · rw [same, own] at claimed
        obtain ⟨rfl, _⟩ := Prod.mk.inj (Option.some.inj claimed)
        rcases earlier with known | ⟨unknown, _⟩
        · exact applying.proper start other rest inside first now (by rw [same]; exact known)
        · have touched : touches entry.2.reference done = true := by
            rw [inside]
            exact List.any_eq_true.mpr ⟨other, List.mem_append_right _ List.mem_cons_self, decide_eq_true same⟩
          cases touched.symm.trans (applying.unclaimed _ unknown)
      · rw [turned.others _ same] at claimed
        exact applying.proper start other rest inside was row claimed
  · intro before based
    rw [turned.notes, audits_snoc, effects_folded, based _ first _ own, ← found]
    congr 1
    apply applying.notes
    intro reference was row claimed
    by_cases same : reference = entry.2.reference
    · subst same
      rcases earlier with known | ⟨unknown, _⟩
      · rw [known] at claimed
        rw [← (Prod.mk.inj (Option.some.inj claimed)).1]
        exact based _ first _ own
      · cases unknown.symm.trans claimed
    · apply based reference was row
      rw [turned.others reference same]
      exact claimed

include wholesome in
theorem apply_batch_meets (tenant : String) (mutations : List (Draw × Mutation)) :
    Meets terms (RecordCalls.law (.applyBatch store clock tenant actor mutations)) (applyBatch platform store clock tenant actor mutations)
      (Left [] fun _ _ => True) Phase.start := by
  apply meets_transaction
  apply meets_bind
  have applied := meets_each terms (RecordCalls.law (.applyBatch store clock tenant actor mutations)) Phase.start
    (fun entry => applyMutation platform store clock actor entry.1 entry.2) (Applying store clock actor []) (fun live => live.settled = [])
    mutations ?_ [] (applying_start store clock actor [])
  · apply meets_mono _ _ _ _ _ _ _ applied
    intro ended live kept
    cases ended with
    | error error => exact kept
    | ok done =>
        have applying : Applying store clock actor [] mutations live := kept
        apply meets_audit
        · exact fun _ => applying.settled
        · refine ⟨applying.settled, ?_, trivial⟩
          intro before based
          refine ⟨applying.settled, ?_, fine_leaves _ applying.fine⟩
          apply Lawful.applies store clock tenant actor mutations rfl
          · intro reference
            change (live.claims reference).map Prod.snd = _
            cases claimed : live.claims reference with
            | none =>
                rw [applying.unclaimed reference claimed]
                rfl
            | some pair =>
                obtain ⟨touched, made⟩ := applying.claimed reference pair.1 pair.2 claimed
                rw [touched, based reference pair.1 pair.2 claimed, ← made]
                rfl
          · intro earlier entry later split
            cases claimed : live.claims entry.2.reference with
            | none =>
                have touched : touches entry.2.reference mutations = true := by
                  rw [split]
                  exact List.any_eq_true.mpr ⟨entry, List.mem_append_right _ List.mem_cons_self, decide_eq_true rfl⟩
                cases touched.symm.trans (applying.unclaimed _ claimed)
            | some pair =>
                rw [based _ pair.1 pair.2 claimed]
                exact applying.proper earlier entry later split pair.1 pair.2 claimed
          · rw [← applying.notes before based]
            rfl
  · intro done entry live _ applying
    apply meets_mono _ _ _ _ _ _ _ (mutation_meets platform terms wholesome _ store clock actor live applying.fine entry)
    intro ended after ends
    cases ended with
    | error error => exact Eq.trans ends applying.settled
    | ok finished => exact applying_mutation store clock actor [] done live after entry applying ends

end Batches

theorem renewed_refl (version : VersionRow) : Renewed version version := ⟨rfl, same_version_refl version⟩

theorem same_whole (reference : SecretRef) (old new : Kept) (whole : Whole reference old) (same : SameKept old new) : Whole reference new := by
  have lengths := same.versions.length_eq
  have addresses : new.versions.map VersionRow.address = old.versions.map VersionRow.address := by
    have pairs := same.versions
    generalize old.versions = first at pairs
    generalize new.versions = second at pairs
    induction pairs with
    | nil => rfl
    | cons here _ ih => rw [List.map_cons, List.map_cons, here.1, ih]
  constructor
  · rw [same.row]
    exact whole.placed
  · rw [addresses, whole.numbered, same.row, lengths]
  · rw [same.row, ← lengths]
    exact whole.latest
  · rw [← lengths]
    exact whole.some

theorem whole_unique (reference : SecretRef) (kept : Kept) (whole : Whole reference kept) (first second : VersionRow)
    (here : first ∈ kept.versions) (there : second ∈ kept.versions) (same : first.address = second.address) : first = second := by
  have distinct : (kept.versions.map VersionRow.address).Nodup := by
    rw [whole.numbered]
    apply List.nodup_range.map
    intro left right equal
    have numbers := congrArg Prod.snd equal
    dsimp only at numbers
    omega
  exact List.inj_on_of_nodup_map distinct here there same

theorem resealed_same (keyring : Keyring) (entries : List Version) (old new : Kept) (resealed : ResealedKept keyring entries old new) :
    SameKept old new := ⟨resealed.row, resealed.versions.imp fun _ _ pair => pair.renewed⟩

theorem resealed_refl (keyring : Keyring) (kept : Kept) : ResealedKept keyring [] kept kept := by
  refine ⟨rfl, List.forall₂_same.mpr fun version _ => ⟨renewed_refl version, ?_, fun _ => rfl⟩⟩
  intro chosen
  cases chosen

theorem resealed_none (keyring : Keyring) (old new : Kept) (resealed : ResealedKept keyring [] old new) : new = old := by
  have versions : old.versions = new.versions :=
    List.forall₂_eq_eq_eq ▸ resealed.versions.imp fun _ _ pair => (pair.kept List.not_mem_nil).symm
  obtain ⟨row, first⟩ := old
  obtain ⟨other, second⟩ := new
  cases resealed.row
  cases versions
  rfl

section Writes
variable (keyring : Keyring) (done : List Version) (entry : Version) (reference : SecretRef) (old current : Kept)
  (whole : Whole reference old) (resealed : ResealedKept keyring done old current)
include whole resealed

theorem resealed_other (apart : entry.1.reference ≠ reference) : ResealedKept keyring (done ++ [entry]) old current := by
  refine ⟨resealed.row, resealed.versions.imp ?_⟩
  intro first second pair
  have same : (old.row, first) ∈ done ++ [entry] → (old.row, first) ∈ done := by
    intro member
    rcases List.mem_append.mp member with inside | last
    · exact inside
    · cases List.mem_singleton.mp last
      exact absurd whole.placed apart
  exact ⟨pair.renewed, fun chosen => pair.fresh (same chosen), fun left => pair.kept fun inside => left (List.mem_append_left _ inside)⟩

theorem resealed_write (row : old.row = entry.1) (member : entry.2 ∈ old.versions) (envelope : Envelope)
    (same : SameContent entry.2.envelope envelope) (fresh : FreshlySealed keyring envelope) :
    ResealedKept keyring (done ++ [entry]) old (current.setVersion entry.2 envelope) := by
  have only : ∀ first ∈ old.versions, first.address = entry.2.address → first = entry.2 :=
    fun first inside here => whole_unique reference old whole first entry.2 inside member here
  refine ⟨resealed.row, ?_⟩
  apply List.forall₂_map_right_iff.mpr
  apply ((List.forall₂_and_left _ _).mpr ⟨only, resealed.versions⟩).imp
  intro first second both
  obtain ⟨unique, pair⟩ := both
  by_cases here : second.address = entry.2.address
  · rw [if_pos here]
    have own : first = entry.2 := unique (pair.renewed.1.symm.trans here)
    subst own
    have chosen : (old.row, entry.2) ∈ done ++ [entry] := by
      rw [row]
      exact List.mem_append_right _ (List.mem_singleton_self _)
    exact ⟨⟨pair.renewed.1, same⟩, fun _ => fresh, fun left => absurd chosen left⟩
  · rw [if_neg here]
    have before : (old.row, first) ∈ done ++ [entry] → (old.row, first) ∈ done := by
      intro inside
      rcases List.mem_append.mp inside with earlier | last
      · exact earlier
      · cases List.mem_singleton.mp last
        exact absurd pair.renewed.1 here
    exact ⟨pair.renewed, fun chosen => pair.fresh (before chosen), fun left => pair.kept fun inside => left (List.mem_append_left _ inside)⟩

end Writes

section Rewraps
variable (platform : Platform) (terms : Terms SecretRef Kept) (wholesome : Wholesome terms) (law : Law SecretRef Kept AuditRow)
  (store : PostgresStore) (actor : String)

structure Rewrapping (done : List Version) (live : Stage) : Prop where
  settled : live.settled = []
  fine : Fine live
  rows : ∀ reference was now, live.claims reference = some (was, now) →
    ∃ old new, was = some old ∧ now = some new ∧ Whole reference old ∧ ResealedKept store.keyring done old new
  notes : live.notes = done.map (auditOfRewrap actor)

def Locked (live : Stage) (entry : Version) : Prop :=
  ∃ old current, live.claims entry.1.reference = some (some old, some current) ∧ old.row = entry.1 ∧ entry.2 ∈ old.versions ∧
    entry.2.envelope.keyId ≠ store.keyring.active

theorem locked_claim (live : Stage) (entry : Version) (locked : Locked store live entry) (reference : SecretRef) (row new : Kept) :
    Locked store (live.claim reference (some row) (some new)) entry := by
  obtain ⟨old, current, claimed, owner, member, stale⟩ := locked
  by_cases here : entry.1.reference = reference
  · subst here
    exact ⟨old, new, claim_own live _ _ _ _ _ claimed, owner, member, stale⟩
  · exact ⟨old, current, (claim_other live reference _ _ _ here).trans claimed, owner, member, stale⟩

include wholesome in
theorem rewrapping_lock (live : Stage) (rewrapping : Rewrapping store actor [] live) (reference : SecretRef) (kept : Kept)
    (finds : live.Finds terms reference (some kept)) : Rewrapping store actor [] (live.claim reference (some kept) (some kept)) ∧
      (live.claim reference (some kept) (some kept)).claims reference = some (some kept, some kept) := by
  have whole := found_whole terms wholesome live rewrapping.fine reference kept finds
  have turned := turned_claim terms live reference (some kept) (some kept) finds
  have own : (live.claim reference (some kept) (some kept)).claims reference = some (some kept, some kept) := by
    obtain ⟨was, claims, before⟩ := turned.own
    rcases before with known | ⟨_, rfl⟩
    · obtain ⟨old, new, rfl, same, _, resealed⟩ := rewrapping.rows reference was (some kept) known
      cases same
      rw [claims, resealed_none store.keyring old kept resealed]
    · exact claims
  refine ⟨⟨rewrapping.settled, turned_fine live _ rewrapping.fine reference (some kept) kept [] turned whole, ?_, rewrapping.notes⟩, own⟩
  intro other was row claimed
  by_cases same : other = reference
  · subst same
    rw [own] at claimed
    obtain ⟨rfl, rfl⟩ := Prod.mk.inj (Option.some.inj claimed)
    exact ⟨kept, kept, rfl, rfl, whole, resealed_refl store.keyring kept⟩
  · rw [turned.others other same] at claimed
    exact rewrapping.rows other was row claimed

theorem rewrapping_write (done : List Version) (live : Stage) (rewrapping : Rewrapping store actor done live) (entry : Version)
    (locked : Locked store live entry) (kept : Kept) (finds : live.Finds terms entry.1.reference (some kept)) (envelope : Envelope)
    (same : SameContent entry.2.envelope envelope) (fresh : FreshlySealed store.keyring envelope) :
    Rewrapping store actor (done ++ [entry])
      ((live.claim entry.1.reference (some kept) (some (kept.setVersion entry.2 envelope))).noted (auditOfRewrap actor entry)) := by
  obtain ⟨old, current, claimed, owner, member, _⟩ := locked
  cases finds.1 _ _ claimed
  obtain ⟨_, _, here, there, whole, resealed⟩ := rewrapping.rows _ _ _ claimed
  cases here
  cases there
  have written := resealed_write store.keyring done entry _ old kept whole resealed owner member envelope same fresh
  have turned := turned_claim terms live entry.1.reference (some kept) (some (kept.setVersion entry.2 envelope)) finds
  refine ⟨rewrapping.settled, ?_, ?_, ?_⟩
  · exact turned_fine live _ rewrapping.fine entry.1.reference (some kept) _ _ (turned_noted live _ _ _ _ [] turned _)
      (same_whole _ old _ whole (resealed_same store.keyring _ old _ written))
  · intro other was row claims
    change (live.claim entry.1.reference (some kept) (some (kept.setVersion entry.2 envelope))).claims other = some (was, row) at claims
    by_cases same : other = entry.1.reference
    · subst same
      rw [claim_own live _ _ _ _ _ claimed] at claims
      obtain ⟨rfl, rfl⟩ := Prod.mk.inj (Option.some.inj claims)
      exact ⟨old, _, rfl, rfl, whole, written⟩
    · rw [turned.others other same] at claims
      obtain ⟨past, after, rfl, rfl, fine, before⟩ := rewrapping.rows other was row claims
      exact ⟨past, after, rfl, rfl, fine, resealed_other store.keyring done entry other past after fine before (Ne.symm same)⟩
  · change live.notes ++ [auditOfRewrap actor entry] = _
    rw [rewrapping.notes, List.map_append]
    rfl

theorem rewrapping_start : Rewrapping store actor [] (Phase.closed []) where
  settled := rfl
  fine := fine_start
  rows _ _ _ claimed := by cases claimed
  notes := rfl

def Scanned (visited : List (SecretRef × Int)) (known : List Version) : Except StoreError (List Version) → Stage → Prop
  | .ok rows, live => Rewrapping store actor [] live ∧ (∀ entry ∈ known ++ rows, Locked store live entry) ∧ (rows.map visit).Sublist visited
  | .error _, live => live.settled = []

include wholesome in
theorem select_stale_meets (visited : List (SecretRef × Int)) (known : List Version) (live : Stage)
    (rewrapping : Rewrapping store actor [] live) (locked : ∀ entry ∈ known, Locked store live entry) :
    Meets terms law (selectStale store visited) (Scanned store actor visited known) live := by
  induction visited generalizing known live with
  | nil =>
      apply meets_done
      rw [Scanned, List.append_nil]
      exact ⟨rewrapping, locked, List.Sublist.refl _⟩
  | cons place rest ih =>
      obtain ⟨reference, number⟩ := place
      apply meets_bind
      apply meets_statement
      · exact fun _ => rewrapping.settled
      · intro _
        apply meets_bind
        apply meets_mono _ _ _ _ _ _ _ (ih known live rewrapping locked)
        intro ended after scanned
        cases ended with
        | error error => exact scanned
        | ok rows => exact meets_done _ _ _ _ _ ⟨scanned.1, scanned.2.1, scanned.2.2.cons _⟩
      · intro kept stale finds
        obtain ⟨version, found⟩ := Option.isSome_iff_exists.mp stale
        have fits := List.find?_some found
        rw [Bool.and_eq_true, decide_eq_true_eq, decide_eq_true_eq] at fits
        have placed := (found_whole terms wholesome live rewrapping.fine reference kept finds).placed
        obtain ⟨stays, own⟩ := rewrapping_lock terms wholesome store actor live rewrapping reference kept finds
        have here : Locked store (live.claim reference (some kept) (some kept)) (kept.row, version) :=
          ⟨kept, kept, by rw [placed]; exact own, rfl, List.mem_of_find?_eq_some found, fits.2⟩
        apply meets_bind
        apply meets_mono _ _ _ _ _ _ _ (ih (known ++ [(kept.row, version)]) _ stays _)
        · intro ended after scanned
          cases ended with
          | error error => exact scanned
          | ok rows =>
              apply meets_done
              obtain ⟨remains, every, listed⟩ := scanned
              rw [List.append_assoc] at every
              rw [Option.bind_some, found]
              refine ⟨remains, every, ?_⟩
              change (visit (kept.row, version) :: rows.map visit).Sublist _
              rw [show visit (kept.row, version) = (reference, number) from Prod.ext placed fits.1]
              exact listed.cons_cons _
        · intro entry member
          rcases List.mem_append.mp member with before | last
          · exact locked_claim store live entry (locked entry before) reference kept kept
          · cases List.mem_singleton.mp last
            exact here

theorem rewrap_row_meets (drawn : SecretRef → Int → Draw) (rows done : List Version) (entry : Version)
    (member : entry ∈ rows) (live : Stage) (rewrapping : Rewrapping store actor done live) (locked : ∀ entry ∈ rows, Locked store live entry) :
    Meets terms law (rewrapRow platform store drawn actor entry)
      (Keeps (fun after => Rewrapping store actor (done ++ [entry]) after ∧ ∀ entry ∈ rows, Locked store after entry)
        fun after => after.settled = []) live := by
  obtain ⟨secret, version⟩ := entry
  apply meets_bind
  apply meets_lift
  rw [Keyring.decryptValue]
  cases opened : store.keyring.openEnvelope (associatedData secret.reference version.version secret.disclosure) version.envelope with
  | error error => exact rewrapping.settled
  | ok value =>
      apply meets_bind
      apply meets_lift
      rw [Keyring.encryptValue, seal_envelope_of]
      apply meets_bind
      apply meets_text
      · intro _
        apply meets_bind
        apply meets_statement
        · exact fun _ => rewrapping.settled
        · intro misses
          obtain ⟨old, current, claimed, _⟩ := locked (secret, version) member
          rcases misses with ⟨seen, finds, unsought⟩ | ⟨unclaimed, _⟩
          · cases finds.1 _ _ claimed
            cases unsought
          · cases unclaimed.symm.trans claimed
        · intro kept _ finds
          have written := rewrapping_write terms store actor done live rewrapping (secret, version) (locked (secret, version) member) kept finds _
            (reseal_content store.keyring (drawn secret.reference version.version) _ _ _ opened store.keyring)
            (envelope_of_fresh store.keyring _ _ _)
          apply meets_audit
          · exact fun _ => rewrapping.settled
          · exact ⟨written, fun other there => locked_claim store live other (locked other there) secret.reference kept _⟩
      · exact fun _ => rewrapping.settled

include wholesome in
theorem rewrap_versions_meets (drawn : SecretRef → Int → Draw) (visited : Scan) :
    Meets terms (RecordCalls.law (.rewrapVersions store drawn visited actor)) (rewrapVersions platform store drawn visited actor)
      (Left [] fun count what => count = what.notes.length) Phase.start := by
  apply meets_transaction
  apply meets_bind
  apply meets_text
  · intro _
    apply meets_bind
    apply meets_mono _ _ _ _ _ _ _ (select_stale_meets terms wholesome _ store actor visited.rows [] (Phase.closed [])
      (rewrapping_start store actor) fun _ member => by cases member)
    intro ended live scanned
    cases ended with
    | error error => exact scanned
    | ok rows =>
        obtain ⟨rewrapping, locked, listed⟩ := scanned
        apply meets_bind
        apply meets_mono _ _ _ _ _ _ _ (meets_each _ _ _ _
          (fun done stage => Rewrapping store actor done stage ∧ ∀ entry ∈ rows, Locked store stage entry) (fun stage => stage.settled = []) rows
          (fun done entry stage member both => rewrap_row_meets platform terms _ store actor drawn rows done entry member stage both.1 both.2)
          [] ⟨rewrapping, locked⟩)
        intro ended last kept
        cases ended with
        | error error => exact kept
        | ok done =>
            obtain ⟨finished, held⟩ := kept
            apply meets_done
            refine ⟨finished.settled, ?_, ?_⟩
            · intro before based
              refine ⟨finished.settled, ?_, fine_leaves last finished.fine⟩
              apply Lawful.rewraps store drawn visited actor rows rfl
              refine ⟨listed, ?_, ?_, ?_, finished.notes⟩
              · intro entry member
                obtain ⟨old, current, claimed, owner, inside, stale⟩ := held entry member
                exact ⟨old, based _ _ _ claimed, owner, inside, stale⟩
              · intro entry member
                obtain ⟨old, current, claimed, _⟩ := held entry member
                change ((last.claims entry.1.reference).map Prod.snd).isSome = true
                rw [claimed]
                rfl
              · intro reference now left
                obtain ⟨claim, claimed, rfl⟩ := Option.map_eq_some_iff.mp left
                obtain ⟨old, new, was, here, _, resealed⟩ := finished.rows reference claim.1 claim.2 claimed
                exact ⟨old, new, (based reference claim.1 claim.2 claimed).trans was, here, resealed⟩
            · change rows.length = last.notes.length
              rw [finished.notes, List.length_map]
              rfl
  · exact fun _ => rfl

end Rewraps

section Tasks
variable (platform : Platform) (terms : Terms SecretRef Kept) (wholesome : Wholesome terms)

theorem left_ends (task : Task) (reply : Reply) (replies : ∀ what, task.Replies reply what)
    (other : ∀ store clock drawn input, task ≠ .put store clock drawn input) (law : Law SecretRef Kept AuditRow) (body : Work Unit)
    (meets : Meets terms law body (Left [] fun _ _ => True) Phase.start) :
    Meets terms law (body >>= fun _ => .done reply) (fun ended live => task.Ends platform terms ended live.settled) Phase.start := by
  apply meets_bind
  apply meets_mono _ _ _ _ _ _ _ meets
  intro ended live left
  cases ended with
  | error error =>
      rw [show live = _ from left]
      exact ⟨rfl, fun store clock drawn input same => absurd same (other store clock drawn input)⟩
  | ok done =>
      obtain ⟨what, rfl, _⟩ := left
      apply meets_done
      exact ⟨what, rfl, replies what⟩

include wholesome in
theorem task_meets (task : Task) :
    Meets terms (law task) (task.program platform) (fun ended live => task.Ends platform terms ended live.settled) Phase.start := by
  cases task with
  | put store clock drawn input =>
      apply meets_bind
      apply meets_closed
      apply meets_mono _ _ _ _ _ _ _ (put_meets platform terms _ store clock wholesome Phase.start fine_start drawn input input.ownerSubject)
      intro ended live put
      have hindered : ∀ stage : Stage, stage.settled = [] → Hindered platform terms store Phase.start input input.ownerSubject →
          ∀ error, Task.Ends platform terms (.put store clock drawn input) (.error error) stage.settled := by
        intro stage settled reason error
        refine ⟨settled, ?_⟩
        intro _ _ _ _ same
        cases same
        exact reason
      cases ended with
      | error error => exact hindered live.release put.1 put.2 error
      | ok metadata =>
          obtain ⟨now, turned, shown, whole⟩ := put
          refine ⟨?_, ?_, fun faulty fault => hindered live.release turned.settled (.faulty faulty) (unavailable fault)⟩
          · apply lawful_turned _ live _ input.reference now _ _ turned
            · intro before found
              rw [← found]
              exact .puts store clock drawn input rfl rfl rfl
            · exact turned_fine Phase.start live fine_start input.reference now _ _ turned whole
          · apply meets_done
            refine ⟨live.leaves, ?_, Kept.put store clock drawn input now, ?_, shown⟩
            · change live.settled ++ [live.leaves] = [live.leaves]
              rw [turned.settled]
              rfl
            · rw [turned_leaves [] live _ _ _ _ turned]
              exact if_pos rfl
  | delete reference actor =>
      apply left_ends platform terms (.delete reference actor) .done (fun _ => trivial) (fun _ _ _ _ same => by cases same)
      apply meets_transaction
      apply meets_mono _ _ _ _ _ _ _ (delete_meets platform terms _ Phase.start reference actor)
      intro ended live gone
      cases ended with
      | error error => exact gone
      | ok done =>
          obtain ⟨kept, turned⟩ := gone
          refine ⟨turned.settled, ?_, trivial⟩
          apply lawful_turned _ live _ reference (some kept) none _ turned
          · intro before found
            exact .deletes reference actor kept rfl found rfl rfl
          · intro other was row claimed
            by_cases same : other = reference
            · obtain ⟨first, own, _⟩ := turned.own
              rw [same, own] at claimed
              cases claimed
            · rw [turned.others other same] at claimed
              cases claimed
  | revoke clock reference actor =>
      apply meets_bind
      apply meets_mono _ _ _ _ _ _ _ (meets_transaction terms _ Phase.start _ _ [] (fun metadata what => ∃ kept : Kept,
        what.rows reference = some (some kept) ∧ metadata = kept.row.metadata) _)
      · intro ended live left
        cases ended with
        | error error =>
            rw [show live = _ from left]
            exact ⟨rfl, fun _ _ _ _ same => by cases same⟩
        | ok metadata =>
            obtain ⟨what, rfl, shown⟩ := left
            apply meets_done
            exact ⟨what, rfl, shown⟩
      · apply meets_mono _ _ _ _ _ _ _ (revoke_meets platform terms wholesome _ clock Phase.start fine_start reference actor)
        intro ended live revoked
        cases ended with
        | error error => exact revoked
        | ok metadata =>
            obtain ⟨kept, turned, shown, fine⟩ := revoked
            refine ⟨turned.settled, ?_, kept.revoked clock, ?_, shown⟩
            · apply lawful_turned _ live fine reference (some kept) _ _ turned
              intro before found
              exact .revokes clock reference actor kept rfl found rfl rfl
            · rw [turned_leaves [] live _ _ _ _ turned]
              exact if_pos rfl
  | applyBatch store clock tenant actor mutations =>
      apply left_ends platform terms (.applyBatch store clock tenant actor mutations) .done (fun _ => trivial)
        (fun _ _ _ _ same => by cases same)
      exact apply_batch_meets platform terms wholesome store clock actor tenant mutations
  | rewrapVersions store drawn visited actor =>
      apply meets_bind
      apply meets_mono _ _ _ _ _ _ _ (rewrap_versions_meets platform terms wholesome store actor drawn visited)
      intro ended live left
      cases ended with
      | error error =>
          rw [show live = _ from left]
          exact ⟨rfl, fun _ _ _ _ same => by cases same⟩
      | ok rows =>
          obtain ⟨what, rfl, counted⟩ := left
          apply meets_done
          exact ⟨what, rfl, counted⟩

end Tasks

end RecordCalls
end Secrets
