import Secrets.RecordCalls
import Secrets.Ledger

set_option autoImplicit false

namespace Secrets

open Programs RowLocks

namespace RecordCalls

abbrev Records : Type := SecretRef → Option Kept
abbrev Done : Type := Settled SecretRef Kept AuditRow
abbrev Stage : Type := Phase SecretRef Kept AuditRow

-- A record's versions are numbered from one on, and its row names the last.
structure Whole (reference : SecretRef) (kept : Kept) : Prop where
  placed : kept.row.reference = reference
  numbered : kept.versions.map VersionRow.address = (List.range kept.versions.length).map fun index : Nat => (kept.row.id, (index : Int) + 1)
  latest : kept.row.currentVersion = kept.versions.length
  some : 0 < kept.versions.length

theorem whole_address (reference : SecretRef) (kept : Kept) (whole : Whole reference kept) (address : Uuid × Int) :
    (∃ version ∈ kept.versions, version.address = address) ↔
      ∃ index : Nat, index < kept.versions.length ∧ address = (kept.row.id, (index : Int) + 1) := by
  have listed : address ∈ kept.versions.map VersionRow.address ↔
      address ∈ (List.range kept.versions.length).map fun index : Nat => (kept.row.id, (index : Int) + 1) := by rw [whole.numbered]
  simp only [List.mem_map, List.mem_range] at listed
  rw [listed]
  constructor
  · intro found
    obtain ⟨index, bound, same⟩ := found
    exact ⟨index, bound, same.symm⟩
  · intro found
    obtain ⟨index, bound, same⟩ := found
    exact ⟨index, bound, same.symm⟩

theorem whole_first (reference : SecretRef) (kept : Kept) (whole : Whole reference kept) :
    ∃ version ∈ kept.versions, version.address = (kept.row.id, 1) :=
  (whole_address reference kept whole _).mpr ⟨0, whole.some, rfl⟩

theorem whole_fresh (reference : SecretRef) (kept : Kept) (whole : Whole reference kept) (version : VersionRow)
    (member : version ∈ kept.versions) : version.address ≠ (kept.row.id, kept.row.currentVersion + 1) := by
  intro same
  obtain ⟨index, bound, numbered⟩ := (whole_address reference kept whole _).mp ⟨version, member, same⟩
  have last := congrArg Prod.snd numbered
  rw [whole.latest] at last
  simp only [add_left_inj, Nat.cast_inj] at last
  omega

section Spec
variable (store : PostgresStore) (clock : Clock)

def putRow (drawn : Draw) (input : PutSecret) (old : Option Kept) : SecretRow :=
  { id := (nextVersion (old.map Kept.row) drawn).1
    reference := input.reference
    ownerSubject := input.ownerSubject
    disclosure := input.disclosure
    state := .active
    currentVersion := (nextVersion (old.map Kept.row) drawn).2
    labels := input.labels
    createdAt := clock.transaction
    updatedAt := clock.transaction }

def putVersion (drawn : Draw) (input : PutSecret) (old : Option Kept) : VersionRow :=
  { secretId := (nextVersion (old.map Kept.row) drawn).1
    version := (nextVersion (old.map Kept.row) drawn).2
    envelope := store.keyring.envelopeOf drawn
      (associatedData input.reference (nextVersion (old.map Kept.row) drawn).2 input.disclosure) input.value }

def Kept.put (drawn : Draw) (input : PutSecret) (old : Option Kept) : Kept :=
  { row := (putRow clock drawn input old).over (old.map Kept.row)
    versions := (old.elim [] Kept.versions) ++ [putVersion store drawn input old] }

theorem whole_put (drawn : Draw) (input : PutSecret) (old : Option Kept) (whole : ∀ kept, old = some kept → Whole input.reference kept)
    (positive : (nextVersion (old.map Kept.row) drawn).2 > 0) : Whole input.reference (Kept.put store clock drawn input old) := by
  cases old with
  | none => exact ⟨rfl, rfl, rfl, Nat.one_pos⟩
  | some kept =>
      have here := whole kept rfl
      have next : i64Succ kept.row.currentVersion = kept.versions.length + 1 := by
        have above : i64Succ kept.row.currentVersion > 0 := positive
        unfold i64Succ i64Max i64Min at above ⊢
        rw [here.latest] at above ⊢
        split at above <;> omega
      have added : (putVersion store drawn input (some kept)).address = (kept.row.id, (kept.versions.length : Int) + 1) := Prod.ext rfl next
      have versions : (Kept.put store clock drawn input (some kept)).versions = kept.versions ++ [putVersion store drawn input (some kept)] := rfl
      refine ⟨rfl, ?_, ?_, ?_⟩
      · rw [versions, List.map_append, List.length_append, List.length_singleton, List.range_succ, List.map_append, here.numbered,
          List.map_singleton, added]
        rfl
      · refine next.trans ?_
        rw [versions, List.length_append]
        rfl
      · rw [versions, List.length_append]
        exact Nat.succ_pos _

end Spec

section Parts
variable (platform : Platform) (terms : Terms SecretRef Kept) (law : Law SecretRef Kept AuditRow) (phase : Stage)

theorem meets_text (ends : Except StoreError Unit → Stage → Prop) (texts : List String)
    (goes : texts.any hasNul = false → ends (.ok ()) phase) (fails : texts.any hasNul = true → ends (.error .unavailable) phase) :
    Meets terms law (bindText texts) ends phase := by
  apply meets_ensure
  · intro clean
    exact goes (by simpa using clean)
  · intro dirty
    exact fails (by simpa using dirty)

theorem meets_statement (ends : Except StoreError (Option Kept) → Stage → Prop) (reference : SecretRef) (sought : Kept → Bool)
    (becomes : Kept → Option Kept) (fails : terms.faulty → ends (.error .unavailable) phase)
    (missed : phase.Misses terms reference sought → ends (.ok none) phase)
    (found : ∀ kept, sought kept = true → phase.Finds terms reference (some kept) →
      ends (.ok (some kept)) (phase.claim reference (some kept) (becomes kept))) :
    Meets terms law (change reference sought becomes) ends phase := by
  apply meets_change
  · intro faulty fault
    exact meets_stop terms law ends phase _ (fails faulty)
  · intro misses
    exact meets_done terms law ends phase _ (missed misses)
  · intro kept fits finds
    exact meets_done terms law ends _ _ (found kept fits finds)

theorem meets_audit (ends : Except StoreError Unit → Stage → Prop) (tenant : String) (id : Option Uuid) (actor : String) (action : AuditAction)
    (fails : terms.faulty ∨ ([tenant, actor].any hasNul = true ∨ platform.indexFits [tenant] = false) → ends (.error .unavailable) phase)
    (goes : ends (.ok ()) (phase.noted ⟨tenant, id, actor, action⟩)) : Meets terms law (audit platform tenant id actor action) ends phase := by
  apply meets_bind
  apply meets_text
  · intro _
    apply meets_bind
    apply meets_ensure
    · intro _
      apply meets_note
      · intro faulty fault
        exact meets_stop terms law ends phase _ (fails (.inl faulty))
      · exact meets_done terms law ends _ _ goes
    · intro full
      exact fails (.inr (.inr full))
  · intro dirty
    exact fails (.inr (.inl dirty))

theorem meets_metadata (ends : Except StoreError SecretMetadata → Stage → Prop) (reference : SecretRef) (kept : Kept) (was : Option Kept)
    (claimed : phase.claims reference = some (was, some kept))
    (fails : terms.faulty ∨ reference.parts.any hasNul = true → ends (.error .unavailable) phase) (goes : ends (.ok kept.row.metadata) phase) :
    Meets terms law (metadataTx reference) ends phase := by
  apply meets_bind
  apply meets_bind
  apply meets_text
  · intro _
    apply meets_look
    · intro faulty fault
      exact meets_stop _ _ _ _ _ (fails (.inl faulty))
    · intro row finds
      have seen := finds.1 was (some kept) claimed
      cases seen
      exact meets_done _ _ _ _ _ (meets_done _ _ _ _ _ goes)
  · intro dirty
    exact fails (.inr dirty)

end Parts

section Puts
variable (platform : Platform) (terms : Terms SecretRef Kept) (law : Law SecretRef Kept AuditRow) (store : PostgresStore) (clock : Clock)

structure Fit (input : PutSecret) (actor : String) : Prop where
  valid : validateRef input.reference = .ok ()
  clean : (input.reference.parts ++ input.ownerSubject :: input.labels.texts).any hasNul = false
  keyId : [store.keyring.active].any hasNul = false
  actor : [input.reference.tenant, actor].any hasNul = false
  parts : platform.indexFits input.reference.parts = true
  owner : platform.indexFits [input.reference.tenant, input.ownerSubject] = true
  tenant : platform.indexFits [input.reference.tenant] = true

-- Why a put may be refused: a statement failed, it does not fit, the record was
-- created after the put found none or deleted while it waited, or its numbers are used up.
inductive Hindered (phase : Stage) (input : PutSecret) (actor : String) : Prop where
  | faulty (may : terms.faulty)
  | unfit (unfit : ¬Fit platform store input actor)
  | raced (absent : terms.good input.reference none ∨ terms.replaced input.reference)
  | full (kept : Kept) (finds : phase.Finds terms input.reference (some kept)) (last : kept.row.currentVersion = i64Max)

def PutEnds (phase : Stage) (drawn : Draw) (input : PutSecret) (actor : String) : Except StoreError SecretMetadata → Stage → Prop
  | .ok metadata, live => ∃ now, Turned phase live input.reference now (some (Kept.put store clock drawn input now))
        [⟨input.reference.tenant, some (putVersion store drawn input now).secretId, actor, .put⟩] ∧
      metadata = (Kept.put store clock drawn input now).row.metadata ∧ Whole input.reference (Kept.put store clock drawn input now)
  | .error _, live => live.settled = phase.settled ∧ Hindered platform terms store phase input actor

def Wholesome : Prop := ∀ reference kept, terms.good reference (some kept) → Whole reference kept

def Fine (phase : Stage) : Prop := ∀ reference was kept, phase.claims reference = some (was, some kept) → Whole reference kept

theorem found_whole (wholesome : Wholesome terms) (phase : Stage) (fine : Fine phase) (reference : SecretRef) (kept : Kept)
    (finds : phase.Finds terms reference (some kept)) : Whole reference kept := by
  cases claimed : phase.claims reference with
  | none => exact wholesome reference kept (finds.2 claimed)
  | some pair =>
      have seen := finds.1 pair.1 pair.2 claimed
      apply fine reference pair.1 kept
      rw [claimed, ← seen]

theorem turned_fine (phase live : Stage) (fine : Fine phase) (reference : SecretRef) (now : Option Kept) (kept : Kept)
    (added : List AuditRow)
    (turned : Turned phase live reference now (some kept) added) (whole : Whole reference kept) : Fine live := by
  intro other was found claimed
  by_cases same : other = reference
  · subst same
    obtain ⟨first, own, _⟩ := turned.own
    rw [own] at claimed
    cases claimed
    exact whole
  · rw [turned.others other same] at claimed
    exact fine other was found claimed

variable (wholesome : Wholesome terms) (phase : Stage) (fine : Fine phase) (drawn : Draw) (input : PutSecret) (actor : String)

theorem put_rest_meets (now : Option Kept) (stage : Stage) (current : Kept)
    (turned : Turned phase stage input.reference now (some current) [])
    (row : current.row = (putRow clock drawn input now).over (now.map Kept.row)) (versions : current.versions = now.elim [] Kept.versions)
    (fresh : ∀ other ∈ current.versions, other.address ≠ (putVersion store drawn input now).address)
    (whole : Whole input.reference (Kept.put store clock drawn input now)) :
    Meets terms law (insertVersion input.reference (putVersion store drawn input now) >>= fun _ =>
      audit platform input.reference.tenant (some (putVersion store drawn input now).secretId) actor .put >>= fun _ => metadataTx input.reference)
      (PutEnds platform terms store clock phase drawn input actor) stage := by
  have same : current.row.id = (putVersion store drawn input now).secretId := by
    rw [row]
    cases now <;> rfl
  have written : (⟨current.row, current.versions ++ [putVersion store drawn input now]⟩ : Kept) = Kept.put store clock drawn input now := by
    rw [row, versions]
    rfl
  apply meets_bind
  apply meets_bind
  apply meets_text
  · intro _
    apply meets_bind
    apply meets_statement
    · intro faulty
      exact ⟨turned.settled, .faulty faulty⟩
    · intro misses
      have sought : (decide (current.row.id = (putVersion store drawn input now).secretId) &&
          !(current.versions.any fun other => decide (other.address = (putVersion store drawn input now).address))) = true := by
        rw [decide_eq_true same, Bool.true_and, Bool.not_eq_true', List.any_eq_false]
        intro other member
        rw [decide_eq_true_eq]
        exact fresh other member
      rcases misses with ⟨seen, finds, unsought⟩ | ⟨unclaimed, _⟩
      · rw [turned_sees terms phase stage input.reference now (some current) seen [] turned finds] at unsought
        cases unsought.symm.trans (Option.filter_eq_some_iff.mpr ⟨rfl, sought⟩)
      · obtain ⟨was, claimed, _⟩ := turned.own
        cases unclaimed.symm.trans claimed
    · intro seen _ finds
      have here := turned_sees terms phase stage input.reference now (some current) (some seen) [] turned finds
      cases here
      apply meets_done
      have after := turned_again phase stage input.reference now (some current)
        (some ⟨current.row, current.versions ++ [putVersion store drawn input now]⟩) (some current) [] turned
      rw [written] at after
      apply meets_bind
      apply meets_audit
      · intro reason
        refine ⟨after.settled, ?_⟩
        rcases reason with faulty | dirty | full
        · exact .faulty faulty
        · exact .unfit fun fit => by rw [fit.actor] at dirty; cases dirty
        · exact .unfit fun fit => by rw [fit.tenant] at full; cases full
      · have noted := turned_noted phase _ input.reference now _ [] after
          ⟨input.reference.tenant, some (putVersion store drawn input now).secretId, actor, .put⟩
        obtain ⟨was, claimed, _⟩ := noted.own
        apply meets_metadata _ _ _ _ input.reference (Kept.put store clock drawn input now) was
        · rw [← written]
          rw [← written] at claimed
          exact claimed
        · intro reason
          refine ⟨noted.settled, ?_⟩
          rcases reason with faulty | dirty
          · exact .faulty faulty
          · refine .unfit fun fit => ?_
            have clean := fit.clean
            rw [List.any_append, dirty] at clean
            cases clean
        · refine ⟨now, ?_, rfl, whole⟩
          rw [← written]
          rw [← written] at noted
          exact noted
  · intro dirty
    refine ⟨turned.settled, .unfit fun fit => ?_⟩
    have clean := fit.keyId
    rw [show [store.keyring.active].any hasNul = true from dirty] at clean
    cases clean

theorem meets_upsert_row (ends : Except StoreError Unit → Stage → Prop) (stage : Stage) (row : SecretRow)
    (fails : terms.faulty ∨ (row.reference.parts ++ row.ownerSubject :: row.labels.texts).any hasNul = true ∨ ¬row.currentVersion > 0 ∨
      (platform.indexFits row.reference.parts && platform.indexFits [row.reference.tenant, row.ownerSubject]) = false →
        ends (.error .unavailable) stage)
    (created : row.currentVersion > 0 → stage.Finds terms row.reference none →
      ends (.ok ()) (stage.claim row.reference none (some ⟨row, []⟩)))
    (merged : row.currentVersion > 0 → ∀ old, stage.Finds terms row.reference (some old) →
      ends (.ok ()) (stage.claim row.reference (some old) (some (Kept.written row old)))) :
    Meets terms law (upsertSecret platform row) ends stage := by
  apply meets_bind
  apply meets_text
  · intro _
    apply meets_bind
    apply meets_ensure
    · intro above
      have positive := of_decide_eq_true above
      apply meets_bind
      apply meets_ensure
      · intro _
        apply meets_upsert
        · intro faulty fault
          exact meets_stop _ _ _ _ _ (fails (.inl faulty))
        · intro finds
          exact meets_done _ _ _ _ _ (created positive finds)
        · intro old finds
          exact meets_done _ _ _ _ _ (merged positive old finds)
      · intro full
        exact fails (.inr (.inr (.inr full)))
    · intro below
      exact fails (.inr (.inr (.inl (of_decide_eq_false below))))
  · intro dirty
    exact fails (.inr (.inl dirty))

theorem put_raced_meets (stage : Stage) (old current : Kept) (whole : Whole input.reference old)
    (absent : terms.good input.reference none ∨ terms.replaced input.reference)
    (turned : Turned phase stage input.reference (some old) (some current) []) (row : current.row.id = old.row.id)
    (versions : current.versions = old.versions) (next : Unit → Work SecretMetadata) :
    Meets terms law (insertVersion input.reference (putVersion store drawn input none) >>= next)
      (PutEnds platform terms store clock phase drawn input actor) stage := by
  have ended : PutEnds platform terms store clock phase drawn input actor (.error .unavailable) stage := ⟨turned.settled, .raced absent⟩
  apply meets_bind
  apply meets_bind
  apply meets_text
  · intro _
    apply meets_bind
    apply meets_statement
    · intro _
      exact ended
    · intro _
      exact meets_stop _ _ _ _ _ ended
    · intro seen sought finds
      have here := turned_sees terms phase stage input.reference (some old) (some current) (some seen) [] turned finds
      cases here
      rw [Bool.and_eq_true, decide_eq_true_eq, Bool.not_eq_true', List.any_eq_false] at sought
      obtain ⟨first, member, numbered⟩ := whole_first input.reference old whole
      rw [versions] at sought
      apply absurd _ (sought.2 first member)
      rw [decide_eq_true_eq, numbered, ← row, sought.1]
      rfl
  · intro _
    exact ended

def putFound (existing : Option Kept) : Work SecretMetadata :=
  upsertSecret platform (putRow clock drawn input existing) >>= fun _ =>
    insertVersion input.reference (putVersion store drawn input existing) >>= fun _ =>
      audit platform input.reference.tenant (some (putVersion store drawn input existing).secretId) actor .put >>= fun _ =>
        metadataTx input.reference

theorem next_below (existing : Option Kept) (whole : ∀ kept, existing = some kept → Whole input.reference kept)
    (below : ¬(nextVersion (existing.map Kept.row) drawn).2 > 0) : ∃ kept, existing = some kept ∧ kept.row.currentVersion = i64Max := by
  cases existing with
  | none => exact absurd Int.one_pos below
  | some kept =>
      have here := whole kept rfl
      refine ⟨kept, rfl, ?_⟩
      have under : ¬i64Succ kept.row.currentVersion > 0 := below
      have positive : 0 < kept.row.currentVersion := by
        rw [here.latest]
        exact_mod_cast here.some
      unfold i64Succ at under
      by_cases last : kept.row.currentVersion = i64Max
      · exact last
      · rw [if_neg last] at under
        omega

theorem misses_absent (misses : phase.Misses terms input.reference fun _ => true) :
    (phase.claims input.reference = none → terms.good input.reference none ∨ terms.replaced input.reference) ∧
      ∀ was now, phase.claims input.reference = some (was, now) → now = none := by
  rcases misses with ⟨row, finds, unsought⟩ | ⟨unclaimed, replaced⟩
  · have missing : row = none := by
      cases row with
      | none => rfl
      | some kept => cases unsought
    subst missing
    exact ⟨fun unclaimed => .inl (finds.2 unclaimed), finds.1⟩
  · refine ⟨fun _ => .inr replaced, fun was now claimed => ?_⟩
    cases unclaimed.symm.trans claimed

include wholesome fine in
theorem put_found_meets (existing : Option Kept) (stage : Stage) (settled : stage.settled = phase.settled)
    (found : existing = none ∧ stage = phase ∧ phase.Misses terms input.reference (fun _ => true) ∨
      ∃ kept, existing = some kept ∧ phase.Finds terms input.reference (some kept) ∧
        Turned phase stage input.reference (some kept) (some kept) []) :
    Meets terms law (putFound platform store clock drawn input actor existing)
      (PutEnds platform terms store clock phase drawn input actor) stage := by
  apply meets_bind
  apply meets_upsert_row
  · intro reason
    refine ⟨settled, ?_⟩
    rcases reason with faulty | dirty | below | full
    · exact .faulty faulty
    · apply Hindered.unfit
      intro fit
      cases fit.clean.symm.trans dirty
    · have whole : ∀ kept, existing = some kept → Whole input.reference kept := by
        intro kept same
        rcases found with ⟨missing, _⟩ | ⟨other, there, finds, _⟩
        · cases missing.symm.trans same
        · cases there.symm.trans same
          exact found_whole terms wholesome phase fine input.reference kept finds
      obtain ⟨kept, here, last⟩ := next_below drawn input existing whole below
      rcases found with ⟨missing, _⟩ | ⟨other, there, finds, _⟩
      · cases missing.symm.trans here
      · cases there.symm.trans here
        exact .full kept finds last
    · apply Hindered.unfit
      intro fit
      have both : (platform.indexFits input.reference.parts && platform.indexFits [input.reference.tenant, input.ownerSubject]) = false := full
      rw [fit.parts, fit.owner] at both
      cases both
  · intro positive finds
    rcases found with ⟨rfl, rfl, _⟩ | ⟨kept, rfl, _, turned⟩
    · apply put_rest_meets platform terms law store clock stage drawn input actor none _ ⟨putRow clock drawn input none, []⟩
      · exact turned_claim terms stage input.reference none _ finds
      · rfl
      · rfl
      · intro other member
        cases member
      · exact whole_put store clock drawn input none (fun _ same => by cases same) positive
    · cases turned_sees terms phase stage input.reference (some kept) (some kept) none [] turned finds
  · intro positive old finds
    rcases found with ⟨rfl, rfl, absent⟩ | ⟨kept, rfl, there, turned⟩
    · obtain ⟨gone, empty⟩ := misses_absent terms stage input absent
      have unclaimed : stage.claims input.reference = none := by
        cases claimed : stage.claims input.reference with
        | none => rfl
        | some pair => cases (empty pair.1 pair.2 claimed).symm.trans (finds.1 pair.1 pair.2 claimed)
      apply put_raced_meets platform terms law store clock stage drawn input actor _ old (Kept.written (putRow clock drawn input none) old)
      · exact wholesome _ _ (finds.2 unclaimed)
      · exact gone unclaimed
      · exact turned_claim terms stage input.reference (some old) _ finds
      · rfl
      · rfl
    · obtain rfl : kept = old :=
        (Option.some.inj (turned_sees terms phase stage input.reference (some kept) (some kept) (some old) [] turned finds)).symm
      have whole := found_whole terms wholesome phase fine input.reference kept there
      have next : (putVersion store drawn input (some kept)).address = (kept.row.id, kept.row.currentVersion + 1) := by
        refine Prod.ext rfl ?_
        have above : i64Succ kept.row.currentVersion > 0 := positive
        change i64Succ kept.row.currentVersion = _
        unfold i64Succ i64Max i64Min at above ⊢
        split at above <;> omega
      apply put_rest_meets platform terms law store clock phase drawn input actor (some kept) _
        (Kept.written (putRow clock drawn input (some kept)) kept)
      · exact turned_again phase stage input.reference (some kept) (some kept) _ (some kept) [] turned
      · rfl
      · rfl
      · intro other member
        rw [next]
        exact whole_fresh input.reference kept whole other member
      · exact whole_put store clock drawn input (some kept) (fun _ same => by cases same; exact whole) positive

include wholesome fine in
theorem put_meets : Meets terms law (putTx platform store clock drawn input actor) (PutEnds platform terms store clock phase drawn input actor)
    phase := by
  apply meets_bind
  apply meets_lift
  cases valid : validateRef input.reference with
  | error error =>
      refine ⟨rfl, .unfit ?_⟩
      intro fit
      cases fit.valid.symm.trans valid
  | ok done =>
      have rest : ∀ (existing : Option Kept) (stage : Stage),
          Meets terms law (putFound platform store clock drawn input actor existing)
            (PutEnds platform terms store clock phase drawn input actor) stage →
            Meets terms law (Prog.lift ((store.keyring.encryptValue drawn input.reference
                (nextVersion (existing.map Kept.row) drawn).2 input.disclosure input.value).mapError fun _ => .crypto) >>= fun envelope =>
              upsertSecret platform (putRow clock drawn input existing) >>= fun _ =>
                insertVersion input.reference ⟨(nextVersion (existing.map Kept.row) drawn).1,
                  (nextVersion (existing.map Kept.row) drawn).2, envelope⟩ >>= fun _ =>
                  audit platform input.reference.tenant (some (nextVersion (existing.map Kept.row) drawn).1) actor .put >>= fun _ =>
                    metadataTx input.reference) (PutEnds platform terms store clock phase drawn input actor) stage := by
        intro existing stage meets
        rw [Keyring.encryptValue, seal_envelope_of]
        exact meets
      apply meets_bind
      apply meets_bind
      apply meets_text
      · intro _
        apply meets_statement
        · intro faulty
          exact ⟨rfl, .faulty faulty⟩
        · intro misses
          apply rest none phase
          exact put_found_meets platform terms law store clock wholesome phase fine drawn input actor none phase rfl (.inl ⟨rfl, rfl, misses⟩)
        · intro kept _ finds
          apply rest (some kept)
          exact put_found_meets platform terms law store clock wholesome phase fine drawn input actor (some kept) _ rfl
            (.inr ⟨kept, rfl, finds, turned_claim terms phase input.reference (some kept) (some kept) finds⟩)
      · intro dirty
        refine ⟨rfl, .unfit ?_⟩
        intro fit
        have clean := fit.clean
        rw [List.any_append, dirty] at clean
        cases clean

end Puts
end RecordCalls
end Secrets
