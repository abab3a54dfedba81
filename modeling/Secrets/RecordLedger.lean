import Secrets.RecordRaces

set_option autoImplicit false

namespace Secrets

open Programs RowLocks
open Framing (Bytes)

namespace RecordCalls

-- A record's row and versions show what was put.
structure Depicts (reference : SecretRef) (kept : Kept) (record : Record) : Prop where
  whole : Whole reference kept
  ownerSubject : kept.row.ownerSubject = record.ownerSubject
  disclosure : kept.row.disclosure = record.latest.disclosure
  state : kept.row.state = record.state
  labels : kept.row.labels = record.labels
  length : kept.versions.length = record.history.length
  versions : ∀ (index : Nat) version written, kept.versions[index]? = some version → record.history[index]? = some written →
    SealedAs reference ((index : Int) + 1) written version.envelope

def Shown (reference : SecretRef) : Option Kept → Option Record → Prop := Option.Rel (Depicts reference)

abbrev Book : Type := SecretRef → Option Record

def Task.acts : Task → Book → Book
  | .put _ _ _ input, records => Ledger.puts records input
  | .delete reference _, records => Ledger.deletes records reference
  | .revoke _ reference _, records => Ledger.revokes records reference
  | .applyBatch _ _ _ _ mutations, records => (mutations.map Prod.snd).foldl Ledger.mutates records
  | .rewrapVersions _ _ _ _, records => records

structure Reports (metadata : SecretMetadata) (reference : SecretRef) (record : Record) : Prop where
  reference : metadata.reference = reference
  ownerSubject : metadata.ownerSubject = record.ownerSubject
  disclosure : metadata.disclosure = record.latest.disclosure
  state : metadata.state = record.state
  version : metadata.version = record.version
  labels : metadata.labels = record.labels

def Task.Answers : Task → Reply → Done → Book → Prop
  | .put _ _ _ input, .metadata metadata, _, records =>
      ∃ record, records input.reference = some record ∧ Reports metadata input.reference record
  | .revoke _ reference _, .metadata metadata, _, records => ∃ record, records reference = some record ∧ Reports metadata reference record
  | .delete _ _, .done, _, _ => True
  | .applyBatch _ _ _ _ _, .done, _, _ => True
  | .rewrapVersions _ _ _ _, .count rows, what, _ => rows = what.notes.length
  | _, _, _, _ => False

section Steps

def wrote (input : PutSecret) (old : Option Record) : Record :=
  { ownerSubject := input.ownerSubject
    labels := input.labels
    state := .active
    older := old.elim [] Record.history
    latest := ⟨input.disclosure, input.value⟩ }

theorem depicts_version (reference : SecretRef) (kept : Kept) (record : Record) (depicts : Depicts reference kept record) :
    kept.row.currentVersion = record.version := by
  rw [depicts.whole.latest, depicts.length, Record.version, Record.history, List.length_append]
  rfl

theorem depicts_reports (reference : SecretRef) (kept : Kept) (record : Record) (depicts : Depicts reference kept record) :
    Reports kept.row.metadata reference record :=
  ⟨depicts.whole.placed, depicts.ownerSubject, depicts.disclosure, depicts.state, depicts_version reference kept record depicts, depicts.labels⟩

theorem put_columns (store : PostgresStore) (clock : Clock) (drawn : Draw) (input : PutSecret) (old : Option Kept) :
    (Kept.put store clock drawn input old).row.ownerSubject = input.ownerSubject ∧
      (Kept.put store clock drawn input old).row.disclosure = input.disclosure ∧
      (Kept.put store clock drawn input old).row.state = .active ∧ (Kept.put store clock drawn input old).row.labels = input.labels ∧
      (Kept.put store clock drawn input old).row.currentVersion = (putVersion store drawn input old).version := by
  cases old <;> exact ⟨rfl, rfl, rfl, rfl, rfl⟩

theorem depicts_put (store : PostgresStore) (clock : Clock) (drawn : Draw) (input : PutSecret) (old : Option Kept) (known : Option Record)
    (shown : Shown input.reference old known) (whole : Whole input.reference (Kept.put store clock drawn input old)) :
    Depicts input.reference (Kept.put store clock drawn input old) (wrote input known) := by
  have before : (old.elim [] Kept.versions).length = (known.elim [] Record.history).length := by
    cases shown with
    | none => rfl
    | some depicts => exact depicts.length
  obtain ⟨owner, disclosure, state, labels, current⟩ := put_columns store clock drawn input old
  have number : (putVersion store drawn input old).version = ((old.elim [] Kept.versions).length : Int) + 1 := by
    rw [← current, whole.latest, Kept.put, List.length_append]
    rfl
  refine ⟨whole, owner, disclosure, state, labels, ?_, ?_⟩
  · rw [Kept.put, wrote, Record.history, List.length_append, List.length_append, before]
    rfl
  · intro index version written there put
    by_cases earlier : index < (old.elim [] Kept.versions).length
    · have found : (old.elim [] Kept.versions)[index]? = some version := by
        rw [← there]
        exact (List.getElem?_append_left earlier).symm
      have recorded : (known.elim [] Record.history)[index]? = some written := by
        rw [← put]
        exact (List.getElem?_append_left (before ▸ earlier)).symm
      cases shown with
      | none => cases found
      | some depicts => exact depicts.versions index version written found recorded
    · have last : index = (old.elim [] Kept.versions).length := by
        have bound := (List.getElem?_eq_some_iff.mp there).1
        rw [Kept.put, List.length_append, List.length_singleton] at bound
        omega
      subst last
      have new : putVersion store drawn input old = version := by
        rw [Kept.put, List.getElem?_concat_length] at there
        exact Option.some.inj there
      have latest : (⟨input.disclosure, input.value⟩ : Written) = written := by
        rw [wrote, Record.history, before, List.getElem?_concat_length] at put
        exact Option.some.inj put
      rw [← new, ← latest, ← number]
      exact ⟨_, envelope_of_sealed store.keyring drawn _ input.value⟩

theorem puts_at (records : Book) (input : PutSecret) (reference : SecretRef) :
    Ledger.puts records input reference = if reference = input.reference then some (wrote input (records input.reference)) else records reference :=
  Function.update_apply _ _ _ _

theorem depicts_revoked (clock : Clock) (reference : SecretRef) (kept : Kept) (record : Record) (depicts : Depicts reference kept record) :
    Depicts reference (kept.revoked clock) { record with state := .revoked } :=
  ⟨whole_revoked clock reference kept depicts.whole, depicts.ownerSubject, depicts.disclosure, rfl, depicts.labels, depicts.length, depicts.versions⟩

theorem depicts_same (reference : SecretRef) (old new : Kept) (record : Record) (depicts : Depicts reference old record) (same : SameKept old new) :
    Depicts reference new record := by
  have lengths := same.versions.length_eq
  refine ⟨same_whole reference old new depicts.whole same, ?_, ?_, ?_, ?_, ?_, ?_⟩
  · rw [same.row]
    exact depicts.ownerSubject
  · rw [same.row]
    exact depicts.disclosure
  · rw [same.row]
    exact depicts.state
  · rw [same.row]
    exact depicts.labels
  · rw [← lengths]
    exact depicts.length
  · intro index version written there put
    obtain ⟨bound, here⟩ := List.getElem?_eq_some_iff.mp there
    have shorter : index < old.versions.length := lengths.symm ▸ bound
    have renewed : Renewed old.versions[index] version := here ▸ same.versions.get shorter bound
    have sealedAs := depicts.versions index old.versions[index] written (List.getElem?_eq_getElem shorter) put
    exact (renewed.2 _ _).mp sealedAs

theorem shown_some (reference : SecretRef) (kept : Kept) (record : Option Record) (shown : Shown reference (some kept) record) :
    ∃ known, record = some known ∧ Depicts reference kept known := by
  cases shown with
  | some depicts => exact ⟨_, rfl, depicts⟩

section Batches
variable (store : PostgresStore) (clock : Clock)

theorem foldl_snoc (records : Book) (done : List (Draw × Mutation)) (entry : Draw × Mutation) :
    ((done ++ [entry]).map Prod.snd).foldl Ledger.mutates records =
      Ledger.mutates ((done.map Prod.snd).foldl Ledger.mutates records) entry.2 := by
  rw [List.map_append, List.foldl_append]
  rfl

theorem mutates_other (records : Book) (mutation : Mutation) (reference : SecretRef) (apart : mutation.reference ≠ reference) :
    Ledger.mutates records mutation reference = records reference := by
  cases mutation with
  | put input => exact Function.update_of_ne (Ne.symm apart) _ _
  | delete other => exact Function.update_of_ne (Ne.symm apart) _ _

theorem mutates_own (records : Book) (entry : Draw × Mutation) (now : Option Kept) (shown : Shown entry.2.reference now (records entry.2.reference))
    (proper : Proper store clock entry now) :
    Shown entry.2.reference (effect store clock entry now) (Ledger.mutates records entry.2 entry.2.reference) := by
  obtain ⟨drawn, mutation⟩ := entry
  cases mutation with
  | put input =>
      change Shown input.reference _ (Ledger.puts records input input.reference)
      rw [puts_at, if_pos rfl]
      exact .some (depicts_put store clock drawn input now _ shown (proper.whole _ rfl))
  | delete reference =>
      change Shown reference none (Ledger.deletes records reference reference)
      rw [Ledger.deletes, Function.update_self]
      exact .none

theorem effects_shown (before : Records) (records : Book) (shown : ∀ reference, Shown reference (before reference) (records reference))
    (mutations : List (Draw × Mutation)) (proper : ∀ earlier entry later, mutations = earlier ++ entry :: later →
      Proper store clock entry (effects store clock entry.2.reference earlier (before entry.2.reference))) (reference : SecretRef) :
    Shown reference (effects store clock reference mutations (before reference))
      ((mutations.map Prod.snd).foldl Ledger.mutates records reference) := by
  induction mutations using List.reverseRecOn with
  | nil => exact shown reference
  | append_singleton done entry ih =>
      have earlier := ih (fun first other later split => proper first other (later ++ [entry]) (by rw [split, List.append_assoc, List.cons_append]))
      rw [foldl_snoc]
      by_cases same : entry.2.reference = reference
      · subst same
        rw [effects_snoc_own store clock _ done entry rfl]
        exact mutates_own store clock _ entry _ earlier (proper done entry [] rfl)
      · rw [effects_snoc_other store clock reference done entry same, mutates_other _ entry.2 reference same]
        exact earlier

end Batches

theorem lawful_shown (task : Task) (before : Records) (what : Done) (records : Book) (lawful : Lawful task before what)
    (whole : ∀ reference kept, what.rows reference = some (some kept) → Whole reference kept)
    (shown : ∀ reference, Shown reference (before reference) (records reference)) (reference : SecretRef) :
    Shown reference ((what.rows reference).getD (before reference)) (task.acts records reference) := by
  cases lawful with
  | puts store clock drawn input called rows =>
      subst called
      rw [Task.acts, puts_at, rows, only]
      by_cases same : reference = input.reference
      · subst same
        rw [if_pos rfl, if_pos rfl]
        apply Option.Rel.some
        apply depicts_put store clock drawn input _ _ (shown _)
        apply whole
        rw [rows]
        exact if_pos rfl
      · rw [if_neg same, if_neg same]
        exact shown reference
  | deletes target actor kept called found rows =>
      subst called
      rw [Task.acts, Ledger.deletes, Function.update_apply, rows, only]
      by_cases same : reference = target
      · rw [if_pos same, if_pos same]
        exact .none
      · rw [if_neg same, if_neg same]
        exact shown reference
  | revokes clock target actor kept called found rows =>
      subst called
      rw [Task.acts, Ledger.revokes, Function.update_apply, rows, only]
      by_cases same : reference = target
      · subst same
        have here := shown reference
        rw [found] at here
        obtain ⟨record, known, depicts⟩ := shown_some reference kept _ here
        rw [if_pos rfl, if_pos rfl, known]
        exact .some (depicts_revoked clock reference kept record depicts)
      · rw [if_neg same, if_neg same]
        exact shown reference
  | applies store clock tenant actor mutations called rows proper =>
      subst called
      have after := effects_shown store clock before records shown mutations proper reference
      rw [rows reference]
      by_cases touched : touches reference mutations = true
      · rw [if_pos touched]
        exact after
      · rw [if_neg touched]
        rw [effects_untouched store clock reference mutations (Bool.eq_false_of_not_eq_true touched)] at after
        exact after
  | rewraps store drawn visited actor entries called rewraps =>
      subst called
      cases left : what.rows reference with
      | none => exact shown reference
      | some now =>
          obtain ⟨old, new, found, rfl, resealed⟩ := rewraps.rows reference now left
          have same := resealed_same store.keyring entries old new resealed
          have here := shown reference
          rw [found] at here
          obtain ⟨record, known, depicts⟩ := shown_some reference old _ here
          rw [Task.acts, known]
          exact .some (depicts_same reference old new record depicts same)

end Steps
section Reads
variable (store : PostgresStore) (reference : SecretRef)

-- What a get answers of a record: nothing of a reference with U+0000 in it, and of
-- a version that the keyring cannot open that it cannot.
structure Serves (found : Option Kept) (known : Option Record) : Prop where
  refused : reference.parts.any hasNul = true → get store reference found = .error .unavailable
  missing : reference.parts.any hasNul = false → (∀ record, known = some record → record.state ≠ .active) →
    get store reference found = .error .notFound
  served : reference.parts.any hasNul = false → ∀ record, known = some record → record.state = .active →
    ∃ metadata envelope, Reports metadata reference record ∧
      (store.keyring.Holds envelope → get store reference found = .ok ⟨metadata, record.latest.value⟩) ∧
      (¬store.keyring.Holds envelope → get store reference found = .error .crypto)

end Reads

section Runs
variable (platform : Platform) (tasks : Nat → Task) (rows : Records) (records : Book)

abbrev Database : Type := Machine SecretRef Kept AuditRow StoreError StoreError Reply

def Database.start : Database := Machine.start rows fun process => (tasks process).program platform

abbrev Trace : Type := List (Nat × Done)

def ledger (trace : Trace) : Book := trace.foldl (fun records entry => (tasks entry.1).acts records) records

theorem ledger_snoc (trace : Trace) (process : Nat) (what : Done) :
    ledger tasks records (trace ++ [(process, what)]) = (tasks process).acts (ledger tasks records trace) := List.foldl_append

section History
variable (start : ∀ reference, Shown reference (rows reference) (records reference)) (trace : Trace)
  (lawful : ∀ before process what after, trace = before ++ (process, what) :: after →
    law (tasks process) (settledBy process before) (held rows before) what)
include start lawful

theorem held_shown (reference : SecretRef) : Shown reference (held rows trace reference) (ledger tasks records trace reference) := by
  induction trace using List.reverseRecOn generalizing reference with
  | nil => exact start reference
  | append_singleton trace entry ih =>
      obtain ⟨process, what⟩ := entry
      have earlier := ih fun before other done after split => lawful before other done (after ++ [(process, what)]) (by
        rw [split, List.append_assoc, List.cons_append])
      obtain ⟨_, last, whole⟩ := lawful trace process what [] rfl
      rw [held_snoc, ledger_snoc]
      exact lawful_shown (tasks process) (held rows trace) what _ last whole earlier reference

theorem before_shown (before after : Trace) (split : trace = before ++ after) (reference : SecretRef) :
    Shown reference (held rows before reference) (ledger tasks records before reference) := by
  apply held_shown tasks rows records start before
  intro first process what rest inside
  apply lawful first process what (rest ++ after)
  rw [split, inside, List.append_assoc, List.cons_append]

theorem replies_answers (before after : Trace) (process : Nat) (what : Done) (split : trace = before ++ (process, what) :: after)
    (reply : Reply) (replies : (tasks process).Replies reply what) :
    (tasks process).Answers reply what (ledger tasks records (before ++ [(process, what)])) := by
  have left : ∀ reference kept, what.rows reference = some (some kept) →
      ∃ record, ledger tasks records (before ++ [(process, what)]) reference = some record ∧ Reports kept.row.metadata reference record := by
    intro reference kept changed
    have shown := before_shown tasks rows records start trace lawful (before ++ [(process, what)]) after (by
      rw [split, List.append_assoc, List.singleton_append]) reference
    rw [held_snoc, changed] at shown
    obtain ⟨record, known, depicts⟩ := shown_some reference kept _ shown
    exact ⟨record, known, depicts_reports reference kept record depicts⟩
  cases task : tasks process with
  | put store clock drawn input =>
      rw [task] at replies
      cases reply with
      | metadata metadata =>
          obtain ⟨kept, changed, rfl⟩ := replies
          exact left input.reference kept changed
      | done => exact replies
      | count rows => exact replies
  | revoke clock reference actor =>
      rw [task] at replies
      cases reply with
      | metadata metadata =>
          obtain ⟨kept, changed, rfl⟩ := replies
          exact left reference kept changed
      | done => exact replies
      | count rows => exact replies
  | delete reference actor =>
      rw [task] at replies
      cases reply <;> exact replies
  | applyBatch store clock tenant actor mutations =>
      rw [task] at replies
      cases reply <;> exact replies
  | rewrapVersions store drawn visited actor =>
      rw [task] at replies
      cases reply <;> exact replies

end History

def sturdy : Terms SecretRef Kept := ⟨True, fun reference row => ∀ kept, row = some kept → Whole reference kept, fun _ => True⟩

theorem sturdy_wholesome : Wholesome sturdy := fun _ kept good => good kept rfl

theorem law_upholds : Upholds sturdy fun process => law (tasks process) := by
  intro process earlier before what lawful _ reference row changed kept same
  apply lawful.2.2 reference kept
  rw [changed, same]

theorem records_running (start : ∀ reference, Shown reference (rows reference) (records reference)) (events : List (Event StoreError)) :
    Running sturdy rows (fun process => law (tasks process)) (fun process ended live => (tasks process).Ends platform sturdy ended live.settled)
      ((Database.start platform tasks rows).run events) := by
  apply run_accounted sturdy rows _ _ (law_upholds tasks) (fun _ => trivial) _ _
    (fun process => task_meets platform sturdy sturdy_wholesome (tasks process)) events
  · exact fun _ _ _ => trivial
  · intro reference kept same
    have shown := start reference
    rw [same] at shown
    obtain ⟨_, _, depicts⟩ := shown_some reference kept _ shown
    exact depicts.whole

theorem records_returned (start : ∀ reference, Shown reference (rows reference) (records reference)) (events : List (Event StoreError))
    (process : Nat) (reply : Reply) (there : ((Database.start platform tasks rows).run events).threads process = some (.done reply)) :
    ∃ before what after, ((Database.start platform tasks rows).run events).trace = before ++ (process, what) :: after ∧
      (tasks process).Answers reply what (ledger tasks records (before ++ [(process, what)])) := by
  have running := records_running platform tasks rows records start events
  obtain ⟨phase, ends, settled⟩ := running_done _ _ _ _ _ running process reply there
  obtain ⟨what, one, replies⟩ := ends
  obtain ⟨before, after, split, _, _⟩ := settled_split process _ [] [] what (settled.symm.trans one)
  exact ⟨before, what, after, split,
    replies_answers tasks rows records start _ running.accounted.lawful before after process what split reply replies⟩

end Runs

end RecordCalls
end Secrets
