import Secrets.RecordLedger
import Secrets.Wire

set_option autoImplicit false

namespace Secrets

open Programs RowLocks

namespace RecordCalls

def Task.deletes (reference : SecretRef) : Task → Bool
  | .put _ _ _ _ => false
  | .delete target _ => decide (target = reference)
  | .revoke _ _ _ => false
  | .applyBatch _ _ _ _ mutations => mutations.any fun entry => decide (entry.2 = .delete reference)
  | .rewrapVersions _ _ _ _ => false

def putsOf (reference : SecretRef) : Mutation → Nat
  | .put input => if input.reference = reference then 1 else 0
  | .delete _ => 0

def Task.puts (reference : SecretRef) : Task → Nat
  | .put _ _ _ input => putsOf reference (.put input)
  | .applyBatch _ _ _ _ mutations => (mutations.map fun entry => putsOf reference entry.2).sum
  | _ => 0

section Spares
variable (platform : Platform) (reference : SecretRef)

theorem text_spares (texts : List String) : (bindText texts).Asks (Call.Spares reference) := Prog.asks_ensure _ _ _

theorem change_spares (target : SecretRef) (sought : Kept → Bool) (becomes : Kept → Option Kept)
    (there : target = reference → ∀ kept, becomes kept ≠ none) : (change target sought becomes).Asks (Call.Spares reference) :=
  ⟨there, fun _ => Prog.asks_lift _ _⟩

theorem audit_spares (tenant : String) (id : Option Uuid) (actor : String) (action : AuditAction) :
    (audit platform tenant id actor action).Asks (Call.Spares reference) := by
  apply Prog.asks_bind _ _ _ (text_spares reference _)
  intro _
  apply Prog.asks_bind _ _ _ (Prog.asks_ensure _ _ _)
  exact fun _ => ⟨trivial, fun _ => Prog.asks_lift _ _⟩

theorem metadata_spares (target : SecretRef) : (metadataTx target).Asks (Call.Spares reference) := by
  apply Prog.asks_bind
  · apply Prog.asks_bind _ _ _ (text_spares reference _)
    exact fun _ => ⟨trivial, fun _ => Prog.asks_lift _ _⟩
  · intro found
    cases found <;> trivial

theorem upsert_spares (row : SecretRow) : (upsertSecret platform row).Asks (Call.Spares reference) := by
  apply Prog.asks_bind _ _ _ (text_spares reference _)
  intro _
  apply Prog.asks_bind _ _ _ (Prog.asks_ensure _ _ _)
  intro _
  apply Prog.asks_bind _ _ _ (Prog.asks_ensure _ _ _)
  intro _
  exact ⟨trivial, fun _ => Prog.asks_bind _ _ _ (Prog.asks_lift _ _) fun _ => trivial⟩

theorem insert_spares (target : SecretRef) (version : VersionRow) : (insertVersion target version).Asks (Call.Spares reference) := by
  apply Prog.asks_bind _ _ _ (text_spares reference _)
  intro _
  apply Prog.asks_bind _ _ _ (change_spares reference _ _ _ fun _ _ gone => by cases gone)
  exact fun _ => Prog.asks_ensure _ _ _

theorem put_spares (store : PostgresStore) (clock : Clock) (drawn : Draw) (input : PutSecret) (actor : String) :
    (putTx platform store clock drawn input actor).Asks (Call.Spares reference) := by
  apply Prog.asks_bind _ _ _ (Prog.asks_lift _ _)
  intro _
  apply Prog.asks_bind
  · apply Prog.asks_bind _ _ _ (text_spares reference _)
    exact fun _ => change_spares reference _ _ _ fun _ _ gone => by cases gone
  · intro existing
    apply Prog.asks_bind _ _ _ (Prog.asks_lift _ _)
    intro envelope
    apply Prog.asks_bind _ _ _ (upsert_spares platform reference _)
    intro _
    apply Prog.asks_bind _ _ _ (insert_spares reference _ _)
    intro _
    apply Prog.asks_bind _ _ _ (audit_spares platform reference _ _ _ _)
    exact fun _ => metadata_spares reference _

theorem delete_spares (target : SecretRef) (actor : String) (apart : target ≠ reference) :
    (deleteTx platform target actor).Asks (Call.Spares reference) := by
  apply Prog.asks_bind _ _ _ (text_spares reference _)
  intro _
  apply Prog.asks_bind _ _ _ (change_spares reference _ _ _ fun same => absurd same apart)
  intro gone
  cases gone with
  | none => trivial
  | some kept => exact audit_spares platform reference _ _ _ _

theorem revoke_spares (clock : Clock) (target : SecretRef) (actor : String) :
    (revokeTx platform clock target actor).Asks (Call.Spares reference) := by
  apply Prog.asks_bind _ _ _ (text_spares reference _)
  intro _
  apply Prog.asks_bind _ _ _ (change_spares reference _ _ _ fun _ _ gone => by cases gone)
  intro changed
  cases changed with
  | none => trivial
  | some kept =>
      apply Prog.asks_bind _ _ _ (audit_spares platform reference _ _ _ _)
      exact fun _ => metadata_spares reference _

theorem stale_spares (store : PostgresStore) (visited : List (SecretRef × Int)) : (selectStale store visited).Asks (Call.Spares reference) := by
  induction visited with
  | nil => trivial
  | cons place rest ih =>
      apply Prog.asks_bind _ _ _ (change_spares reference _ _ _ fun _ _ gone => by cases gone)
      intro found
      exact Prog.asks_bind _ _ _ ih fun _ => trivial

theorem rewrap_spares (store : PostgresStore) (drawn : SecretRef → Int → Draw) (actor : String) (entry : SecretRow × VersionRow) :
    (rewrapRow platform store drawn actor entry).Asks (Call.Spares reference) := by
  apply Prog.asks_bind _ _ _ (Prog.asks_lift _ _)
  intro value
  apply Prog.asks_bind _ _ _ (Prog.asks_lift _ _)
  intro envelope
  apply Prog.asks_bind _ _ _ (text_spares reference _)
  intro _
  apply Prog.asks_bind _ _ _ (change_spares reference _ _ _ fun _ _ gone => by cases gone)
  exact fun _ => audit_spares platform reference _ _ _ _

theorem task_spares (task : Task) (kept : task.deletes reference = false) : (task.program platform).Asks (Call.Spares reference) := by
  cases task with
  | put store clock drawn input =>
      exact Prog.asks_bind _ _ _ (spares_atomically reference _ _ (put_spares platform reference store clock drawn input _)) fun _ => trivial
  | delete target actor =>
      exact Prog.asks_bind _ _ _ (spares_atomically reference _ _ (delete_spares platform reference target actor (of_decide_eq_false kept)))
        fun _ => trivial
  | revoke clock target actor =>
      exact Prog.asks_bind _ _ _ (spares_atomically reference _ _ (revoke_spares platform reference clock target actor)) fun _ => trivial
  | applyBatch store clock tenant actor mutations =>
      refine Prog.asks_bind _ _ _ ?_ fun _ => trivial
      apply spares_atomically
      refine Prog.asks_bind _ _ _ ?_ fun _ => audit_spares platform reference _ _ _ _
      apply spares_each
      intro entry member
      obtain ⟨drawn, mutation⟩ := entry
      cases mutation with
      | put input => exact Prog.asks_bind _ _ _ (put_spares platform reference store clock drawn input actor) fun _ => trivial
      | delete target =>
          apply Prog.asks_embed
          apply delete_spares
          intro same
          apply absurd _ ((List.any_eq_false.mp kept) (drawn, .delete target) member)
          rw [decide_eq_true_eq, same]
  | rewrapVersions store drawn visited actor =>
      refine Prog.asks_bind _ _ _ ?_ fun _ => trivial
      apply spares_atomically
      apply Prog.asks_bind _ _ _ (text_spares reference _)
      intro _
      apply Prog.asks_bind _ _ _ (stale_spares reference store visited.rows)
      intro rows
      refine Prog.asks_bind _ _ _ ?_ fun _ => trivial
      exact spares_each reference _ rows fun entry _ => rewrap_spares platform reference store drawn actor entry

end Spares

section Counts
variable (reference : SecretRef)

-- How the version of a record grows.
def Grows (records later : Book) (puts : Nat) : Prop :=
  ∀ record, records reference = some record → ∃ newer, later reference = some newer ∧ newer.version = record.version + puts

theorem grows_trans (first middle last : Book) (some more : Nat) (start : Grows reference first middle some)
    (finish : Grows reference middle last more) : Grows reference first last (some + more) := by
  intro record known
  obtain ⟨newer, found, grown⟩ := start record known
  obtain ⟨newest, latest, further⟩ := finish newer found
  refine ⟨newest, latest, ?_⟩
  rw [further, grown]
  push_cast
  omega

theorem grows_same (records later : Book) (same : later reference = records reference) : Grows reference records later 0 := by
  intro record known
  exact ⟨record, same.trans known, (Int.add_zero _).symm⟩

theorem puts_grow (records : Book) (input : PutSecret) : Grows reference records (Ledger.puts records input) (putsOf reference (.put input)) := by
  by_cases same : input.reference = reference
  · intro record known
    rw [puts_at, if_pos same.symm, same, known]
    refine ⟨_, rfl, ?_⟩
    rw [putsOf, if_pos same]
    change ((record.history.length : Int) + 1) = (record.older.length + 1) + 1
    rw [Record.history, List.length_append]
    rfl
  · rw [putsOf, if_neg same]
    apply grows_same
    rw [puts_at, if_neg (Ne.symm same)]

theorem mutations_grow (records : Book) (mutations : List Mutation) (kept : ∀ mutation ∈ mutations, mutation ≠ .delete reference) :
    Grows reference records (mutations.foldl Ledger.mutates records) (mutations.map (putsOf reference)).sum := by
  induction mutations generalizing records with
  | nil => exact grows_same reference records records rfl
  | cons mutation rest ih =>
      rw [List.map_cons, List.sum_cons]
      apply grows_trans reference records (Ledger.mutates records mutation)
      · cases mutation with
        | put input => exact puts_grow reference records input
        | delete target =>
            apply grows_same
            apply mutates_other
            intro same
            exact kept _ List.mem_cons_self (congrArg _ same)
      · exact ih _ fun other member => kept other (List.mem_cons_of_mem _ member)

theorem task_grows (task : Task) (records : Book) (kept : task.deletes reference = false) :
    Grows reference records (task.acts records) (task.puts reference) := by
  cases task with
  | put store clock drawn input => exact puts_grow reference records input
  | delete target actor =>
      apply grows_same
      exact Function.update_of_ne (Ne.symm (of_decide_eq_false kept)) _ _
  | revoke clock target actor =>
      intro record known
      by_cases same : reference = target
      · subst same
        refine ⟨{ record with state := .revoked }, ?_, (Int.add_zero _).symm⟩
        rw [Task.acts, Ledger.revokes, Function.update_self, known]
        rfl
      · refine ⟨record, ?_, (Int.add_zero _).symm⟩
        rw [Task.acts, Ledger.revokes, Function.update_of_ne same, known]
  | applyBatch store clock tenant actor mutations =>
      have sum : (mutations.map fun entry => putsOf reference entry.2).sum = ((mutations.map Prod.snd).map (putsOf reference)).sum := by
        rw [List.map_map]
        rfl
      rw [Task.puts, sum]
      apply mutations_grow
      intro mutation member same
      obtain ⟨entry, inside, rfl⟩ := List.mem_map.mp member
      exact (List.any_eq_false.mp kept) entry inside (decide_eq_true same)
  | rewrapVersions store drawn visited actor => exact grows_same reference records records rfl

theorem trace_grows (tasks : Nat → Task) (records : Book) (trace more : Trace)
    (kept : ∀ entry ∈ more, (tasks entry.1).deletes reference = false) :
    Grows reference (ledger tasks records trace) (ledger tasks records (trace ++ more))
      (more.map fun entry => (tasks entry.1).puts reference).sum := by
  induction more generalizing trace with
  | nil =>
      rw [List.append_nil]
      exact grows_same reference _ _ rfl
  | cons entry rest ih =>
      rw [List.map_cons, List.sum_cons]
      apply grows_trans reference _ (ledger tasks records (trace ++ [entry]))
      · rw [show entry = (entry.1, entry.2) from rfl, ledger_snoc]
        exact task_grows reference (tasks entry.1) _ (kept entry List.mem_cons_self)
      · have later := ih (trace ++ [entry]) fun other member => kept other (List.mem_cons_of_mem _ member)
        rw [List.append_assoc] at later
        exact later

end Counts

-- Two puts of a record that both returned, one after the other.
def Counted (tasks : Nat → Task) (trace : Trace) (reference : SecretRef) (first second : Nat) (one two : SecretMetadata) : Prop :=
  ∃ before what between other after, trace = before ++ (first, what) :: between ++ (second, other) :: after ∧
    ((∀ entry ∈ between, (tasks entry.1).deletes reference = false) →
      two.version = one.version + (between.map fun entry => (tasks entry.1).puts reference).sum + 1)

section Outcomes
variable (platform : Platform) (tasks : Nat → Task) (rows : Records) (records : Book)
  (start : ∀ reference, Shown reference (rows reference) (records reference)) (events : List (Event StoreError))

theorem two_entries (trace : Trace) (first second : Nat) (apart : first ≠ second) (before after early late : Trace) (what other : Done)
    (here : trace = before ++ (first, what) :: after) (there : trace = early ++ (second, other) :: late) :
    (∃ between, trace = before ++ (first, what) :: between ++ (second, other) :: late ∧ early = before ++ (first, what) :: between) ∨
      ∃ between, trace = early ++ (second, other) :: between ++ (first, what) :: after ∧ before = early ++ (second, other) :: between := by
  rw [here] at there
  rcases List.append_eq_append_iff.mp there with ⟨rest, split, ends⟩ | ⟨rest, split, ends⟩
  · cases rest with
    | nil => exact absurd (congrArg Prod.fst (List.cons.inj ends).1) apart
    | cons entry between =>
        obtain ⟨same, tail⟩ := List.cons.inj ends
        rw [← same] at split
        refine .inl ⟨between, ?_, split⟩
        rw [here, tail, List.append_assoc]
        rfl
  · cases rest with
    | nil => exact absurd (congrArg Prod.fst (List.cons.inj ends).1) (Ne.symm apart)
    | cons entry between =>
        obtain ⟨same, tail⟩ := List.cons.inj ends
        rw [← same] at split
        refine .inr ⟨between, ?_, split⟩
        rw [here, split]

theorem counted_after (first second : Nat) (store more : PostgresStore) (clock tick : Clock) (drawn fresh : Draw) (input other : PutSecret)
    (one two : SecretMetadata) (begun : tasks first = .put store clock drawn input) (also : tasks second = .put more tick fresh other)
    (same : other.reference = input.reference) (before between late : Trace) (what done : Done) (trace : Trace)
    (split : trace = before ++ (first, what) :: between ++ (second, done) :: late)
    (answered : (tasks first).Answers (.metadata one) what (ledger tasks records (before ++ [(first, what)])))
    (next : (tasks second).Answers (.metadata two) done (ledger tasks records (before ++ (first, what) :: between ++ [(second, done)]))) :
    Counted tasks trace input.reference first second one two := by
  refine ⟨before, what, between, done, late, split, ?_⟩
  intro kept
  rw [begun] at answered
  rw [also] at next
  obtain ⟨record, known, reports⟩ := answered
  obtain ⟨later, found, shows⟩ := next
  have grown := trace_grows input.reference tasks records (before ++ [(first, what)]) (between ++ [(second, done)]) (by
    intro entry member
    rcases List.mem_append.mp member with inside | last
    · exact kept entry inside
    · cases List.mem_singleton.mp last
      rw [also]
      rfl)
  obtain ⟨newer, latest, version⟩ := grown record known
  have place : before ++ [(first, what)] ++ (between ++ [(second, done)]) = before ++ (first, what) :: between ++ [(second, done)] := by
    simp only [List.append_assoc, List.cons_append, List.nil_append]
  rw [place, ← same, found] at latest
  cases latest
  rw [shows.version, version, reports.version, List.map_append, List.sum_append, List.map_singleton, List.sum_singleton, also]
  rw [Task.puts, putsOf, if_pos same]
  push_cast
  omega

include start in
/-- However puts of a record interleave, none is lost: the version of the later one counts
every put since the earlier. -/
theorem no_lost_put (first second : Nat) (apart : first ≠ second) (store more : PostgresStore) (clock tick : Clock) (drawn fresh : Draw)
    (input other : PutSecret) (one two : SecretMetadata) (begun : tasks first = .put store clock drawn input)
    (also : tasks second = .put more tick fresh other) (same : other.reference = input.reference)
    (returned : ((Database.start platform tasks rows).run events).threads first = some (.done (.metadata one)))
    (besides : ((Database.start platform tasks rows).run events).threads second = some (.done (.metadata two))) :
    Counted tasks ((Database.start platform tasks rows).run events).trace input.reference first second one two ∨
      Counted tasks ((Database.start platform tasks rows).run events).trace input.reference second first two one := by
  have answers := records_returned platform tasks rows records start events
  obtain ⟨before, what, after, here, answered⟩ := answers first _ returned
  obtain ⟨early, done, late, there, next⟩ := answers second _ besides
  rcases two_entries _ first second apart before after early late what done here there with ⟨between, split, rfl⟩ | ⟨between, split, rfl⟩
  · exact .inl (counted_after tasks records first second store more clock tick drawn fresh input other one two begun also same
      before between late what done _ split answered next)
  · have reverse := counted_after tasks records second first more store tick clock fresh drawn other input two one also begun same.symm
      early between after done what _ split next answered
    rw [same] at reverse
    exact .inr reverse

include start in
/-- Of a record that is there throughout, with numbers left, every put that fits goes
through, as long as no statement fails and no call that deletes the record commits, be
it to put it back. -/
theorem put_succeeds (steady : ∀ process fault, .fail process fault ∉ events) (process : Nat) (store : PostgresStore) (clock : Clock)
    (drawn : Draw) (input : PutSecret) (called : tasks process = .put store clock drawn input) (fit : Fit platform store input input.ownerSubject)
    (there : ∀ earlier later, events = earlier ++ later → ∃ kept,
      ((Database.start platform tasks rows).run earlier).committed input.reference = some kept ∧ kept.row.currentVersion < i64Max)
    (kept : ∀ entry ∈ ((Database.start platform tasks rows).run events).trace, (tasks entry.1).deletes input.reference = false) :
    ∀ error, ((Database.start platform tasks rows).run events).threads process ≠ some (.stop error) := by
  let terms : Terms SecretRef Kept := ⟨False, fun reference row => (∀ kept, row = some kept → Whole reference kept) ∧
    (reference = input.reference → ∃ kept, row = some kept ∧ kept.row.currentVersion < i64Max), fun reference => reference ≠ input.reference⟩
  have wholesome : Wholesome terms := fun _ kept good => good.1 kept rfl
  have good : ∀ earlier later, events = earlier ++ later → ∀ reference,
      terms.good reference (((Database.start platform tasks rows).run earlier).committed reference) := by
    intro earlier later split reference
    constructor
    · exact (records_running platform tasks rows records start earlier).accounted.good reference
    · intro same
      rw [same]
      exact there earlier later split
  have alive : ∀ earlier later, events = earlier ++ later → ∀ reference,
      ((Database.start platform tasks rows).run earlier).deaths reference ≠ 0 → reference ≠ input.reference := by
    intro earlier later split reference dead same
    subst same
    apply dead
    apply run_spared input.reference (fun process => (tasks process).deletes input.reference = false)
    · exact fun process own => task_spares platform input.reference (tasks process) own
    · intro entry member
      apply kept entry
      have grown := run_extends ((Database.start platform tasks rows).run earlier) later
      rw [Machine.run, Machine.run, ← List.foldl_append, ← split] at grown
      exact grown.subset member
  have running := run_accounted_while terms rows (fun process => law (tasks process)) _ _
    (fun process => task_meets platform terms wholesome (tasks process)) events (fun process fault member => steady process fault member) good alive
  intro error stopped
  obtain ⟨phase, ends, _⟩ := running_stopped _ _ _ _ _ running process error stopped
  obtain ⟨_, reason⟩ := ends
  cases reason store clock drawn input called with
  | faulty may => exact may
  | unfit unfit => exact unfit fit
  | raced absent =>
      rcases absent with absent | replaced
      · obtain ⟨kept, impossible, _⟩ := absent.2 rfl
        cases impossible
      · exact replaced rfl
  | full kept finds last =>
      obtain ⟨other, same, below⟩ := (finds.2 rfl).2 rfl
      cases same
      omega

end Outcomes
namespace Clients

def client (second : Nat) (byte : UInt8) : Task :=
  .put Sample.oldStore (Sample.clockAt second) (countingDraw second) (Sample.secret .userRevealable byte)

def tasks : Nat → Task
  | 0 => client 1 7
  | 1 => client 2 8
  | 2 => client 3 9
  | _ => .applyBatch Sample.oldStore (Sample.clockAt 4) Sample.reference.tenant "user:one"
      [(countingDraw 4, .delete Sample.reference), (countingDraw 5, .put (Sample.secret .userRevealable 10))]

def begin : Database := Database.start countingPlatform tasks fun _ => none

def meeting : List (Event StoreError) := (List.replicate 6 0 ++ [1, 2, 1, 2] ++ List.replicate 4 1 ++ List.replicate 6 2).map Event.turn

def answer (machine : Database) (process : Nat) : Option SecretMetadata :=
  match machine.threads process with
  | some (.done (.metadata metadata)) => some metadata
  | _ => none

theorem answer_done (machine : Database) (process : Nat) (there : (answer machine process).isSome = true) :
    machine.threads process = some (.done (.metadata ((answer machine process).get there))) := by
  revert there
  unfold answer
  split
  · rename_i metadata found
    intro there
    exact found
  · intro there
    cases there

theorem meeting_first : (answer (begin.run meeting) 1).isSome = true := by decide +kernel

theorem meeting_second : (answer (begin.run meeting) 2).isSome = true := by decide +kernel

theorem meeting_counted :
    ∃ one two : SecretMetadata, (Counted tasks (begin.run meeting).trace Sample.reference 1 2 one two ∨
      Counted tasks (begin.run meeting).trace Sample.reference 2 1 two one) ∧ two.version = 3 := by
  have counted := no_lost_put countingPlatform tasks (fun _ => none) (fun _ => none) (fun _ => .none) meeting 1 2 (by decide)
    Sample.oldStore Sample.oldStore (Sample.clockAt 2) (Sample.clockAt 3) (countingDraw 2) (countingDraw 3)
    (Sample.secret .userRevealable 8) (Sample.secret .userRevealable 9) _ _ rfl rfl rfl
    (answer_done (begin.run meeting) 1 meeting_first) (answer_done (begin.run meeting) 2 meeting_second)
  exact ⟨_, _, counted, by decide +kernel⟩

def rows : Records := fun reference =>
  if reference = Sample.reference then
    some (Kept.put Sample.oldStore (Sample.clockAt 1) (countingDraw 1) (Sample.secret .userRevealable 7) none)
  else none

theorem rows_shown (reference : SecretRef) :
    Shown reference (rows reference) (Ledger.puts (fun _ => none) (Sample.secret .userRevealable 7) reference) := by
  rw [puts_at, rows, show (Sample.secret .userRevealable 7).reference = Sample.reference from rfl]
  by_cases same : reference = Sample.reference
  · subst same
    rw [if_pos rfl, if_pos rfl]
    apply Option.Rel.some
    apply depicts_put Sample.oldStore (Sample.clockAt 1) (countingDraw 1) (Sample.secret .userRevealable 7) none none .none
    exact whole_put _ _ _ _ _ (fun _ impossible => by cases impossible) (by decide)
  · rw [if_neg same, if_neg same]
    exact .none

def again : Database := Database.start countingPlatform tasks rows

def refusal (machine : Database) (process : Nat) : Option StoreError :=
  match machine.threads process with
  | some (.stop error) => some error
  | _ => none

def waiting : List (Event StoreError) := [0, 1, 0, 0, 0, 1, 0, 0, 1].map Event.turn

theorem client_succeeds : (∀ error, (again.run waiting).threads 0 ≠ some (.stop error)) ∧ (answer (again.run waiting) 0).isSome = true := by
  refine ⟨?_, by decide +kernel⟩
  apply put_succeeds countingPlatform tasks rows _ rows_shown _ _ 0 Sample.oldStore (Sample.clockAt 1) (countingDraw 1)
    (Sample.secret .userRevealable 7) rfl
  · exact ⟨rfl, by decide +kernel, by decide +kernel, by decide +kernel, by decide +kernel, by decide +kernel, by decide +kernel⟩
  · intro earlier later split
    have every : ∀ count < 10, ((again.run (waiting.take count)).committed Sample.reference).any
          (fun kept => decide (kept.row.currentVersion < i64Max)) = true := by decide +kernel
    have bound := congrArg List.length split
    rw [List.length_append] at bound
    have found := every earlier.length (by
      rw [show waiting.length = 9 from rfl] at bound
      omega)
    rw [split, List.take_left] at found
    obtain ⟨kept, here, below⟩ := (Option.any_eq_true _ _).mp found
    exact ⟨kept, here, of_decide_eq_true below⟩
  · have spared : ((again.run waiting).trace.all fun entry => !(tasks entry.1).deletes Sample.reference) = true := by decide +kernel
    intro entry member
    exact Bool.not_eq_true' _ ▸ List.all_eq_true.mp spared entry member
  · intro process fault member
    obtain ⟨_, _, impossible⟩ := List.mem_map.mp member
    cases impossible

end Clients

end RecordCalls
end Secrets
