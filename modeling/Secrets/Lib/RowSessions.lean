import Secrets.Lib.RowLocks

set_option autoImplicit false

namespace RowLocks

open Programs

variable {Key Row Note Fault Error Value : Type}

-- What a session knows: the rows it has under its lock, each as it was and as it
-- would be, and what its transactions have left.
structure Phase (Key Row Note : Type) where
  claims : Key → Option (Option Row × Option Row)
  notes : List Note
  settled : List (Settled Key Row Note)

-- What holds of every answer: whether a statement may fail at all, what is true of
-- every row as it is committed, and which rows may be deleted while one waits for them.
structure Terms (Key Row : Type) where
  faulty : Prop
  good : Key → Option Row → Prop
  replaced : Key → Prop

abbrev Law (Key Row Note : Type) : Type := List (Settled Key Row Note) → (Key → Option Row) → Settled Key Row Note → Prop

namespace Phase

def start : Phase Key Row Note := ⟨fun _ => none, [], []⟩

def closed (settled : List (Settled Key Row Note)) : Phase Key Row Note := ⟨fun _ => none, [], settled⟩

variable (phase : Phase Key Row Note)

def leaves : Settled Key Row Note := ⟨fun key => (phase.claims key).map Prod.snd, phase.notes⟩

def settle : Phase Key Row Note := closed (phase.settled ++ [phase.leaves])

def release : Phase Key Row Note := closed phase.settled

def noted (note : Note) : Phase Key Row Note := { phase with notes := phase.notes ++ [note] }

def Sees (key : Key) (row : Option Row) : Prop := ∀ was now, phase.claims key = some (was, now) → now = row

def Finds (terms : Terms Key Row) (key : Key) (row : Option Row) : Prop :=
  phase.Sees key row ∧ (phase.claims key = none → terms.good key row)

def Misses (terms : Terms Key Row) (key : Key) (sought : Row → Bool) : Prop :=
  (∃ row, phase.Finds terms key row ∧ row.filter sought = none) ∨ phase.claims key = none ∧ terms.replaced key

def Expects (terms : Terms Key Row) : (call : Call Key Row Note) → call.Answer Fault → Prop
  | .look key, .ok row => phase.Finds terms key row
  | .change key sought _, .ok (some row) => sought row = true ∧ phase.Finds terms key (some row)
  | .change key sought _, .ok none => phase.Misses terms key sought
  | .insert key _, .ok true => phase.Sees key none
  | .insert _ _, .ok false => True
  | .upsert key _ _, .ok old => phase.Finds terms key old
  | .note _, .ok _ => True
  | .commit, .ok _ => True
  | .rollback, _ => True
  | .look _, .error _ => terms.faulty
  | .change _ _ _, .error _ => terms.faulty
  | .insert _ _, .error _ => terms.faulty
  | .upsert _ _ _, .error _ => terms.faulty
  | .note _, .error _ => terms.faulty
  | .commit, .error _ => terms.faulty

def Lawful (law : Law Key Row Note) : Prop :=
  ∀ before : Key → Option Row, (∀ key was now, phase.claims key = some (was, now) → before key = was) → law phase.settled before phase.leaves

variable [DecidableEq Key]

def claim (key : Key) (seen row : Option Row) : Phase Key Row Note :=
  { phase with claims := Function.update phase.claims key (some (((phase.claims key).map Prod.fst).getD seen, row)) }

end Phase

section Claims
variable [DecidableEq Key] (terms : Terms Key Row) (phase : Phase Key Row Note)

theorem claim_own (key : Key) (seen row was now : Option Row) (claimed : phase.claims key = some (was, now)) :
    (phase.claim key seen row).claims key = some (was, row) := by
  unfold Phase.claim
  dsimp only
  rw [Function.update_self, claimed]
  rfl

theorem claim_fresh (key : Key) (seen row : Option Row) (unclaimed : phase.claims key = none) :
    (phase.claim key seen row).claims key = some (seen, row) := by
  unfold Phase.claim
  dsimp only
  rw [Function.update_self, unclaimed]
  rfl

theorem claim_other (key other : Key) (seen row : Option Row) (apart : other ≠ key) :
    (phase.claim key seen row).claims other = phase.claims other := Function.update_of_ne apart _ _

-- A session saw `now` at a key and has left `later` there, and has noted more;
-- the other rows are as it had them.
structure Turned (live : Phase Key Row Note) (key : Key) (now later : Option Row) (added : List Note) : Prop where
  settled : live.settled = phase.settled
  others : ∀ other, other ≠ key → live.claims other = phase.claims other
  own : ∃ was, live.claims key = some (was, later) ∧ (phase.claims key = some (was, now) ∨ phase.claims key = none ∧ was = now)
  notes : live.notes = phase.notes ++ added

theorem turned_claim (key : Key) (now later : Option Row) (finds : phase.Finds terms key now) :
    Turned phase (phase.claim key now later) key now later [] where
  settled := rfl
  others other apart := claim_other phase key other now later apart
  own := by
    cases claimed : phase.claims key with
    | none => exact ⟨now, claim_fresh phase key now later claimed, .inr ⟨rfl, rfl⟩⟩
    | some pair =>
        refine ⟨pair.1, claim_own phase key now later pair.1 pair.2 claimed, .inl ?_⟩
        rw [← finds.1 pair.1 pair.2 claimed]
  notes := (List.append_nil _).symm

section Turns
variable (stage : Phase Key Row Note) (key : Key) (now middle later seen : Option Row) (added : List Note)
  (turned : Turned phase stage key now middle added)
include turned

theorem turned_again : Turned phase (stage.claim key seen later) key now later added where
  settled := turned.settled
  others other apart := (claim_other stage key other seen later apart).trans (turned.others other apart)
  own := by
    obtain ⟨was, claimed, before⟩ := turned.own
    exact ⟨was, claim_own stage key seen later was middle claimed, before⟩
  notes := turned.notes

omit [DecidableEq Key] in
theorem turned_sees (finds : stage.Finds terms key seen) : seen = middle := by
  obtain ⟨was, claimed, _⟩ := turned.own
  exact (finds.1 was middle claimed).symm

omit [DecidableEq Key] in
theorem turned_noted (note : Note) : Turned phase (stage.noted note) key now middle (added ++ [note]) :=
  ⟨turned.settled, turned.others, turned.own, by rw [← List.append_assoc, ← turned.notes]; rfl⟩

end Turns

def only (key : Key) (row : Option Row) : Key → Option (Option Row) := fun other => if other = key then some row else none

theorem only_some (key other : Key) (row now : Option Row) (changed : only key row other = some now) : other = key ∧ now = row := by
  unfold only at changed
  by_cases same : other = key
  · rw [if_pos same] at changed
    exact ⟨same, (Option.some.inj changed).symm⟩
  · rw [if_neg same] at changed
    cases changed

theorem turned_leaves (settled : List (Settled Key Row Note)) (live : Phase Key Row Note) (key : Key) (now later : Option Row)
    (added : List Note) (turned : Turned (Phase.closed settled) live key now later added) : live.leaves = ⟨only key later, added⟩ := by
  unfold Phase.leaves
  congr 1
  · funext other
    by_cases same : other = key
    · obtain ⟨was, claimed, _⟩ := turned.own
      rw [same, claimed, only, if_pos rfl]
      rfl
    · rw [turned.others other same, only, if_neg same]
      rfl
  · rw [turned.notes]
    rfl

omit [DecidableEq Key] in
theorem turned_found (settled : List (Settled Key Row Note)) (live : Phase Key Row Note) (key : Key) (now later : Option Row)
    (added : List Note) (turned : Turned (Phase.closed settled) live key now later added) (before : Key → Option Row)
    (based : ∀ other was row, live.claims other = some (was, row) → before other = was) : before key = now := by
  obtain ⟨was, claimed, first⟩ := turned.own
  rcases first with impossible | ⟨_, rfl⟩
  · cases impossible
  · exact based key was later claimed

end Claims

section Sessions
variable [DecidableEq Key] (terms : Terms Key Row) (law : Law Key Row Note)

-- How a session goes on, as long as what it is answered can come. It commits
-- what is lawful only.
inductive Proceeds : Option (Phase Key Row Note) → (call : Call Key Row Note) → call.Answer Fault → Option (Phase Key Row Note) → Prop where
  | looked (phase : Phase Key Row Note) (key : Key) (row : Option Row) : Proceeds (some phase) (.look key) (.ok row) (some phase)
  | lookFails (phase : Phase Key Row Note) (key : Key) (fault : Fault) : Proceeds (some phase) (.look key) (.error fault) (some phase)
  | changeFails (phase : Phase Key Row Note) (key : Key) (sought : Row → Bool) (becomes : Row → Option Row) (fault : Fault) :
      Proceeds (some phase) (.change key sought becomes) (.error fault) (some phase)
  | insertFails (phase : Phase Key Row Note) (key : Key) (row : Row) (fault : Fault) :
      Proceeds (some phase) (.insert key row) (.error fault) (some phase)
  | upsertFails (phase : Phase Key Row Note) (key : Key) (row : Row) (merge : Row → Row) (fault : Fault) :
      Proceeds (some phase) (.upsert key row merge) (.error fault) (some phase)
  | noteFails (phase : Phase Key Row Note) (note : Note) (fault : Fault) : Proceeds (some phase) (.note note) (.error fault) (some phase)
  | commitFails (phase : Phase Key Row Note) (fault : Fault) : Proceeds (some phase) .commit (.error fault) (some phase)
  | missed (phase : Phase Key Row Note) (key : Key) (sought : Row → Bool) (becomes : Row → Option Row) :
      Proceeds (some phase) (.change key sought becomes) (.ok none) (some phase)
  | changed (phase : Phase Key Row Note) (key : Key) (sought : Row → Bool) (becomes : Row → Option Row) (row : Row) :
      Proceeds (some phase) (.change key sought becomes) (.ok (some row)) (some (phase.claim key (some row) (becomes row)))
  | refused (phase : Phase Key Row Note) (key : Key) (row : Row) : Proceeds (some phase) (.insert key row) (.ok false) (some phase)
  | inserted (phase : Phase Key Row Note) (key : Key) (row : Row) :
      Proceeds (some phase) (.insert key row) (.ok true) (some (phase.claim key none (some row)))
  | created (phase : Phase Key Row Note) (key : Key) (row : Row) (merge : Row → Row) :
      Proceeds (some phase) (.upsert key row merge) (.ok none) (some (phase.claim key none (some row)))
  | merged (phase : Phase Key Row Note) (key : Key) (row old : Row) (merge : Row → Row) :
      Proceeds (some phase) (.upsert key row merge) (.ok (some old)) (some (phase.claim key (some old) (some (merge old))))
  | noted (phase : Phase Key Row Note) (note : Note) : Proceeds (some phase) (.note note) (.ok ()) (some (phase.noted note))
  | committed (phase : Phase Key Row Note) (lawful : phase.Lawful law) : Proceeds (some phase) .commit (.ok ()) (some phase.settle)
  | rolledBack (phase : Phase Key Row Note) : Proceeds (some phase) .rollback () (some phase.release)
  | never (phase : Phase Key Row Note) (call : Call Key Row Note) (given : call.Answer Fault) (impossible : ¬phase.Expects terms call given) :
      Proceeds (some phase) call given none
  | past (call : Call Key Row Note) (given : call.Answer Fault) : Proceeds none call given none

def Meets (prog : Dialogue Key Row Note Fault Error Value) (ends : Except Error Value → Phase Key Row Note → Prop)
    (phase : Phase Key Row Note) : Prop :=
  prog.Heeds (Proceeds terms law) (fun ended stage => ∀ live, stage = some live → ends ended live) (some phase)

omit [DecidableEq Key] in
theorem past_anyway (holds : Phase Key Row Note → Prop) (live : Phase Key Row Note) (same : none = some live) : holds live := by
  cases same

theorem heeds_past (post : Except Error Value → Option (Phase Key Row Note) → Prop) (spares : ∀ ended, post ended none)
    (prog : Dialogue Key Row Note Fault Error Value) : prog.Heeds (Proceeds terms law) post none := by
  induction prog with
  | done value => exact spares _
  | stop error => exact spares _
  | ask call next ih => exact fun given => ⟨none, .past call given, ih given⟩

section Rules
variable {Result : Type} (ends : Except Error Value → Phase Key Row Note → Prop) (phase : Phase Key Row Note)

theorem meets_done (value : Value) (holds : ends (.ok value) phase) :
    Meets terms law (.done value : Dialogue Key Row Note Fault Error Value) ends phase := by
  intro live same
  cases same
  exact holds

theorem meets_stop (error : Error) (holds : ends (.error error) phase) :
    Meets terms law (.stop error : Dialogue Key Row Note Fault Error Value) ends phase := by
  intro live same
  cases same
  exact holds

theorem meets_mono (stronger : Except Error Value → Phase Key Row Note → Prop)
    (weakens : ∀ ended live, stronger ended live → ends ended live) (prog : Dialogue Key Row Note Fault Error Value)
    (meets : Meets terms law prog stronger phase) : Meets terms law prog ends phase := by
  apply heeds_mono _ _ _ _ _ _ meets
  intro ended stage holds live same
  exact weakens ended live (holds live same)

def Follows (next : Result → Dialogue Key Row Note Fault Error Value) : Except Error Result → Phase Key Row Note → Prop
  | .ok value, live => Meets terms law (next value) ends live
  | .error error, live => ends (.error error) live

theorem meets_bind (first : Dialogue Key Row Note Fault Error Result) (next : Result → Dialogue Key Row Note Fault Error Value)
    (meets : Meets terms law first (Follows terms law ends next) phase) : Meets terms law (first >>= next) ends phase := by
  apply heeds_bind
  apply heeds_mono _ _ _ _ _ _ meets
  intro ended stage holds
  cases stage with
  | none =>
      cases ended with
      | ok value => exact heeds_past terms law _ (fun _ => past_anyway _) _
      | error error => exact past_anyway _
  | some live =>
      have here := holds live rfl
      cases ended with
      | ok value => exact here
      | error error =>
          intro other same
          cases same
          exact here

theorem meets_lift (result : Except Error Value) (holds : ends result phase) :
    Meets terms law (Prog.lift result : Dialogue Key Row Note Fault Error Value) ends phase := by
  cases result with
  | ok value => exact meets_done terms law ends phase value holds
  | error error => exact meets_stop terms law ends phase error holds

theorem meets_ensure (post : Except Error Unit → Phase Key Row Note → Prop) (passes : Bool) (refused : Error)
    (goes : passes = true → post (.ok ()) phase) (fails : passes = false → post (.error refused) phase) :
    Meets terms law (Prog.ensure passes refused : Dialogue Key Row Note Fault Error Unit) post phase := by
  cases passes with
  | true => exact meets_done terms law post phase () (goes rfl)
  | false => exact meets_stop terms law post phase refused (fails rfl)

theorem meets_expected (call : Call Key Row Note) (next : call.Answer Fault → Dialogue Key Row Note Fault Error Value)
    (goes : ∀ given, phase.Expects terms call given →
      ∃ after, Proceeds terms law (some phase) call given (some after) ∧ Meets terms law (next given) ends after) :
    Meets terms law (.ask call next) ends phase := by
  intro given
  by_cases expected : phase.Expects terms call given
  · obtain ⟨after, moved, meets⟩ := goes given expected
    exact ⟨some after, moved, meets⟩
  · exact ⟨none, .never phase call given expected, heeds_past terms law _ (fun _ => past_anyway _) _⟩

theorem meets_change (key : Key) (sought : Row → Bool) (becomes : Row → Option Row)
    (next : Except Fault (Option Row) → Dialogue Key Row Note Fault Error Value)
    (fails : terms.faulty → ∀ fault, Meets terms law (next (.error fault)) ends phase)
    (missed : phase.Misses terms key sought → Meets terms law (next (.ok none)) ends phase)
    (found : ∀ row, sought row = true → phase.Finds terms key (some row) →
      Meets terms law (next (.ok (some row))) ends (phase.claim key (some row) (becomes row))) :
    Meets terms law (.ask (.change key sought becomes) next) ends phase := by
  apply meets_expected
  intro given expected
  cases given with
  | error fault => exact ⟨phase, .changeFails phase key sought becomes fault, fails expected fault⟩
  | ok row =>
      cases row with
      | none => exact ⟨phase, .missed phase key sought becomes, missed expected⟩
      | some row => exact ⟨_, .changed phase key sought becomes row, found row expected.1 expected.2⟩

theorem meets_insert (key : Key) (row : Row) (next : Except Fault Bool → Dialogue Key Row Note Fault Error Value)
    (fails : terms.faulty → ∀ fault, Meets terms law (next (.error fault)) ends phase) (refused : Meets terms law (next (.ok false)) ends phase)
    (inserted : phase.Sees key none → Meets terms law (next (.ok true)) ends (phase.claim key none (some row))) :
    Meets terms law (.ask (.insert key row) next) ends phase := by
  apply meets_expected
  intro given expected
  cases given with
  | error fault => exact ⟨phase, .insertFails phase key row fault, fails expected fault⟩
  | ok fresh =>
      cases fresh with
      | false => exact ⟨phase, .refused phase key row, refused⟩
      | true => exact ⟨_, .inserted phase key row, inserted expected⟩

theorem meets_upsert (key : Key) (row : Row) (merge : Row → Row) (next : Except Fault (Option Row) → Dialogue Key Row Note Fault Error Value)
    (fails : terms.faulty → ∀ fault, Meets terms law (next (.error fault)) ends phase)
    (created : phase.Finds terms key none → Meets terms law (next (.ok none)) ends (phase.claim key none (some row)))
    (merged : ∀ old, phase.Finds terms key (some old) →
      Meets terms law (next (.ok (some old))) ends (phase.claim key (some old) (some (merge old)))) :
    Meets terms law (.ask (.upsert key row merge) next) ends phase := by
  apply meets_expected
  intro given expected
  cases given with
  | error fault => exact ⟨phase, .upsertFails phase key row merge fault, fails expected fault⟩
  | ok old =>
      cases old with
      | none => exact ⟨_, .created phase key row merge, created expected⟩
      | some old => exact ⟨_, .merged phase key row old merge, merged old expected⟩

theorem meets_look (key : Key) (next : Except Fault (Option Row) → Dialogue Key Row Note Fault Error Value)
    (fails : terms.faulty → ∀ fault, Meets terms law (next (.error fault)) ends phase)
    (looked : ∀ row, phase.Finds terms key row → Meets terms law (next (.ok row)) ends phase) :
    Meets terms law (.ask (.look key) next) ends phase := by
  apply meets_expected
  intro given expected
  cases given with
  | error fault => exact ⟨phase, .lookFails phase key fault, fails expected fault⟩
  | ok row => exact ⟨phase, .looked phase key row, looked row expected⟩

theorem meets_note (note : Note) (next : Except Fault Unit → Dialogue Key Row Note Fault Error Value)
    (fails : terms.faulty → ∀ fault, Meets terms law (next (.error fault)) ends phase)
    (noted : Meets terms law (next (.ok ())) ends (phase.noted note)) :
    Meets terms law (.ask (.note note) next) ends phase := by
  apply meets_expected
  intro given expected
  cases given with
  | error fault => exact ⟨phase, .noteFails phase note fault, fails expected fault⟩
  | ok done => exact ⟨_, .noted phase note, noted⟩

theorem meets_commit (next : Except Fault Unit → Dialogue Key Row Note Fault Error Value) (lawful : phase.Lawful law)
    (fails : terms.faulty → ∀ fault, Meets terms law (next (.error fault)) ends phase) (settled : Meets terms law (next (.ok ())) ends phase.settle) :
    Meets terms law (.ask .commit next) ends phase := by
  apply meets_expected
  intro given expected
  cases given with
  | error fault => exact ⟨phase, .commitFails phase fault, fails expected fault⟩
  | ok done => exact ⟨_, .committed phase lawful, settled⟩

theorem meets_mending (prog : Dialogue Key Row Note Fault Error Value)
    (meets : Meets terms law prog (fun ended live => (∀ value, ended = .ok value → ends ended live) ∧
      ∀ error, ended = .error error → ends ended live.release) phase) :
    Meets terms law (prog.mending .rollback) ends phase := by
  apply heeds_mending
  apply heeds_mono _ _ _ _ _ _ meets
  intro ended stage holds
  cases ended with
  | ok value => exact fun live same => (holds live same).1 value rfl
  | error error =>
      intro given
      cases stage with
      | none => exact ⟨none, .past _ given, past_anyway _⟩
      | some phase =>
          refine ⟨some phase.release, .rolledBack phase, ?_⟩
          intro live same
          cases same
          exact (holds phase rfl).2 error rfl

theorem meets_relabel {Other : Type} (refuse : Error → Other) (after : Except Other Value → Phase Key Row Note → Prop)
    (part : Dialogue Key Row Note Fault Error Value) (meets : Meets terms law part (fun ended live => after (ended.mapError refuse) live) phase) :
    Meets terms law (relabel refuse part) after phase :=
  heeds_embed (Proceeds terms law) id (fun _ answer => answer) refuse (Proceeds terms law) (fun _ _ _ _ moved => moved) _ _ _ meets

def Closes (refused : Fault → Error) : Except Error Value → Phase Key Row Note → Prop
  | .ok value, live => live.Lawful law ∧ ends (.ok value) live.settle ∧ (terms.faulty → ∀ fault, ends (.error (refused fault)) live.release)
  | .error error, live => ends (.error error) live.release

theorem meets_closed (refused : Fault → Error) (body : Dialogue Key Row Note Fault Error Value)
    (meets : Meets terms law body (Closes terms law ends refused) phase) : Meets terms law (atomically refused body) ends phase := by
  apply meets_mending
  apply meets_bind
  apply meets_mono _ _ _ _ _ _ _ meets
  intro ended live closes
  cases ended with
  | error error =>
      refine ⟨fun _ same => (by cases same), fun other same => ?_⟩
      cases same
      exact closes
  | ok value =>
      obtain ⟨lawful, holds, fails⟩ := closes
      apply meets_commit _ _ _ _ _ lawful
      · intro faulty fault
        apply meets_stop
        refine ⟨fun _ same => (by cases same), fun other same => ?_⟩
        cases same
        exact fails faulty fault
      · apply meets_done
        refine ⟨fun other same => ?_, fun _ same => (by cases same)⟩
        cases same
        exact holds

def Left (settled : List (Settled Key Row Note)) (holds : Value → Settled Key Row Note → Prop) : Except Error Value → Phase Key Row Note → Prop
  | .ok value, live => ∃ what, live = Phase.closed (settled ++ [what]) ∧ holds value what
  | .error _, live => live = Phase.closed settled

def Commits (settled : List (Settled Key Row Note)) (holds : Value → Settled Key Row Note → Prop) :
    Except Error Value → Phase Key Row Note → Prop
  | .ok value, live => live.settled = settled ∧ live.Lawful law ∧ holds value live.leaves
  | .error _, live => live.settled = settled

theorem meets_transaction (refused : Fault → Error) (body : Dialogue Key Row Note Fault Error Value) (settled : List (Settled Key Row Note))
    (holds : Value → Settled Key Row Note → Prop) (meets : Meets terms law body (Commits law settled holds) phase) :
    Meets terms law (atomically refused body) (Left settled holds) phase := by
  apply meets_closed
  apply meets_mono _ _ _ _ _ _ _ meets
  intro ended live commits
  have nothing : live.settled = settled → live.release = Phase.closed settled := fun same => congrArg Phase.closed same
  cases ended with
  | error error => exact nothing commits
  | ok value =>
      obtain ⟨same, lawful, shows⟩ := commits
      exact ⟨lawful, ⟨live.leaves, by rw [← same]; rfl, shows⟩, fun _ _ => nothing same⟩

def Keeps (holds : Phase Key Row Note → Prop) (fails : Phase Key Row Note → Prop) : Except Error Unit → Phase Key Row Note → Prop
  | .ok _, live => holds live
  | .error _, live => fails live

theorem meets_each {Item : Type} (body : Item → Dialogue Key Row Note Fault Error Unit) (holds : List Item → Phase Key Row Note → Prop)
    (fails : Phase Key Row Note → Prop) (items : List Item)
    (keeps : ∀ done item live, item ∈ items → holds done live → Meets terms law (body item) (Keeps (holds (done ++ [item])) fails) live)
    (done : List Item) (starts : holds done phase) :
    Meets terms law (each body items) (Keeps (holds (done ++ items)) fails) phase := by
  induction items generalizing done phase with
  | nil =>
      apply meets_done
      rw [List.append_nil]
      exact starts
  | cons item rest ih =>
      apply meets_bind
      apply meets_mono _ _ _ _ _ _ _ (keeps done item phase List.mem_cons_self starts)
      intro ended live kept
      cases ended with
      | error error => exact kept
      | ok value =>
          have more := ih live (fun done item live member => keeps done item live (List.mem_cons_of_mem _ member)) (done ++ [item]) kept
          rw [List.append_assoc] at more
          exact more

end Rules
end Sessions

structure Knows (phase : Phase Key Row Note) (machine : Machine Key Row Note Fault Error Value) (process : Nat) : Prop where
  changes : ∀ key, machine.changes process key = (phase.claims key).map Prod.snd
  based : ∀ key was now, phase.claims key = some (was, now) → machine.committed key = was
  notes : machine.notes process = phase.notes
  settled : settledBy process machine.trace = phase.settled

section Knowledge
variable (phase : Phase Key Row Note) (machine : Machine Key Row Note Fault Error Value) (process other : Nat)

theorem knows_view (knows : Knows phase machine process) (key : Key) :
    machine.view process key = ((phase.claims key).map Prod.snd).getD (machine.committed key) := by
  rw [Machine.view, knows.changes]

theorem knows_sees (knows : Knows phase machine process) (key : Key) : phase.Sees key (machine.view process key) := by
  intro was now claimed
  rw [knows_view phase machine process knows, claimed]
  rfl

theorem knows_settle_other (apart : other ≠ process) (knows : Knows phase machine other) : Knows phase (machine.settle process) other where
  changes key := by
    refine (changes_freed machine process other key).trans ?_
    rw [if_neg apart]
    exact knows.changes key
  based key was now claimed := by
    have changed : machine.changes other key = some now := by rw [knows.changes, claimed]; rfl
    exact (view_other machine process other key apart now changed).trans (knows.based key was now claimed)
  notes := (Function.update_of_ne apart _ _).trans knows.notes
  settled := (settled_by_other other process (Ne.symm apart) _ _).trans knows.settled

theorem knows_release_other (apart : other ≠ process) (knows : Knows phase machine other) :
    Knows phase (machine.release process) other where
  changes key := by
    refine (changes_freed machine process other key).trans ?_
    rw [if_neg apart]
    exact knows.changes key
  based := knows.based
  notes := (Function.update_of_ne apart _ _).trans knows.notes
  settled := knows.settled

theorem knows_settle_own (knows : Knows phase machine process) : Knows phase.settle (machine.settle process) process where
  changes key := (changes_freed machine process process key).trans (if_pos rfl)
  based key was now claimed := by cases claimed
  notes := Function.update_self _ _ _
  settled := by
    refine (settled_by_own process _ _).trans ?_
    rw [knows.settled, knows.notes, show machine.changes process = fun key => (phase.claims key).map Prod.snd from funext knows.changes]
    rfl

theorem knows_release_own (knows : Knows phase machine process) : Knows phase.release (machine.release process) process where
  changes key := (changes_freed machine process process key).trans (if_pos rfl)
  based key was now claimed := by cases claimed
  notes := Function.update_self _ _ _
  settled := knows.settled

variable [DecidableEq Key]

theorem knows_claim_other (apart : other ≠ process) (key : Key) (row : Option Row) (free : machine.taken process key = false)
    (knows : Knows phase machine other) : Knows phase (machine.claim process key row) other where
  changes place := by
    rw [changes_claim machine process other key place row free, if_neg (fun both => apart both.1)]
    exact knows.changes place
  based := knows.based
  notes := knows.notes
  settled := knows.settled

theorem knows_claim_own (key : Key) (seen row : Option Row) (free : machine.taken process key = false)
    (view : machine.view process key = seen) (knows : Knows phase machine process) :
    Knows (phase.claim key seen row) (machine.claim process key row) process where
  changes place := by
    rw [changes_claim machine process process key place row free]
    unfold Phase.claim
    by_cases same : place = key
    · rw [if_pos ⟨rfl, same⟩, same]
      dsimp only
      rw [Function.update_self]
      rfl
    · rw [if_neg (fun both => same both.2)]
      dsimp only
      rw [Function.update_of_ne same]
      exact knows.changes place
  based place was now claimed := by
    unfold Phase.claim at claimed
    dsimp only at claimed
    by_cases same : place = key
    · rw [same, Function.update_self] at claimed
      obtain ⟨rfl, rfl⟩ := Prod.mk.inj (Option.some.inj claimed)
      rw [same]
      cases held : phase.claims key with
      | none =>
          rw [knows_view phase machine process knows, held] at view
          exact view
      | some pair => exact knows.based key pair.1 pair.2 held
    · rw [Function.update_of_ne same] at claimed
      exact knows.based place was now claimed
  notes := knows.notes
  settled := knows.settled

end Knowledge

section Answers
variable [DecidableEq Key] (phase : Phase Key Row Note) (machine after : Machine Key Row Note Fault Error Value) (process : Nat)

theorem changed_other (other : Nat) (apart : other ≠ process) (changed : Changed machine process after)
    (knows : Knows phase machine other) : Knows phase after other := by
  cases changed with
  | same => exact knows
  | claimed key row free => exact knows_claim_other phase machine process other apart key row free knows
  | noted notes =>
      exact ⟨knows.changes, knows.based, (Function.update_of_ne apart _ _).trans knows.notes, knows.settled⟩
  | settled => exact knows_settle_other phase machine process other apart knows
  | released => exact knows_release_other phase machine process other apart knows

variable (terms : Terms Key Row) (law : Law Key Row Note)

theorem rolled_own (stage : Option (Phase Key Row Note))
    (moved : @Proceeds Key Row Note Fault _ terms law (some phase) .rollback () stage) (knows : Knows phase machine process) :
    ∃ next, stage = some next ∧ Knows next (machine.release process) process := by
  cases moved with
  | rolledBack => exact ⟨_, rfl, knows_release_own phase machine process knows⟩
  | never _ _ _ impossible => exact absurd trivial impossible

theorem answer_own (wellKept : ∀ key, terms.good key (machine.committed key))
    (steady : ∀ key, machine.outlived process key = true → terms.replaced key) (call : Call Key Row Note) (given : call.Answer Fault)
    (answered : machine.answer process call = some (given, after))
    (stage : Option (Phase Key Row Note)) (moved : Proceeds terms law (some phase) call given stage) (knows : Knows phase machine process) :
    ∃ next, stage = some next ∧ Knows next after process := by
  have sees := knows_sees phase machine process knows
  have finds : ∀ key, phase.Finds terms key (machine.view process key) := by
    intro key
    refine ⟨sees key, ?_⟩
    intro unclaimed
    rw [knows_view phase machine process knows, unclaimed]
    exact wellKept key
  cases call with
  | look key =>
      cases answered
      cases moved with
      | looked => exact ⟨phase, rfl, knows⟩
      | never _ _ _ impossible => exact absurd (finds key) impossible
  | change key sought becomes =>
      rcases answer_change machine after process key sought becomes given answered with
        ⟨rfl, unsought, rfl⟩ | ⟨row, rfl, fits, view, free, rfl⟩
      · cases moved with
        | missed => exact ⟨phase, rfl, knows⟩
        | never _ _ _ impossible =>
            apply absurd _ impossible
            rcases unsought with outlived | unsought
            · refine .inr ⟨?_, steady key outlived⟩
              have own := (Bool.and_eq_true_iff.mp outlived).1
              rw [knows.changes, Option.isNone_map, Option.isNone_iff_eq_none] at own
              exact own
            · exact .inl ⟨_, finds key, unsought⟩
      · cases moved with
        | changed => exact ⟨_, rfl, knows_claim_own phase machine process key _ _ free view knows⟩
        | never _ _ _ impossible => exact absurd ⟨fits, view ▸ finds key⟩ impossible
  | insert key row =>
      rcases answer_insert machine after process key row given answered with ⟨rfl, rfl⟩ | ⟨rfl, view, free, rfl⟩
      · cases moved with
        | refused => exact ⟨phase, rfl, knows⟩
        | never _ _ _ impossible => exact absurd trivial impossible
      · have seen : phase.Sees key none := view ▸ sees key
        cases moved with
        | inserted => exact ⟨_, rfl, knows_claim_own phase machine process key _ _ free view knows⟩
        | never _ _ _ impossible => exact absurd seen impossible
  | upsert key row merge =>
      obtain ⟨free, old, rfl, view, rfl⟩ := answer_upsert machine after process key row merge given answered
      cases old with
      | none =>
          cases moved with
          | created => exact ⟨_, rfl, knows_claim_own phase machine process key _ _ free view knows⟩
          | never _ _ _ impossible => exact absurd (view ▸ finds key) impossible
      | some old =>
          cases moved with
          | merged => exact ⟨_, rfl, knows_claim_own phase machine process key _ _ free view knows⟩
          | never _ _ _ impossible => exact absurd (view ▸ finds key) impossible
  | note note =>
      cases answered
      cases moved with
      | noted =>
          refine ⟨_, rfl, knows.changes, knows.based, ?_, knows.settled⟩
          exact (Function.update_self _ _ _).trans (congrArg (fun notes => notes ++ [note]) knows.notes)
      | never _ _ _ impossible => exact absurd trivial impossible
  | commit =>
      cases answered
      cases moved with
      | committed => exact ⟨_, rfl, knows_settle_own phase machine process knows⟩
      | never _ _ _ impossible => exact absurd trivial impossible
  | rollback =>
      cases answered
      exact rolled_own phase machine process terms law stage moved knows

theorem failed_own (fails : terms.faulty) (call : Call Key Row Note) (fault : Fault) (asked : call ≠ .rollback) (stage : Option (Phase Key Row Note))
    (moved : Proceeds terms law (some phase) call (call.failed fault) stage) : stage = some phase := by
  cases call with
  | look key =>
      cases moved with
      | lookFails => rfl
      | never _ _ _ impossible => exact absurd fails impossible
  | change key sought becomes =>
      cases moved with
      | changeFails => rfl
      | never _ _ _ impossible => exact absurd fails impossible
  | insert key row =>
      cases moved with
      | insertFails => rfl
      | never _ _ _ impossible => exact absurd fails impossible
  | upsert key row merge =>
      cases moved with
      | upsertFails => rfl
      | never _ _ _ impossible => exact absurd fails impossible
  | note note =>
      cases moved with
      | noteFails => rfl
      | never _ _ _ impossible => exact absurd fails impossible
  | commit =>
      cases moved with
      | commitFails => rfl
      | never _ _ _ impossible => exact absurd fails impossible
  | rollback => exact absurd rfl asked

end Answers

section Runs
variable [DecidableEq Key] (terms : Terms Key Row) (rows : Key → Option Row) (laws : Nat → Law Key Row Note)
  (ends : Nat → Except Error Value → Phase Key Row Note → Prop)

structure Recounted (machine : Machine Key Row Note Fault Error Value) : Prop where
  good : ∀ key, terms.good key (machine.committed key)
  kept : ∀ key, machine.committed key = held rows machine.trace key
  lawful : ∀ before process what after, machine.trace = before ++ (process, what) :: after →
    laws process (settledBy process before) (held rows before) what

structure Running (machine : Machine Key Row Note Fault Error Value) : Prop where
  accounted : Recounted terms rows laws machine
  threads : ∀ process thread, machine.threads process = some thread →
    ∃ phase, Meets terms (laws process) thread (ends process) phase ∧ Knows phase machine process

omit [DecidableEq Key] in
theorem accounted_same (machine after : Machine Key Row Note Fault Error Value) (committed : after.committed = machine.committed)
    (trace : after.trace = machine.trace) (accounted : Recounted terms rows laws machine) : Recounted terms rows laws after := by
  constructor
  · rw [committed]
    exact accounted.good
  · rw [committed, trace]
    exact accounted.kept
  · rw [trace]
    exact accounted.lawful

theorem running_same (machine after : Machine Key Row Note Fault Error Value) (committed : after.committed = machine.committed)
    (claims : after.claims = machine.claims) (notes : after.notes = machine.notes) (threads : after.threads = machine.threads)
    (trace : after.trace = machine.trace) (running : Running terms rows laws ends machine) : Running terms rows laws ends after := by
  refine ⟨accounted_same terms rows laws machine after committed trace running.accounted, ?_⟩
  intro process thread there
  rw [threads] at there
  obtain ⟨phase, meets, knows⟩ := running.threads process thread there
  refine ⟨phase, meets, ?_, ?_, ?_, ?_⟩
  · unfold Machine.changes
    rw [claims]
    exact knows.changes
  · rw [committed]
    exact knows.based
  · rw [notes]
    exact knows.notes
  · rw [trace]
    exact knows.settled

def Upholds : Prop :=
  ∀ process earlier before what, laws process earlier before what → (∀ key, terms.good key (before key)) →
    ∀ key row, what.rows key = some row → terms.good key row

omit [DecidableEq Key] in
theorem knows_leaves (machine : Machine Key Row Note Fault Error Value) (process : Nat) (phase : Phase Key Row Note)
    (knows : Knows phase machine process) : phase.leaves = ⟨machine.changes process, machine.notes process⟩ := by
  rw [Phase.leaves, ← knows.notes, show machine.changes process = fun key => (phase.claims key).map Prod.snd from funext knows.changes]

def Sustains (machine : Machine Key Row Note Fault Error Value) (process : Nat) : Prop :=
  ∀ phase next, machine.threads process = some (.ask .commit next) → Knows phase machine process → phase.Lawful (laws process) →
    ∀ key, terms.good key ((machine.settle process).committed key)

omit [DecidableEq Key] in
theorem upholds_sustains (sound : Upholds terms laws) (machine : Machine Key Row Note Fault Error Value) (process : Nat)
    (good : ∀ key, terms.good key (machine.committed key)) : Sustains terms laws machine process := by
  intro phase _ _ knows lawful key
  change terms.good key ((machine.changes process key).getD (machine.committed key))
  cases changed : machine.changes process key with
  | none => exact good key
  | some now =>
      apply sound process phase.settled machine.committed phase.leaves (lawful machine.committed knows.based) good key now
      rw [knows_leaves machine process phase knows]
      exact changed

omit [DecidableEq Key] in
theorem accounted_settle (machine : Machine Key Row Note Fault Error Value) (process : Nat)
    (phase : Phase Key Row Note) (knows : Knows phase machine process) (lawful : phase.Lawful (laws process))
    (good : ∀ key, terms.good key ((machine.settle process).committed key))
    (accounted : Recounted terms rows laws machine) : Recounted terms rows laws (machine.settle process) := by
  have leaves := knows_leaves machine process phase knows
  constructor
  · exact good
  · intro key
    refine Eq.trans ?_ (held_snoc rows machine.trace process _ key).symm
    rw [← accounted.kept key]
    rfl
  · intro before other what after same
    rcases snoc_split _ _ _ _ _ same with ⟨_, rfl, entry⟩ | ⟨rest, _, inside⟩
    · cases entry
      rw [← leaves, knows.settled]
      apply lawful
      intro key was now claimed
      rw [← accounted.kept key]
      exact knows.based key was now claimed
    · exact accounted.lawful before other what rest inside

theorem running_resume (machine after : Machine Key Row Note Fault Error Value) (process : Nat)
    (changed : Changed machine process after) (accounted : Recounted terms rows laws after) (running : Running terms rows laws ends machine)
    (thread : Dialogue Key Row Note Fault Error Value) (phase : Phase Key Row Note) (meets : Meets terms (laws process) thread (ends process) phase)
    (knows : Knows phase after process) : Running terms rows laws ends (after.resume process thread) := by
  refine ⟨accounted_same terms rows laws after _ rfl rfl accounted, ?_⟩
  intro other current there
  have same : after.threads = machine.threads := by cases changed <;> rfl
  change Function.update after.threads process (some thread) other = some current at there
  by_cases own : other = process
  · rw [own, Function.update_self] at there
    cases there
    rw [own]
    exact ⟨phase, meets, ⟨knows.changes, knows.based, knows.notes, knows.settled⟩⟩
  · rw [Function.update_of_ne own, same] at there
    obtain ⟨others, still, known⟩ := running.threads other current there
    have kept := changed_other others machine after process other own changed known
    exact ⟨others, still, ⟨kept.changes, kept.based, kept.notes, kept.settled⟩⟩

theorem answer_accounted (machine after : Machine Key Row Note Fault Error Value) (process : Nat) (phase next : Phase Key Row Note)
    (call : Call Key Row Note) (given : call.Answer Fault) (answered : machine.answer process call = some (given, after))
    (sustains : call = .commit → phase.Lawful (laws process) → ∀ key, terms.good key ((machine.settle process).committed key))
    (moved : Proceeds terms (laws process) (some phase) call given (some next)) (knows : Knows phase machine process)
    (accounted : Recounted terms rows laws machine) : Recounted terms rows laws after := by
  cases call with
  | commit =>
      cases answered
      cases moved with
      | committed _ lawful => exact accounted_settle terms rows laws machine process phase knows lawful (sustains rfl lawful) accounted
  | look key =>
      cases answered
      exact accounted
  | change key sought becomes =>
      rcases answer_change machine after process key sought becomes given answered with ⟨_, _, rfl⟩ | ⟨row, _, _, _, _, rfl⟩
      · exact accounted
      · exact accounted_same terms rows laws machine _ rfl rfl accounted
  | insert key row =>
      rcases answer_insert machine after process key row given answered with ⟨_, rfl⟩ | ⟨_, _, _, rfl⟩
      · exact accounted
      · exact accounted_same terms rows laws machine _ rfl rfl accounted
  | upsert key row merge =>
      obtain ⟨_, _, _, _, rfl⟩ := answer_upsert machine after process key row merge given answered
      exact accounted_same terms rows laws machine _ rfl rfl accounted
  | note note =>
      cases answered
      exact accounted_same terms rows laws machine _ rfl rfl accounted
  | rollback =>
      cases answered
      exact accounted_same terms rows laws machine _ rfl rfl accounted

theorem running_turn (machine : Machine Key Row Note Fault Error Value) (process : Nat)
    (sustains : Sustains terms laws machine process) (steady : ∀ key, machine.outlived process key = true → terms.replaced key)
    (running : Running terms rows laws ends machine) : Running terms rows laws ends (machine.turn process) := by
  unfold Machine.turn
  split
  · rename_i call next there
    split
    · rename_i given after answered
      obtain ⟨phase, meets, knows⟩ := running.threads process _ there
      obtain ⟨stage, moved, rest⟩ := meets given
      obtain ⟨live, rfl, known⟩ := answer_own phase machine after process terms (laws process) running.accounted.good steady call given
        answered stage moved knows
      apply running_resume terms rows laws ends machine after process (answer_changed machine after process call given answered) _ running
        (next given) live rest known
      apply answer_accounted terms rows laws machine after process phase live call given answered _ moved knows running.accounted
      intro same lawful
      subst same
      exact sustains phase next there knows lawful
    · exact running_same terms rows laws ends machine _ rfl rfl rfl rfl rfl running
  · exact running

theorem running_fail (fails : terms.faulty) (machine : Machine Key Row Note Fault Error Value) (process : Nat) (fault : Fault)
    (running : Running terms rows laws ends machine) : Running terms rows laws ends (machine.fail process fault) := by
  unfold Machine.fail
  split
  · rename_i next there
    obtain ⟨phase, meets, knows⟩ := running.threads process _ there
    obtain ⟨stage, moved, rest⟩ := meets ()
    obtain ⟨live, rfl, known⟩ := rolled_own phase machine process terms (laws process) stage moved knows
    apply running_resume terms rows laws ends machine _ process .released _ running (next ()) live rest known
    exact accounted_same terms rows laws machine _ rfl rfl running.accounted
  · rename_i call next asked there
    obtain ⟨phase, meets, knows⟩ := running.threads process _ there
    obtain ⟨stage, moved, rest⟩ := meets (call.failed fault)
    have other : call ≠ .rollback := by
      intro same
      subst same
      exact asked next rfl HEq.rfl
    have stays := failed_own phase terms (laws process) fails call fault other stage moved
    subst stays
    exact running_resume terms rows laws ends machine machine process .same running.accounted running (next (call.failed fault)) phase rest knows
  · exact running

theorem running_halt (machine : Machine Key Row Note Fault Error Value) (process : Nat) (running : Running terms rows laws ends machine) :
    Running terms rows laws ends (machine.halt process) := by
  refine ⟨accounted_same terms rows laws machine _ rfl rfl running.accounted, ?_⟩
  intro other current there
  change Function.update machine.threads process none other = some current at there
  by_cases own : other = process
  · rw [own, Function.update_self] at there
    cases there
  · rw [Function.update_of_ne own] at there
    obtain ⟨phase, meets, knows⟩ := running.threads other current there
    have kept := knows_release_other phase machine process other own knows
    exact ⟨phase, meets, ⟨kept.changes, kept.based, kept.notes, kept.settled⟩⟩

theorem running_step (machine : Machine Key Row Note Fault Error Value) (event : Event Fault)
    (sustains : ∀ process, event = .turn process → Sustains terms laws machine process)
    (steady : ∀ process key, machine.outlived process key = true → terms.replaced key)
    (fails : ∀ process fault, event = .fail process fault → terms.faulty) (running : Running terms rows laws ends machine) :
    Running terms rows laws ends (machine.step event) := by
  cases event with
  | turn process => exact running_turn terms rows laws ends machine process (sustains process rfl) (steady process) running
  | fail process fault => exact running_fail terms rows laws ends (fails process fault rfl) machine process fault running
  | stop process => exact running_halt terms rows laws ends machine process running

omit [DecidableEq Key] in
theorem knows_start (programs : Nat → Dialogue Key Row Note Fault Error Value) (process : Nat) :
    Knows Phase.start (Machine.start rows programs) process where
  changes _ := rfl
  based _ _ _ claimed := by cases claimed
  notes := rfl
  settled := rfl

theorem running_start (start : ∀ key, terms.good key (rows key)) (programs : Nat → Dialogue Key Row Note Fault Error Value)
    (meets : ∀ process, Meets terms (laws process) (programs process) (ends process) Phase.start) :
    Running terms rows laws ends (Machine.start rows programs) := by
  refine ⟨⟨start, fun _ => rfl, ?_⟩, ?_⟩
  · intro before process what after same
    obtain ⟨_, impossible⟩ := List.append_eq_nil_iff.mp same.symm
    cases impossible
  · intro process thread there
    cases Option.some.inj there
    exact ⟨_, meets process, knows_start rows programs process⟩

theorem run_accounted (sound : Upholds terms laws) (any : ∀ key, terms.replaced key) (start : ∀ key, terms.good key (rows key))
    (programs : Nat → Dialogue Key Row Note Fault Error Value)
    (meets : ∀ process, Meets terms (laws process) (programs process) (ends process) Phase.start) (events : List (Event Fault))
    (fails : ∀ process fault, .fail process fault ∈ events → terms.faulty) :
    Running terms rows laws ends ((Machine.start rows programs).run events) := by
  have every : ∀ machine, Running terms rows laws ends machine → Running terms rows laws ends (machine.run events) := by
    induction events with
    | nil => exact fun machine running => running
    | cons event rest ih =>
        intro machine running
        apply ih (fun process fault member => fails process fault (List.mem_cons_of_mem _ member))
        apply running_step terms rows laws ends machine event _ (fun _ key _ => any key) _ running
        · exact fun process _ => upholds_sustains terms laws sound machine process running.accounted.good
        · intro process fault same
          exact fails process fault (same ▸ List.mem_cons_self)
  exact every _ (running_start terms rows laws ends start programs meets)

theorem turn_commits (machine : Machine Key Row Note Fault Error Value) (process : Nat)
    (next : Except Fault Unit → Dialogue Key Row Note Fault Error Value) (there : machine.threads process = some (.ask .commit next)) :
    (machine.turn process).committed = (machine.settle process).committed := by
  unfold Machine.turn
  rw [there]
  rfl

theorem run_accounted_while (programs : Nat → Dialogue Key Row Note Fault Error Value)
    (meets : ∀ process, Meets terms (laws process) (programs process) (ends process) Phase.start) (events : List (Event Fault))
    (fails : ∀ process fault, .fail process fault ∈ events → terms.faulty)
    (good : ∀ earlier later, events = earlier ++ later → ∀ key, terms.good key (((Machine.start rows programs).run earlier).committed key))
    (alive : ∀ earlier later, events = earlier ++ later → ∀ key, ((Machine.start rows programs).run earlier).deaths key ≠ 0 → terms.replaced key) :
    Running terms rows laws ends ((Machine.start rows programs).run events) := by
  have every : ∀ machine, (∀ earlier later, events = earlier ++ later → ∀ key, terms.good key ((machine.run earlier).committed key)) →
      (∀ earlier later, events = earlier ++ later → ∀ key, (machine.run earlier).deaths key ≠ 0 → terms.replaced key) → Waited machine →
        Running terms rows laws ends machine → Running terms rows laws ends (machine.run events) := by
    clear good alive
    induction events with
    | nil => exact fun machine _ _ _ running => running
    | cons event rest ih =>
        intro machine throughout alive waited running
        have longer : ∀ earlier later, rest = earlier ++ later → event :: rest = event :: earlier ++ later :=
          fun earlier later same => by rw [same, List.cons_append]
        apply ih (fun process fault member => fails process fault (List.mem_cons_of_mem _ member))
        · exact fun earlier later same => throughout (event :: earlier) later (longer earlier later same)
        · exact fun earlier later same => alive (event :: earlier) later (longer earlier later same)
        · exact step_waited machine event waited
        · apply running_step terms rows laws ends machine event _ _ _ running
          · intro process turns phase next there _ _ key
            rw [← turn_commits machine process next there]
            have after := throughout [event] rest rfl key
            rw [turns] at after
            exact after
          · intro process key outlived
            exact alive [] (event :: rest) rfl key (outlived_dead machine waited process key outlived)
          · intro process fault same
            exact fails process fault (same ▸ List.mem_cons_self)
  exact every _ good alive (run_waited rows programs []) (running_start terms rows laws ends (good [] events rfl) programs meets)

theorem running_done (machine : Machine Key Row Note Fault Error Value) (running : Running terms rows laws ends machine) (process : Nat)
    (value : Value) (there : machine.threads process = some (.done value)) :
    ∃ phase, ends process (.ok value) phase ∧ phase.settled = settledBy process machine.trace := by
  obtain ⟨phase, meets, knows⟩ := running.threads process _ there
  exact ⟨phase, meets phase rfl, knows.settled.symm⟩

theorem running_stopped (machine : Machine Key Row Note Fault Error Value) (running : Running terms rows laws ends machine) (process : Nat)
    (error : Error) (there : machine.threads process = some (.stop error)) :
    ∃ phase, ends process (.error error) phase ∧ phase.settled = settledBy process machine.trace := by
  obtain ⟨phase, meets, knows⟩ := running.threads process _ there
  exact ⟨phase, meets phase rfl, knows.settled.symm⟩

end Runs
end RowLocks
