import Mathlib.Logic.Function.Basic
import Secrets.Lib.Programs

set_option autoImplicit false

namespace RowLocks

open Programs

variable {Key Row Note Fault Error Value : Type}

-- What a session asks of a database: a SELECT of one row; a DELETE, an UPDATE or a
-- SELECT FOR UPDATE, with its WHERE; an INSERT, and whether the row is new; an INSERT
-- ON CONFLICT DO UPDATE; anything else its transaction does; the transaction's end.
inductive Call (Key Row Note : Type) where
  | look (key : Key)
  | change (key : Key) (sought : Row → Bool) (becomes : Row → Option Row)
  | insert (key : Key) (row : Row)
  | upsert (key : Key) (row : Row) (merge : Row → Row)
  | note (note : Note)
  | commit
  | rollback

abbrev Call.Answer (Fault : Type) : Call Key Row Note → Type
  | .look _ => Except Fault (Option Row)
  | .change _ _ _ => Except Fault (Option Row)
  | .insert _ _ => Except Fault Bool
  | .upsert _ _ _ => Except Fault (Option Row)
  | .note _ => Except Fault Unit
  | .commit => Except Fault Unit
  | .rollback => Unit

def Call.failed (fault : Fault) : (call : Call Key Row Note) → call.Answer Fault
  | .look _ => .error fault
  | .change _ _ _ => .error fault
  | .insert _ _ => .error fault
  | .upsert _ _ _ => .error fault
  | .note _ => .error fault
  | .commit => .error fault
  | .rollback => ()

def Call.awaited : Call Key Row Note → Option Key
  | .change key _ _ => some key
  | _ => none

abbrev Dialogue (Key Row Note Fault Error Value : Type) : Type := Prog (Call Key Row Note) (Call.Answer Fault) Error Value

def atomically (refused : Fault → Error) (body : Dialogue Key Row Note Fault Error Value) : Dialogue Key Row Note Fault Error Value :=
  (body >>= fun value => .ask .commit fun answer => Prog.lift (answer.mapError refused) >>= fun _ => .done value).mending .rollback

def each {Item : Type} (body : Item → Dialogue Key Row Note Fault Error Unit) : List Item → Dialogue Key Row Note Fault Error Unit
  | [] => .done ()
  | item :: rest => body item >>= fun _ => each body rest

def relabel {Other : Type} (refuse : Error → Other) (part : Dialogue Key Row Note Fault Error Value) :
    Dialogue Key Row Note Fault Other Value :=
  part.embed id (fun _ answer => answer) refuse

structure Settled (Key Row Note : Type) where
  rows : Key → Option (Option Row)
  notes : List Note

-- Rows as they are committed, and how many of the committed transactions deleted
-- each, put back or not. A row that an open transaction changed is that session's
-- until it ends; the others see it as it was, and who waits for it waits for the
-- row that it found.
structure Machine (Key Row Note Fault Error Value : Type) where
  committed : Key → Option Row
  deaths : Key → Nat
  claims : Key → Option (Nat × Option Row)
  dropped : Nat → Key → Bool
  waits : Nat → Option (Key × Nat)
  notes : Nat → List Note
  threads : Nat → Option (Dialogue Key Row Note Fault Error Value)
  trace : List (Nat × Settled Key Row Note)

def owned (process : Nat) (claim : Option (Nat × Option Row)) : Option (Option Row) :=
  (claim.filter fun claim => decide (claim.1 = process)).map Prod.snd

def unowned (process : Nat) (claim : Option (Nat × Option Row)) : Option (Nat × Option Row) :=
  claim.filter fun claim => decide (claim.1 ≠ process)

theorem owned_some (process holder : Nat) (row : Option Row) :
    owned process (some (holder, row)) = if holder = process then some row else none := by
  by_cases own : holder = process <;> simp [owned, Option.filter, own]

theorem owned_unowned (process other : Nat) (claim : Option (Nat × Option Row)) :
    owned other (unowned process claim) = if other = process then none else owned other claim := by
  cases claim with
  | none => by_cases same : other = process <;> simp [owned, unowned, same]
  | some claim =>
      by_cases own : claim.1 = process
      · by_cases same : other = process
        · simp [owned, unowned, Option.filter, own, same]
        · simp [owned, unowned, Option.filter, own, same, Ne.symm same]
      · by_cases same : other = process
        · simp [owned, unowned, Option.filter, own, same]
        · simp [owned, unowned, Option.filter, own, same]

inductive Event (Fault : Type) where
  | turn (process : Nat)
  | fail (process : Nat) (fault : Fault)
  | stop (process : Nat)

namespace Machine

def start (rows : Key → Option Row) (programs : Nat → Dialogue Key Row Note Fault Error Value) :
    Machine Key Row Note Fault Error Value :=
  ⟨rows, fun _ => 0, fun _ => none, fun _ _ => false, fun _ => none, fun _ => [], fun process => some (programs process), []⟩

section Sessions
variable (machine : Machine Key Row Note Fault Error Value) (process : Nat)

def changes (key : Key) : Option (Option Row) := owned process (machine.claims key)

def view (key : Key) : Option Row := (machine.changes process key).getD (machine.committed key)

def taken (key : Key) : Bool := (machine.claims key).any fun claim => decide (claim.1 ≠ process)

def certain (key : Key) : Bool := (machine.committed key).isSome && (machine.claims key).all fun claim => claim.2.isSome

def freed (key : Key) : Option (Nat × Option Row) := unowned process (machine.claims key)

def settle : Machine Key Row Note Fault Error Value :=
  { machine with
    committed := machine.view process
    deaths := fun key => machine.deaths key + (machine.dropped process key).toNat
    claims := machine.freed process
    dropped := Function.update machine.dropped process fun _ => false
    notes := Function.update machine.notes process []
    trace := machine.trace ++ [(process, ⟨machine.changes process, machine.notes process⟩)] }

def release : Machine Key Row Note Fault Error Value :=
  { machine with
    claims := machine.freed process
    dropped := Function.update machine.dropped process fun _ => false
    notes := Function.update machine.notes process [] }

def wait (call : Call Key Row Note) : Machine Key Row Note Fault Error Value :=
  { machine with waits := Function.update machine.waits process (call.awaited.map fun key => (key, machine.deaths key)) }

variable [DecidableEq Key]

def claim (key : Key) (row : Option Row) : Machine Key Row Note Fault Error Value :=
  { machine with
    claims := Function.update machine.claims key (some (process, row))
    dropped := Function.update machine.dropped process
      (Function.update (machine.dropped process) key (machine.dropped process key || row.isNone)) }

-- The row that the session waits for was deleted meanwhile.
def outlived (key : Key) : Bool :=
  (machine.changes process key).isNone &&
    (machine.waits process).any fun wait => decide (wait.1 = key) && decide (wait.2 ≠ machine.deaths key)

-- A statement waits while the row that it would change is another session's. It
-- passes over a row that was deleted meanwhile, put back or not.
def answer : (call : Call Key Row Note) → Option (call.Answer Fault × Machine Key Row Note Fault Error Value)
  | .look key => some (.ok (machine.view process key), machine)
  | .change key sought becomes =>
      if machine.outlived process key then some (.ok none, machine)
      else
        match (machine.view process key).filter sought with
        | none => some (.ok none, machine)
        | some row => if machine.taken process key then none else some (.ok (some row), machine.claim process key (becomes row))
  | .insert key row =>
      if machine.taken process key then
        if machine.certain key then some (.ok false, machine) else none
      else
        match machine.view process key with
        | some _ => some (.ok false, machine)
        | none => some (.ok true, machine.claim process key (some row))
  | .upsert key row merge =>
      if machine.taken process key then none
      else
        match machine.view process key with
        | some old => some (.ok (some old), machine.claim process key (some (merge old)))
        | none => some (.ok none, machine.claim process key (some row))
  | .note note => some (.ok (), { machine with notes := Function.update machine.notes process (machine.notes process ++ [note]) })
  | .commit => some (.ok (), machine.settle process)
  | .rollback => some ((), machine.release process)

def resume (thread : Dialogue Key Row Note Fault Error Value) : Machine Key Row Note Fault Error Value :=
  { machine with
    waits := Function.update machine.waits process none
    threads := Function.update machine.threads process (some thread) }

def turn : Machine Key Row Note Fault Error Value :=
  match machine.threads process with
  | some (.ask call next) =>
      match machine.answer process call with
      | some (given, after) => after.resume process (next given)
      | none => machine.wait process call
  | _ => machine

def fail (fault : Fault) : Machine Key Row Note Fault Error Value :=
  match machine.threads process with
  | some (.ask .rollback next) => (machine.release process).resume process (next ())
  | some (.ask call next) => machine.resume process (next (call.failed fault))
  | _ => machine

def halt : Machine Key Row Note Fault Error Value :=
  { machine.release process with
    waits := Function.update machine.waits process none
    threads := Function.update machine.threads process none }

end Sessions

variable [DecidableEq Key]

def step (machine : Machine Key Row Note Fault Error Value) : Event Fault → Machine Key Row Note Fault Error Value
  | .turn process => machine.turn process
  | .fail process fault => machine.fail process fault
  | .stop process => machine.halt process

def run (machine : Machine Key Row Note Fault Error Value) (events : List (Event Fault)) : Machine Key Row Note Fault Error Value :=
  events.foldl step machine

end Machine

def held (rows : Key → Option Row) (trace : List (Nat × Settled Key Row Note)) (key : Key) : Option Row :=
  trace.foldl (fun row entry => (entry.2.rows key).getD row) (rows key)

theorem held_snoc (rows : Key → Option Row) (trace : List (Nat × Settled Key Row Note)) (process : Nat)
    (what : Settled Key Row Note) (key : Key) :
    held rows (trace ++ [(process, what)]) key = (what.rows key).getD (held rows trace key) := by
  rw [held, List.foldl_append]
  rfl

def settledBy (process : Nat) (trace : List (Nat × Settled Key Row Note)) : List (Settled Key Row Note) :=
  trace.filterMap fun entry => if entry.1 = process then some entry.2 else none

theorem settled_by_own (process : Nat) (trace : List (Nat × Settled Key Row Note)) (what : Settled Key Row Note) :
    settledBy process (trace ++ [(process, what)]) = settledBy process trace ++ [what] := by
  rw [settledBy, List.filterMap_append]
  simp [settledBy]

theorem settled_by_other (process other : Nat) (apart : other ≠ process) (trace : List (Nat × Settled Key Row Note))
    (what : Settled Key Row Note) : settledBy process (trace ++ [(other, what)]) = settledBy process trace := by
  rw [settledBy, List.filterMap_append]
  simp [settledBy, apart]

theorem settled_split (process : Nat) (trace : List (Nat × Settled Key Row Note)) (first last : List (Settled Key Row Note))
    (what : Settled Key Row Note) (same : settledBy process trace = first ++ what :: last) :
    ∃ before after, trace = before ++ (process, what) :: after ∧ settledBy process before = first ∧ settledBy process after = last := by
  obtain ⟨before, rest, rfl, starts, ends⟩ := List.filterMap_eq_append_iff.mp same
  obtain ⟨skipped, entry, after, rfl, none, here, later⟩ := List.filterMap_eq_cons_iff.mp ends
  have own : entry = (process, what) := by
    by_cases holder : entry.1 = process
    · rw [if_pos holder] at here
      exact Prod.ext holder (Option.some.inj here)
    · rw [if_neg holder] at here
      cases here
  refine ⟨before ++ skipped, after, by rw [own, List.append_assoc], ?_, later⟩
  rw [settledBy, List.filterMap_append]
  have empty : settledBy process skipped = [] := List.filterMap_eq_nil_iff.mpr none
  rw [show skipped.filterMap _ = [] from empty, List.append_nil]
  exact starts

section Steps
variable (machine after : Machine Key Row Note Fault Error Value) (process other : Nat)

theorem changes_freed (key : Key) : owned other (machine.freed process key) = if other = process then none else machine.changes other key :=
  owned_unowned process other (machine.claims key)

theorem changes_none_of_free (key : Key) (apart : other ≠ process) (free : machine.taken process key = false) :
    machine.changes other key = none := by
  unfold Machine.changes
  cases claimed : machine.claims key with
  | none => rfl
  | some claim =>
      have own : claim.1 = process := by simpa [Machine.taken, claimed] using free
      rw [show claim = (claim.1, claim.2) from rfl, owned_some, own, if_neg (Ne.symm apart)]

theorem view_other (key : Key) (apart : other ≠ process) (row : Option Row) (changed : machine.changes other key = some row) :
    machine.view process key = machine.committed key := by
  have untouched : machine.changes process key = none := by
    unfold Machine.changes at changed ⊢
    cases claimed : machine.claims key with
    | none => rfl
    | some claim =>
        rw [claimed, show claim = (claim.1, claim.2) from rfl, owned_some] at changed
        rw [show claim = (claim.1, claim.2) from rfl, owned_some]
        by_cases holder : claim.1 = other
        · rw [holder, if_neg apart]
        · rw [if_neg holder] at changed
          cases changed
  rw [Machine.view, untouched]
  rfl

variable [DecidableEq Key]

theorem changes_claim (key place : Key) (row : Option Row) (free : machine.taken process key = false) :
    (machine.claim process key row).changes other place =
      if other = process ∧ place = key then some row else machine.changes other place := by
  by_cases same : place = key
  · rw [same]
    unfold Machine.changes Machine.claim
    dsimp only
    rw [Function.update_self, owned_some]
    by_cases own : other = process
    · rw [if_pos own.symm, if_pos ⟨own, rfl⟩]
    · rw [if_neg (Ne.symm own), if_neg (fun both => own both.1)]
      exact (changes_none_of_free machine process other key own free).symm
  · rw [if_neg (fun both => same both.2)]
    unfold Machine.changes Machine.claim
    dsimp only
    rw [Function.update_of_ne same]

end Steps

section Answers
variable [DecidableEq Key] (machine after : Machine Key Row Note Fault Error Value) (process : Nat)

-- What a statement may do to a machine: nothing, take a free row, note something,
-- or end the transaction.
inductive Changed : Machine Key Row Note Fault Error Value → Prop where
  | same : Changed machine
  | claimed (key : Key) (row : Option Row) (free : machine.taken process key = false) : Changed (machine.claim process key row)
  | noted (notes : List Note) : Changed { machine with notes := Function.update machine.notes process notes }
  | settled : Changed (machine.settle process)
  | released : Changed (machine.release process)

theorem answer_change (key : Key) (sought : Row → Bool) (becomes : Row → Option Row) (given : Except Fault (Option Row))
    (answered : machine.answer process (.change key sought becomes) = some (given, after)) :
    given = .ok none ∧ (machine.outlived process key = true ∨ (machine.view process key).filter sought = none) ∧ after = machine ∨
      ∃ row, given = .ok (some row) ∧ sought row = true ∧ machine.view process key = some row ∧
        machine.taken process key = false ∧ after = machine.claim process key (becomes row) := by
  rw [Machine.answer] at answered
  by_cases outlived : machine.outlived process key = true
  · rw [if_pos outlived] at answered
    cases answered
    exact .inl ⟨rfl, .inl outlived, rfl⟩
  · rw [if_neg outlived] at answered
    split at answered
    · rename_i unsought
      cases answered
      exact .inl ⟨rfl, .inr unsought, rfl⟩
    · rename_i row found
      by_cases taken : machine.taken process key = true
      · rw [if_pos taken] at answered
        cases answered
      · rw [if_neg taken] at answered
        cases answered
        obtain ⟨view, fits⟩ := Option.filter_eq_some_iff.mp found
        exact .inr ⟨row, rfl, fits, view, Bool.not_eq_true _ ▸ taken, rfl⟩

theorem answer_insert (key : Key) (row : Row) (given : Except Fault Bool)
    (answered : machine.answer process (.insert key row) = some (given, after)) :
    given = .ok false ∧ after = machine ∨ given = .ok true ∧ machine.view process key = none ∧
      machine.taken process key = false ∧ after = machine.claim process key (some row) := by
  rw [Machine.answer] at answered
  by_cases taken : machine.taken process key = true
  · rw [if_pos taken] at answered
    split at answered
    · cases answered
      exact .inl ⟨rfl, rfl⟩
    · cases answered
  · rw [if_neg taken] at answered
    split at answered
    · cases answered
      exact .inl ⟨rfl, rfl⟩
    · rename_i view
      cases answered
      exact .inr ⟨rfl, view, Bool.not_eq_true _ ▸ taken, rfl⟩

theorem answer_upsert (key : Key) (row : Row) (merge : Row → Row) (given : Except Fault (Option Row))
    (answered : machine.answer process (.upsert key row merge) = some (given, after)) :
    machine.taken process key = false ∧ ∃ old, given = .ok old ∧ machine.view process key = old ∧
      after = machine.claim process key (some (old.elim row merge)) := by
  rw [Machine.answer] at answered
  by_cases taken : machine.taken process key = true
  · rw [if_pos taken] at answered
    cases answered
  · rw [if_neg taken] at answered
    refine ⟨Bool.not_eq_true _ ▸ taken, ?_⟩
    split at answered
    · rename_i old view
      cases answered
      exact ⟨some old, rfl, view, rfl⟩
    · rename_i view
      cases answered
      exact ⟨none, rfl, view, rfl⟩

theorem answer_changed (call : Call Key Row Note) (given : call.Answer Fault) (answered : machine.answer process call = some (given, after)) :
    Changed machine process after := by
  cases call with
  | look key =>
      cases answered
      exact .same
  | change key sought becomes =>
      rcases answer_change machine after process key sought becomes given answered with ⟨_, _, rfl⟩ | ⟨row, _, _, _, free, rfl⟩
      · exact .same
      · exact .claimed key _ free
  | insert key row =>
      rcases answer_insert machine after process key row given answered with ⟨_, rfl⟩ | ⟨_, _, free, rfl⟩
      · exact .same
      · exact .claimed key _ free
  | upsert key row merge =>
      obtain ⟨free, old, _, _, rfl⟩ := answer_upsert machine after process key row merge given answered
      exact .claimed key _ free
  | note note =>
      cases answered
      exact .noted _
  | commit =>
      cases answered
      exact .settled
  | rollback =>
      cases answered
      exact .released

end Answers

section Growth
variable [DecidableEq Key] (machine : Machine Key Row Note Fault Error Value)

theorem changed_extends (after : Machine Key Row Note Fault Error Value) (process : Nat) (changed : Changed machine process after) :
    machine.trace <+: after.trace := by
  cases changed with
  | settled => exact List.prefix_append _ _
  | _ => exact List.prefix_refl _

theorem step_extends (event : Event Fault) : machine.trace <+: (machine.step event).trace := by
  cases event with
  | turn process =>
      change machine.trace <+: (machine.turn process).trace
      unfold Machine.turn
      split
      · split
        · rename_i given after answered
          exact changed_extends machine after process (answer_changed machine after process _ given answered)
        · exact List.prefix_refl _
      · exact List.prefix_refl _
  | fail process fault =>
      change machine.trace <+: (machine.fail process fault).trace
      unfold Machine.fail
      split <;> exact List.prefix_refl _
  | stop process => exact List.prefix_refl _

theorem run_extends (events : List (Event Fault)) : machine.trace <+: (machine.run events).trace := by
  induction events generalizing machine with
  | nil => exact List.prefix_refl _
  | cons event rest ih => exact (step_extends machine event).trans (ih (machine.step event))

end Growth

section Deaths
variable [DecidableEq Key] (machine : Machine Key Row Note Fault Error Value)

def Waited : Prop := ∀ process key count, machine.waits process = some (key, count) → count ≤ machine.deaths key

theorem changed_waits (after : Machine Key Row Note Fault Error Value) (process : Nat) (changed : Changed machine process after) :
    after.waits = machine.waits := by
  cases changed <;> rfl

theorem changed_deaths (after : Machine Key Row Note Fault Error Value) (process : Nat) (changed : Changed machine process after) (key : Key) :
    machine.deaths key ≤ after.deaths key := by
  cases changed with
  | settled => exact Nat.le_add_right _ _
  | _ => exact Nat.le_refl _

omit [DecidableEq Key] in
theorem waited_cleared (after : Machine Key Row Note Fault Error Value) (process : Nat)
    (waits : after.waits = Function.update machine.waits process none) (deaths : ∀ key, machine.deaths key ≤ after.deaths key)
    (waited : Waited machine) : Waited after := by
  intro other key count there
  rw [waits] at there
  by_cases own : other = process
  · rw [own, Function.update_self] at there
    cases there
  · rw [Function.update_of_ne own] at there
    exact Nat.le_trans (waited other key count there) (deaths key)

omit [DecidableEq Key] in
theorem waited_wait (process : Nat) (call : Call Key Row Note) (waited : Waited machine) : Waited (machine.wait process call) := by
  intro other key count there
  change Function.update machine.waits process _ other = _ at there
  by_cases own : other = process
  · rw [own, Function.update_self] at there
    obtain ⟨row, _, same⟩ := Option.map_eq_some_iff.mp there
    cases same
    exact Nat.le_refl _
  · rw [Function.update_of_ne own] at there
    exact waited other key count there

theorem step_waited (event : Event Fault) (waited : Waited machine) : Waited (machine.step event) := by
  cases event with
  | turn process =>
      change Waited (machine.turn process)
      unfold Machine.turn
      split
      · split
        · rename_i given after answered
          have changed := answer_changed machine after process _ given answered
          refine waited_cleared machine (after.resume process _) process ?_ (changed_deaths machine after process changed) waited
          change Function.update after.waits process none = _
          rw [changed_waits machine after process changed]
        · exact waited_wait machine process _ waited
      · exact waited
  | fail process fault =>
      change Waited (machine.fail process fault)
      unfold Machine.fail
      split
      · exact waited_cleared machine _ process rfl (fun _ => Nat.le_refl _) waited
      · exact waited_cleared machine _ process rfl (fun _ => Nat.le_refl _) waited
      · exact waited
  | stop process => exact waited_cleared machine _ process rfl (fun _ => Nat.le_refl _) waited

theorem run_waited (rows : Key → Option Row) (programs : Nat → Dialogue Key Row Note Fault Error Value) (events : List (Event Fault)) :
    Waited ((Machine.start rows programs).run events) := by
  have every : ∀ machine : Machine Key Row Note Fault Error Value, Waited machine → Waited (machine.run events) := by
    induction events with
    | nil => exact fun machine waited => waited
    | cons event rest ih => exact fun machine waited => ih _ (step_waited machine event waited)
  apply every
  intro process key count there
  cases there

theorem outlived_dead (waited : Waited machine) (process : Nat) (key : Key) (outlived : machine.outlived process key = true) :
    machine.deaths key ≠ 0 := by
  obtain ⟨_, dead⟩ := Bool.and_eq_true_iff.mp outlived
  obtain ⟨wait, there, differs⟩ := (Option.any_eq_true _ _).mp dead
  rw [Bool.and_eq_true, decide_eq_true_eq, decide_eq_true_eq] at differs
  have bound := waited process wait.1 wait.2 there
  rw [differs.1] at bound
  intro none
  rw [none] at bound differs
  exact differs.2 (Nat.le_zero.mp bound)

end Deaths

section Spared
variable [DecidableEq Key] (key : Key) (spares : Nat → Prop)

def Call.Spares : Call Key Row Note → Prop
  | .change other _ becomes => other = key → ∀ row, becomes row ≠ none
  | _ => True

omit [DecidableEq Key] in
theorem spares_atomically (refused : Fault → Error) (body : Dialogue Key Row Note Fault Error Value) (asks : body.Asks (Call.Spares key)) :
    (atomically refused body).Asks (Call.Spares key) := by
  apply Prog.asks_mending _ _ trivial
  apply Prog.asks_bind _ _ _ asks
  intro value
  refine ⟨trivial, fun answer => ?_⟩
  exact Prog.asks_bind _ _ _ (Prog.asks_lift _ _) fun _ => trivial

omit [DecidableEq Key] in
theorem spares_each {Item : Type} (body : Item → Dialogue Key Row Note Fault Error Unit) (items : List Item)
    (asks : ∀ item ∈ items, (body item).Asks (Call.Spares key)) : (each body items).Asks (Call.Spares key) := by
  induction items with
  | nil => trivial
  | cons item rest ih =>
      apply Prog.asks_bind _ _ _ (asks item List.mem_cons_self)
      exact fun _ => ih fun other member => asks other (List.mem_cons_of_mem _ member)

structure Spared (machine : Machine Key Row Note Fault Error Value) : Prop where
  threads : ∀ process thread, spares process → machine.threads process = some thread → thread.Asks (Call.Spares key)
  dropped : ∀ process, spares process → machine.dropped process key = false
  dead : machine.deaths key ≠ 0 → ∃ entry ∈ machine.trace, ¬spares entry.1

theorem spared_claim (machine : Machine Key Row Note Fault Error Value) (process : Nat) (other : Key) (row : Option Row)
    (there : spares process → other = key → row ≠ none) (spared : Spared key spares machine) :
    Spared key spares (machine.claim process other row) where
  threads := spared.threads
  dropped session own := by
    change Function.update machine.dropped process _ session key = false
    by_cases same : session = process
    · subst same
      rw [Function.update_self]
      by_cases here : key = other
      · rw [here, Function.update_self, ← here, spared.dropped session own, Bool.false_or, Option.isNone_eq_false_iff]
        exact Option.isSome_iff_ne_none.mpr (there own here.symm)
      · rw [Function.update_of_ne here]
        exact spared.dropped session own
    · rw [Function.update_of_ne same]
      exact spared.dropped session own
  dead := spared.dead

omit [DecidableEq Key] in
theorem cleared_drops (machine : Machine Key Row Note Fault Error Value) (process session : Nat) (own : spares session)
    (spared : Spared key spares machine) : Function.update machine.dropped process (fun _ => false) session key = false := by
  by_cases same : session = process
  · rw [same, Function.update_self]
  · rw [Function.update_of_ne same]
    exact spared.dropped session own

omit [DecidableEq Key] in
theorem spared_release (machine : Machine Key Row Note Fault Error Value) (process : Nat) (spared : Spared key spares machine) :
    Spared key spares (machine.release process) where
  threads := spared.threads
  dropped session own := cleared_drops key spares machine process session own spared
  dead := spared.dead

omit [DecidableEq Key] in
theorem spared_settle (machine : Machine Key Row Note Fault Error Value) (process : Nat) (spared : Spared key spares machine) :
    Spared key spares (machine.settle process) where
  threads := spared.threads
  dropped session own := cleared_drops key spares machine process session own spared
  dead gone := by
    by_cases own : spares process
    · have alive : machine.deaths key ≠ 0 := by
        intro none
        apply gone
        change machine.deaths key + (machine.dropped process key).toNat = 0
        rw [none, spared.dropped process own]
        rfl
      obtain ⟨entry, member, deleter⟩ := spared.dead alive
      exact ⟨entry, List.mem_append_left _ member, deleter⟩
    · exact ⟨_, List.mem_append_right _ (List.mem_singleton_self _), own⟩

theorem spared_answer (machine after : Machine Key Row Note Fault Error Value) (process : Nat) (call : Call Key Row Note)
    (given : call.Answer Fault) (answered : machine.answer process call = some (given, after))
    (asks : spares process → call.Spares key) (spared : Spared key spares machine) : Spared key spares after := by
  cases call with
  | look other =>
      cases answered
      exact spared
  | change other sought becomes =>
      rcases answer_change machine after process other sought becomes given answered with ⟨_, _, rfl⟩ | ⟨row, _, _, _, _, rfl⟩
      · exact spared
      · exact spared_claim key spares machine process other _ (fun own same => asks own same row) spared
  | insert other row =>
      rcases answer_insert machine after process other row given answered with ⟨_, rfl⟩ | ⟨_, _, _, rfl⟩
      · exact spared
      · exact spared_claim key spares machine process other _ (fun _ _ impossible => (by cases impossible)) spared
  | upsert other row merge =>
      obtain ⟨_, old, _, _, rfl⟩ := answer_upsert machine after process other row merge given answered
      refine spared_claim key spares machine process other _ (fun _ _ impossible => ?_) spared
      cases impossible
  | note note =>
      cases answered
      exact ⟨spared.threads, spared.dropped, spared.dead⟩
  | commit =>
      cases answered
      exact spared_settle key spares machine process spared
  | rollback =>
      cases answered
      exact spared_release key spares machine process spared

omit [DecidableEq Key] in
theorem spared_resume (machine : Machine Key Row Note Fault Error Value) (process : Nat) (thread : Dialogue Key Row Note Fault Error Value)
    (asks : spares process → thread.Asks (Call.Spares key)) (spared : Spared key spares machine) :
    Spared key spares (machine.resume process thread) where
  threads session other own there := by
    change Function.update machine.threads process (some thread) session = some other at there
    by_cases same : session = process
    · subst same
      rw [Function.update_self] at there
      cases there
      exact asks own
    · rw [Function.update_of_ne same] at there
      exact spared.threads session other own there
  dropped := spared.dropped
  dead := spared.dead

theorem spared_step (machine : Machine Key Row Note Fault Error Value) (event : Event Fault) (spared : Spared key spares machine) :
    Spared key spares (machine.step event) := by
  cases event with
  | turn process =>
      change Spared key spares (machine.turn process)
      unfold Machine.turn
      split
      · rename_i call next there
        have asks : spares process → (Prog.ask call next).Asks (Call.Spares key) := fun own => spared.threads process _ own there
        split
        · rename_i given after answered
          apply spared_resume key spares after process _ (fun own => (asks own).2 given)
          exact spared_answer key spares machine after process call given answered (fun own => (asks own).1) spared
        · exact ⟨spared.threads, spared.dropped, spared.dead⟩
      · exact spared
  | fail process fault =>
      change Spared key spares (machine.fail process fault)
      unfold Machine.fail
      split
      · rename_i next there
        apply spared_resume key spares _ process _ (fun own => (spared.threads process _ own there).2 ())
        exact spared_release key spares machine process spared
      · rename_i call next _ there
        exact spared_resume key spares machine process _ (fun own => (spared.threads process _ own there).2 _) spared
      · exact spared
  | stop process =>
      have released := spared_release key spares machine process spared
      refine ⟨?_, released.dropped, released.dead⟩
      intro session thread own there
      change Function.update machine.threads process none session = some thread at there
      by_cases same : session = process
      · rw [same, Function.update_self] at there
        cases there
      · rw [Function.update_of_ne same] at there
        exact spared.threads session thread own there

theorem run_spared (rows : Key → Option Row) (programs : Nat → Dialogue Key Row Note Fault Error Value)
    (asks : ∀ process, spares process → (programs process).Asks (Call.Spares key)) (events : List (Event Fault))
    (all : ∀ entry ∈ ((Machine.start rows programs).run events).trace, spares entry.1) :
    ((Machine.start rows programs).run events).deaths key = 0 := by
  have every : ∀ machine : Machine Key Row Note Fault Error Value, Spared key spares machine → Spared key spares (machine.run events) := by
    clear all
    induction events with
    | nil => exact fun machine spared => spared
    | cons event rest ih => exact fun machine spared => ih _ (spared_step key spares machine event spared)
  have spared : Spared key spares (Machine.start rows programs) := by
    refine ⟨?_, fun _ _ => rfl, fun impossible => absurd rfl impossible⟩
    intro process thread own there
    cases Option.some.inj there
    exact asks process own
  by_contra dead
  obtain ⟨entry, member, deleter⟩ := (every _ spared).dead dead
  exact deleter (all entry member)

end Spared
end RowLocks
