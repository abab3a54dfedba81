import Secrets.Lib.Programs

set_option autoImplicit false

namespace Programs

variable {State Call : Type} {Answer : Call → Type} {Error Value Result : Type}

section Checks
variable (perform : (call : Call) → State → Answer call × State) (acts : Call → Prop) (fits : State → Call → Prop)

-- What a program knows is what it was told. It acts once at most, when all it
-- knows makes the call fit, and then asks nothing more.
inductive Informs : Option (State → Prop) → (call : Call) → Answer call → Option (State → Prop) → Prop where
  | told (known : State → Prop) (call : Call) (answer : Answer call) (still : ¬acts call) :
      Informs (some known) call answer (some fun state => known state ∧ (perform call state).1 = answer)
  | acted (known : State → Prop) (call : Call) (answer : Answer call) (moves : acts call)
      (warranted : ∀ state, known state → fits state call) : Informs (some known) call answer none

def Prog.Knowing (prog : Prog Call Answer Error Value) (known : State → Prop) : Prop :=
  prog.Heeds (Informs perform acts fits) (fun _ _ => True) (some known)

def Prog.Checked (prog : Prog Call Answer Error Value) : Prop := prog.Knowing perform acts fits fun _ => True

theorem informs_mono (weaker known : State → Prop) (implies : ∀ state, known state → weaker state) (call : Call) (answer : Answer call)
    (after : Option (State → Prop)) (informs : Informs perform acts fits (some weaker) call answer after) :
    ∃ more, Informs perform acts fits (some known) call answer more ∧
      (after = none ∧ more = none ∨ ∃ less further, after = some less ∧ more = some further ∧ ∀ state, further state → less state) := by
  cases informs with
  | told _ _ _ still =>
      exact ⟨_, .told known call answer still, .inr ⟨_, _, rfl, rfl, fun state both => ⟨implies state both.1, both.2⟩⟩⟩
  | acted _ _ _ moves warranted =>
      exact ⟨_, .acted known call answer moves fun state knows => warranted state (implies state knows), .inl ⟨rfl, rfl⟩⟩

theorem knowing_mono (weaker known : State → Prop) (implies : ∀ state, known state → weaker state)
    (prog : Prog Call Answer Error Value) (knowing : prog.Knowing perform acts fits weaker) : prog.Knowing perform acts fits known := by
  induction prog generalizing weaker known with
  | done value => trivial
  | stop error => trivial
  | ask call next ih =>
      intro answer
      obtain ⟨after, informs, rest⟩ := knowing answer
      obtain ⟨more, informed, same⟩ := informs_mono perform acts fits weaker known implies call answer after informs
      refine ⟨more, informed, ?_⟩
      rcases same with ⟨rfl, rfl⟩ | ⟨less, further, rfl, rfl, stronger⟩
      · exact rest
      · exact ih answer less further stronger rest

theorem knowing_told (call : Call) (next : Answer call → Prog Call Answer Error Value) (known : State → Prop) (still : ¬acts call)
    (goes : ∀ answer, (next answer).Knowing perform acts fits fun state => known state ∧ (perform call state).1 = answer) :
    (Prog.ask call next).Knowing perform acts fits known :=
  fun answer => ⟨_, .told known call answer still, goes answer⟩

theorem acted_ends (post : Except Error Value → Option (State → Prop) → Prop) (call : Call) (next : Answer call → Prog Call Answer Error Value)
    (answer : Answer call) (heeds : (Prog.ask call next).Heeds (Informs perform acts fits) post none) : False := by
  obtain ⟨after, moved, _⟩ := heeds answer
  cases moved

section Alone
variable (still : ∀ call state, ¬acts call → (perform call state).2 = state)
include still

theorem checked_run (post : Except Error Value → Option (State → Prop) → Prop) (prog : Prog Call Answer Error Value)
    (known : State → Prop) (state : State) (knows : known state) (heeds : prog.Heeds (Informs perform acts fits) post (some known)) :
    (run perform prog state).2 = state ∨ ∃ call, acts call ∧ fits state call ∧ (run perform prog state).2 = (perform call state).2 := by
  induction prog generalizing known with
  | done value => exact .inl rfl
  | stop error => exact .inl rfl
  | ask call next ih =>
      obtain ⟨after, moved, rest⟩ := heeds (perform call state).1
      rw [run_ask]
      cases moved with
      | told _ _ _ quiet =>
          rw [still call state quiet]
          exact ih _ _ ⟨knows, rfl⟩ rest
      | acted _ _ _ moves warranted =>
          refine .inr ⟨call, moves, warranted state knows, ?_⟩
          cases last : next (perform call state).1 with
          | done value => rfl
          | stop error => rfl
          | ask other later =>
              rw [last] at rest
              exact (acted_ends perform acts fits post other later (perform other state).1 rest).elim

end Alone

def Current (past : List (Exchange Call Answer)) (state : State) : Prop :=
  ∀ exchange ∈ past, (perform exchange.call state).1 = exchange.answer

namespace Pool

variable {Tag : Type}

def Timely (pool : Pool Tag State Call Answer Error Value) : List Nat → Prop
  | [] => True
  | index :: rest =>
      (∀ thread call next, pool.threads[index]? = some thread → thread.prog = .ask call next → acts call →
        Current perform thread.past pool.shared) ∧
      (pool.turn perform index).Timely rest

def timelyRun [DecidablePred acts] [∀ call, DecidableEq (Answer call)] (pool : Pool Tag State Call Answer Error Value) : List Nat → Bool
  | [] => true
  | index :: rest =>
      (match pool.threads[index]? with
      | some ⟨_, past, .ask call _⟩ =>
          !decide (acts call) || past.all fun exchange => decide ((perform exchange.call pool.shared).1 = exchange.answer)
      | _ => true) && timelyRun (pool.turn perform index) rest

theorem timely_run [DecidablePred acts] [∀ call, DecidableEq (Answer call)] (schedule : List Nat)
    (pool : Pool Tag State Call Answer Error Value) (ran : timelyRun perform acts pool schedule = true) :
    pool.Timely perform acts schedule := by
  induction schedule generalizing pool with
  | nil => trivial
  | cons index rest ih =>
      rw [timelyRun, Bool.and_eq_true] at ran
      refine ⟨?_, ih _ ran.2⟩
      intro thread call next there asks moves exchange member
      obtain ⟨tag, past, prog⟩ := thread
      cases (show prog = .ask call next from asks)
      have current := ran.1
      rw [there] at current
      simp only [decide_eq_true moves, Bool.not_true, Bool.false_or, List.all_eq_true, decide_eq_true_eq] at current
      exact current exchange member

def Informed (thread : Thread Tag Call Answer Error Value) : Prop :=
  ∃ phase, thread.prog.Heeds (Informs perform acts fits) (fun _ _ => True) phase ∧
    ∀ known, phase = some known → ∀ state, Current perform thread.past state → known state

theorem checked_informed (tag : Tag) (prog : Prog Call Answer Error Value) (checked : prog.Checked perform acts fits) :
    Informed perform acts fits ⟨tag, [], prog⟩ := by
  refine ⟨_, checked, ?_⟩
  intro known same state _
  cases same
  trivial

theorem informed_ask (tag : Tag) (past : List (Exchange Call Answer)) (call : Call) (next : Answer call → Prog Call Answer Error Value)
    (informed : Informed perform acts fits ⟨tag, past, .ask call next⟩) (answer : Answer call) :
    Informed perform acts fits ⟨tag, past ++ [⟨call, answer⟩], next answer⟩ ∧
      (acts call → ∀ state, Current perform past state → fits state call) := by
  obtain ⟨phase, heeds, knows⟩ := informed
  obtain ⟨after, moved, rest⟩ := heeds answer
  cases moved with
  | told known _ _ still =>
      refine ⟨⟨_, rest, ?_⟩, fun moves => absurd moves still⟩
      intro later same state current
      cases same
      refine ⟨knows known rfl state fun exchange member => ?_, current _ (List.mem_append_right _ List.mem_cons_self)⟩
      exact current exchange (List.mem_append_left _ member)
  | acted known _ _ moves warranted =>
      refine ⟨⟨_, rest, ?_⟩, fun _ state current => warranted state (knows known rfl state current)⟩
      intro later same
      cases same

theorem turn_shared (good : State → Prop) (pool : Pool Tag State Call Answer Error Value) (index : Nat) (start : good pool.shared)
    (asked : ∀ tag past call next, pool.threads[index]? = some ⟨tag, past, .ask call next⟩ → good (perform call pool.shared).2) :
    good (pool.turn perform index).shared := by
  unfold turn
  split
  · rename_i tag past call next found
    exact asked tag past call next found
  · exact start

section Schedules
variable (still : ∀ call state, ¬acts call → (perform call state).2 = state) (good : State → Prop)
  (kept : ∀ call state, acts call → fits state call → good state → good (perform call state).2)
include still kept

theorem turn_good (pool : Pool Tag State Call Answer Error Value) (index : Nat)
    (informed : ∀ thread ∈ pool.threads, Informed perform acts fits thread)
    (current : ∀ thread call next, pool.threads[index]? = some thread → thread.prog = .ask call next → acts call →
      Current perform thread.past pool.shared)
    (start : good pool.shared) :
    good (pool.turn perform index).shared ∧ ∀ thread ∈ (pool.turn perform index).threads, Informed perform acts fits thread := by
  constructor
  · apply turn_shared perform good pool index start
    intro tag past call next found
    by_cases moves : acts call
    · have fitting := (informed_ask perform acts fits tag past call next (informed _ (List.mem_of_getElem? found))
        (perform call pool.shared).1).2
      exact kept call pool.shared moves (fitting moves pool.shared (current _ call next found rfl moves)) start
    · rw [still call pool.shared moves]
      exact start
  · apply turn_everywhere perform (fun _ => Informed perform acts fits) pool index
    · intro thread call next found asks place other apart there before
      exact before
    · intro tag past call next found before
      exact (informed_ask perform acts fits tag past call next before (perform call pool.shared).1).1
    · exact informed

theorem timely_good (schedule : List Nat) (pool : Pool Tag State Call Answer Error Value)
    (informed : ∀ thread ∈ pool.threads, Informed perform acts fits thread) (timely : pool.Timely perform acts schedule)
    (start : good pool.shared) : good (pool.turns perform schedule).shared := by
  induction schedule generalizing pool with
  | nil => exact start
  | cons index rest ih =>
      obtain ⟨after, still⟩ := turn_good perform acts fits still good kept pool index informed timely.1 start
      exact ih (pool.turn perform index) still timely.2 after

end Schedules
end Pool

def Stable (allowed : Call → Prop) (known : State → Prop) : Prop :=
  ∀ call state, allowed call → known state → known (perform call state).2

-- A program that keeps only what stays true, whoever goes on meanwhile.
inductive Learns (allowed : Call → Prop) : Option (State → Prop) → (call : Call) → Answer call → Option (State → Prop) → Prop where
  | told (known more : State → Prop) (call : Call) (answer : Answer call) (still : ¬acts call) (stable : Stable perform allowed more)
      (follows : ∀ state, known state → (perform call state).1 = answer → more state) : Learns allowed (some known) call answer (some more)
  | acted (known : State → Prop) (call : Call) (answer : Answer call) (moves : acts call)
      (warranted : ∀ state, known state → fits state call) : Learns allowed (some known) call answer none

def Prog.Learning (allowed : Call → Prop) (prog : Prog Call Answer Error Value) (known : State → Prop) : Prop :=
  prog.Heeds (Learns perform acts fits allowed) (fun _ _ => True) (some known)

theorem learning_mono (allowed : Call → Prop) (weaker known : State → Prop) (implies : ∀ state, known state → weaker state)
    (prog : Prog Call Answer Error Value) (learning : prog.Learning perform acts fits allowed weaker) :
    prog.Learning perform acts fits allowed known := by
  cases prog with
  | done value => trivial
  | stop error => trivial
  | ask call next =>
      intro answer
      obtain ⟨after, moved, rest⟩ := learning answer
      refine ⟨after, ?_, rest⟩
      cases moved with
      | told _ more _ _ still stable follows =>
          exact .told known more call answer still stable fun state knows => follows state (implies state knows)
      | acted _ _ _ moves warranted => exact .acted known call answer moves fun state knows => warranted state (implies state knows)

theorem learning_told (allowed : Call → Prop) (call : Call) (next : Answer call → Prog Call Answer Error Value) (known : State → Prop)
    (more : Answer call → State → Prop) (still : ¬acts call) (stable : ∀ answer, Stable perform allowed (more answer))
    (follows : ∀ state, known state → more (perform call state).1 state)
    (goes : ∀ answer, (next answer).Learning perform acts fits allowed (more answer)) :
    (Prog.ask call next).Learning perform acts fits allowed known := by
  intro answer
  refine ⟨_, .told known (more answer) call answer still (stable answer) ?_, goes answer⟩
  intro state knows same
  rw [← same]
  exact follows state knows

namespace Pool
variable {Tag : Type} (allowed : Call → Prop)

structure Learned (state : State) (thread : Thread Tag Call Answer Error Value) : Prop where
  asks : thread.prog.Asks allowed
  learned : ∃ phase, thread.prog.Heeds (Learns perform acts fits allowed) (fun _ _ => True) phase ∧
    ∀ known, phase = some known → Stable perform allowed known ∧ known state

theorem learned_start (tag : Tag) (prog : Prog Call Answer Error Value) (state : State) (asks : prog.Asks allowed)
    (learning : prog.Learning perform acts fits allowed fun _ => True) : Learned perform acts fits allowed state ⟨tag, [], prog⟩ := by
  refine ⟨asks, _, learning, ?_⟩
  intro known same
  cases same
  exact ⟨fun _ _ _ _ => trivial, trivial⟩

theorem learned_other (state : State) (call : Call) (fair : allowed call) (thread : Thread Tag Call Answer Error Value)
    (learned : Learned perform acts fits allowed state thread) : Learned perform acts fits allowed (perform call state).2 thread := by
  obtain ⟨asks, phase, heeds, knows⟩ := learned
  refine ⟨asks, phase, heeds, ?_⟩
  intro known same
  obtain ⟨stable, now⟩ := knows known same
  exact ⟨stable, stable call state fair now⟩

theorem learned_ask (state : State) (tag : Tag) (past : List (Exchange Call Answer)) (call : Call)
    (next : Answer call → Prog Call Answer Error Value) (learned : Learned perform acts fits allowed state ⟨tag, past, .ask call next⟩) :
    allowed call ∧ (acts call → fits state call) ∧ Learned perform acts fits allowed (perform call state).2
      ⟨tag, past ++ [⟨call, (perform call state).1⟩], next (perform call state).1⟩ := by
  obtain ⟨asks, phase, heeds, knows⟩ := learned
  obtain ⟨after, moved, rest⟩ := heeds (perform call state).1
  refine ⟨asks.1, ?_, asks.2 _, after, rest, ?_⟩
  · intro moves
    cases moved with
    | told known more _ _ still => exact absurd moves still
    | acted known _ _ _ warranted => exact warranted state (knows known rfl).2
  · intro known same
    cases moved with
    | told old more _ _ still stable follows =>
        cases same
        exact ⟨stable, stable call state asks.1 (follows state (knows old rfl).2 rfl)⟩
    | acted => cases same

section Schedules
variable (still : ∀ call state, ¬acts call → (perform call state).2 = state) (good : State → Prop)
  (kept : ∀ call state, acts call → fits state call → good state → good (perform call state).2)
include still kept

theorem turn_learned (pool : Pool Tag State Call Answer Error Value) (index : Nat)
    (learned : pool.Everywhere (Learned perform acts fits allowed)) (start : good pool.shared) :
    good (pool.turn perform index).shared ∧ (pool.turn perform index).Everywhere (Learned perform acts fits allowed) := by
  have ask := fun tag past call next (found : pool.threads[index]? = some ⟨tag, past, .ask call next⟩) =>
    learned_ask perform acts fits allowed pool.shared tag past call next (learned _ (List.mem_of_getElem? found))
  constructor
  · apply turn_shared perform good pool index start
    intro tag past call next found
    by_cases moves : acts call
    · exact kept call pool.shared moves ((ask tag past call next found).2.1 moves) start
    · rw [still call pool.shared moves]
      exact start
  · apply turn_everywhere perform (Learned perform acts fits allowed) pool index
    · intro thread call next found asks place other apart there before
      obtain ⟨tag, past, prog⟩ := thread
      subst asks
      exact learned_other perform acts fits allowed pool.shared call (ask tag past call next found).1 other before
    · intro tag past call next found before
      exact (ask tag past call next found).2.2
    · exact learned

theorem stable_good (schedule : List Nat) (pool : Pool Tag State Call Answer Error Value)
    (learned : pool.Everywhere (Learned perform acts fits allowed)) (start : good pool.shared) :
    good (pool.turns perform schedule).shared := by
  induction schedule generalizing pool with
  | nil => exact start
  | cons index rest ih =>
      obtain ⟨after, still⟩ := turn_learned perform acts fits allowed still good kept pool index learned start
      exact ih (pool.turn perform index) still after

end Schedules
end Pool
end Checks

section Faults
variable (perform : (call : Call) → State → Answer call × State) (failed : (call : Call) → Answer call)

def faulty (fails : Nat → Bool) (call : Call) (trial : State × Nat) : Answer call × State × Nat :=
  if fails trial.2 then (failed call, trial.1, trial.2 + 1)
  else ((perform call trial.1).1, (perform call trial.1).2, trial.2 + 1)

def Prog.Quits (error : Error) : Prog Call Answer Error Value → Prop
  | .done _ => True
  | .stop _ => True
  | .ask call next => next (failed call) = .stop error ∧ ∀ answer, Quits error (next answer)

theorem quits_bind (error : Error) (first : Prog Call Answer Error Value) (next : Value → Prog Call Answer Error Result)
    (quits : first.Quits failed error) (later : ∀ value, (next value).Quits failed error) : (first >>= next).Quits failed error := by
  induction first with
  | done value => exact later value
  | stop other => trivial
  | ask call after ih =>
      have stops : (after (failed call) >>= next) = .stop error := by
        rw [quits.1]
        rfl
      exact ⟨stops, fun answer => ih answer (quits.2 answer)⟩

theorem quits_lift (error : Error) (result : Except Error Value) : (Prog.lift result : Prog Call Answer Error Value).Quits failed error := by
  cases result <;> trivial

variable (acts : Call → Prop) (fits : State → Call → Prop) (still : ∀ call state, ¬acts call → (perform call state).2 = state)
include still

theorem faulty_run (fails : Nat → Bool) (error : Error) (post : Except Error Value → Option (State → Prop) → Prop)
    (prog : Prog Call Answer Error Value) (phase : Option (State → Prop)) (heeds : prog.Heeds (Informs perform acts fits) post phase)
    (quits : prog.Quits failed error) (state : State) (made : Nat) :
    (∃ struck, fails struck = true ∧ run (faulty perform failed fails) prog (state, made) = (.error error, state, struck + 1)) ∨
      ∃ count, run (faulty perform failed fails) prog (state, made) = ((run perform prog state).1, (run perform prog state).2, count) := by
  induction prog generalizing phase state made with
  | done value => exact .inr ⟨made, rfl⟩
  | stop other => exact .inr ⟨made, rfl⟩
  | ask call next ih =>
      rw [run_ask, run_ask, faulty]
      by_cases strikes : fails made = true
      · rw [if_pos strikes, quits.1]
        exact .inl ⟨made, strikes, rfl⟩
      · rw [if_neg strikes]
        obtain ⟨after, moved, rest⟩ := heeds (perform call state).1
        cases moved with
        | told _ _ _ quiet =>
            dsimp only
            rw [still call state quiet]
            exact ih _ _ rest (quits.2 _) state (made + 1)
        | acted _ _ _ _ _ =>
            cases last : next (perform call state).1 with
            | done value => exact .inr ⟨made + 1, rfl⟩
            | stop other => exact .inr ⟨made + 1, rfl⟩
            | ask other later =>
                rw [last] at rest
                exact (acted_ends perform acts fits post other later (perform other state).1 rest).elim

end Faults
end Programs
