import Secrets.Lib.Effects

set_option autoImplicit false

namespace Programs

open Effects

-- A program that asks the world outside and otherwise only computes. It ends
-- with a value or stops with an error, and asks nothing after that.
inductive Prog (Call : Type) (Answer : Call → Type) (Error Value : Type) where
  | done (value : Value)
  | stop (error : Error)
  | ask (call : Call) (next : Answer call → Prog Call Answer Error Value)

variable {Call : Type} {Answer : Call → Type} {Error Value Result State : Type}

namespace Prog

def chain : Prog Call Answer Error Value → (Value → Prog Call Answer Error Result) → Prog Call Answer Error Result
  | .done value, next => next value
  | .stop error, _ => .stop error
  | .ask call later, next => .ask call fun answer => chain (later answer) next

instance : Monad (Prog Call Answer Error) where
  pure := .done
  bind := chain

def lift : Except Error Value → Prog Call Answer Error Value
  | .ok value => .done value
  | .error error => .stop error

def ensure (holds : Bool) (refused : Error) : Prog Call Answer Error Unit :=
  if holds then .done () else .stop refused

@[simp] theorem pure_done (value : Value) : (pure value : Prog Call Answer Error Value) = .done value := rfl

@[simp] theorem done_bind (value : Value) (next : Value → Prog Call Answer Error Result) :
    (Prog.done value >>= next) = next value := rfl

@[simp] theorem stop_bind (error : Error) (next : Value → Prog Call Answer Error Result) :
    (Prog.stop error >>= next) = .stop error := rfl

@[simp] theorem ask_bind (call : Call) (later : Answer call → Prog Call Answer Error Value)
    (next : Value → Prog Call Answer Error Result) :
    (Prog.ask call later >>= next) = .ask call fun answer => later answer >>= next := rfl

theorem bind_assoc {Last : Type} (first : Prog Call Answer Error Value) (next : Value → Prog Call Answer Error Result)
    (last : Result → Prog Call Answer Error Last) :
    (first >>= next) >>= last = first >>= fun value => next value >>= last := by
  induction first with
  | done value => rfl
  | stop error => rfl
  | ask call later ih => simp only [ask_bind, ih]

def Asks (allowed : Call → Prop) : Prog Call Answer Error Value → Prop
  | .done _ => True
  | .stop _ => True
  | .ask call next => allowed call ∧ ∀ answer, Asks allowed (next answer)

theorem asks_bind (allowed : Call → Prop) (first : Prog Call Answer Error Value)
    (next : Value → Prog Call Answer Error Result) (here : Asks allowed first) (later : ∀ value, Asks allowed (next value)) :
    Asks allowed (first >>= next) := by
  induction first with
  | done value => exact later value
  | stop error => trivial
  | ask call after ih => exact ⟨here.1, fun answer => ih answer (here.2 answer)⟩

theorem asks_mono (allowed weaker : Call → Prop) (implies : ∀ call, allowed call → weaker call) (prog : Prog Call Answer Error Value)
    (asks : Asks allowed prog) : Asks weaker prog := by
  induction prog with
  | done value => trivial
  | stop error => trivial
  | ask call next ih => exact ⟨implies call asks.1, fun answer => ih answer (asks.2 answer)⟩

def closing (last : Call) : Prog Call Answer Error Value → Prog Call Answer Error Value
  | .done value => .ask last fun _ => .done value
  | .stop error => .ask last fun _ => .stop error
  | .ask call next => .ask call fun answer => closing last (next answer)

def mending (last : Call) : Prog Call Answer Error Value → Prog Call Answer Error Value
  | .done value => .done value
  | .stop error => .ask last fun _ => .stop error
  | .ask call next => .ask call fun answer => mending last (next answer)

def embed {Other Failure : Type} {OtherAnswer : Other → Type} (place : Call → Other)
    (back : (call : Call) → OtherAnswer (place call) → Answer call) (refuse : Error → Failure) :
    Prog Call Answer Error Value → Prog Other OtherAnswer Failure Value
  | .done value => .done value
  | .stop error => .stop (refuse error)
  | .ask call next => .ask (place call) fun answer => embed place back refuse (next (back call answer))

theorem asks_embed {Other Failure : Type} {OtherAnswer : Other → Type} (place : Call → Other)
    (back : (call : Call) → OtherAnswer (place call) → Answer call) (refuse : Error → Failure) (allowed : Other → Prop)
    (prog : Prog Call Answer Error Value) (asks : prog.Asks fun call => allowed (place call)) :
    (embed place back refuse prog).Asks allowed := by
  induction prog with
  | done value => trivial
  | stop error => trivial
  | ask call next ih => exact ⟨asks.1, fun answer => ih _ (asks.2 _)⟩

theorem asks_mending (allowed : Call → Prop) (last : Call) (ends : allowed last) (prog : Prog Call Answer Error Value)
    (asks : prog.Asks allowed) : (mending last prog).Asks allowed := by
  induction prog with
  | done value => trivial
  | stop error => exact ⟨ends, fun _ => trivial⟩
  | ask call next ih => exact ⟨asks.1, fun answer => ih answer (asks.2 answer)⟩

theorem asks_lift (allowed : Call → Prop) (result : Except Error Value) :
    (lift result : Prog Call Answer Error Value).Asks allowed := by
  cases result <;> trivial

theorem asks_ensure (allowed : Call → Prop) (holds : Bool) (refused : Error) :
    (ensure holds refused : Prog Call Answer Error Unit).Asks allowed := by
  cases holds <;> trivial

theorem asks_anything (prog : Prog Call Answer Error Value) : prog.Asks fun _ => True := by
  induction prog with
  | done value => trivial
  | stop error => trivial
  | ask call next ih => exact ⟨trivial, ih⟩

end Prog

theorem snoc_split {Entry : Type} (trace before after : List Entry) (last entry : Entry) (same : trace ++ [last] = before ++ entry :: after) :
    (after = [] ∧ trace = before ∧ last = entry) ∨ ∃ rest, after = rest ++ [last] ∧ trace = before ++ entry :: rest := by
  cases List.eq_nil_or_concat after with
  | inl none =>
      rw [none] at same
      obtain ⟨parts, ends⟩ := List.append_inj' same rfl
      exact .inl ⟨none, parts, (List.cons.inj ends).1⟩
  | inr more =>
      obtain ⟨rest, final, rfl⟩ := more
      have longer : trace ++ [last] = (before ++ entry :: rest) ++ [final] := by
        rw [same, List.concat_eq_append, List.append_assoc, List.cons_append]
      obtain ⟨parts, ends⟩ := List.append_inj' longer rfl
      refine .inr ⟨rest, ?_, parts⟩
      rw [List.concat_eq_append, (List.cons.inj ends).1]

section Protocols
variable {Phase : Type} (moves : Phase → (call : Call) → Answer call → Phase → Prop)

def Prog.Heeds (post : Except Error Value → Phase → Prop) : Prog Call Answer Error Value → Phase → Prop
  | .done value, phase => post (.ok value) phase
  | .stop error, phase => post (.error error) phase
  | .ask call next, phase => ∀ answer, ∃ after, moves phase call answer after ∧ Heeds post (next answer) after

def Prog.Then (post : Except Error Result → Phase → Prop) (next : Value → Prog Call Answer Error Result) (ended : Except Error Value)
    (phase : Phase) : Prop :=
  match ended with
  | .ok value => (next value).Heeds moves post phase
  | .error error => post (.error error) phase

def Prog.Mended (post : Except Error Value → Phase → Prop) (last : Call) (ended : Except Error Value) (phase : Phase) : Prop :=
  match ended with
  | .ok value => post (.ok value) phase
  | .error error => ∀ answer, ∃ after, moves phase last answer after ∧ post (.error error) after

theorem heeds_mono (post weaker : Except Error Value → Phase → Prop) (weakens : ∀ ended phase, post ended phase → weaker ended phase)
    (prog : Prog Call Answer Error Value) (phase : Phase) (heeds : prog.Heeds moves post phase) : prog.Heeds moves weaker phase := by
  induction prog generalizing phase with
  | done value => exact weakens _ _ heeds
  | stop error => exact weakens _ _ heeds
  | ask call next ih =>
      intro answer
      obtain ⟨after, moved, rest⟩ := heeds answer
      exact ⟨after, moved, ih answer after rest⟩

theorem heeds_bind (post : Except Error Result → Phase → Prop) (first : Prog Call Answer Error Value)
    (next : Value → Prog Call Answer Error Result) (phase : Phase) (heeds : first.Heeds moves (Prog.Then moves post next) phase) :
    (first >>= next).Heeds moves post phase := by
  induction first generalizing phase with
  | done value => exact heeds
  | stop error => exact heeds
  | ask call later ih =>
      intro answer
      obtain ⟨after, moved, rest⟩ := heeds answer
      exact ⟨after, moved, ih answer after rest⟩

theorem heeds_closing (post : Except Error Value → Phase → Prop) (last : Call) (prog : Prog Call Answer Error Value) (phase : Phase)
    (heeds : prog.Heeds moves (fun ended phase => ∀ answer, ∃ after, moves phase last answer after ∧ post ended after) phase) :
    (prog.closing last).Heeds moves post phase := by
  induction prog generalizing phase with
  | done value => exact heeds
  | stop error => exact heeds
  | ask call next ih =>
      intro answer
      obtain ⟨after, moved, rest⟩ := heeds answer
      exact ⟨after, moved, ih answer after rest⟩

theorem heeds_mending (post : Except Error Value → Phase → Prop) (last : Call) (prog : Prog Call Answer Error Value) (phase : Phase)
    (heeds : prog.Heeds moves (Prog.Mended moves post last) phase) :
    (prog.mending last).Heeds moves post phase := by
  induction prog generalizing phase with
  | done value => exact heeds
  | stop error => exact heeds
  | ask call next ih =>
      intro answer
      obtain ⟨after, moved, rest⟩ := heeds answer
      exact ⟨after, moved, ih answer after rest⟩

theorem heeds_lift (post : Except Error Value → Phase → Prop) (result : Except Error Value) (phase : Phase) (meets : post result phase) :
    (Prog.lift result : Prog Call Answer Error Value).Heeds moves post phase := by
  cases result <;> exact meets

theorem heeds_embed {Other Failure : Type} {OtherAnswer : Other → Type} (place : Call → Other)
    (back : (call : Call) → OtherAnswer (place call) → Answer call) (refuse : Error → Failure)
    (others : Phase → (call : Other) → OtherAnswer call → Phase → Prop)
    (lifts : ∀ phase call answer after, moves phase call (back call answer) after → others phase (place call) answer after)
    (post : Except Failure Value → Phase → Prop) (prog : Prog Call Answer Error Value) (phase : Phase)
    (heeds : prog.Heeds moves (fun ended phase => post (ended.mapError refuse) phase) phase) :
    (prog.embed place back refuse).Heeds others post phase := by
  induction prog generalizing phase with
  | done value => exact heeds
  | stop error => exact heeds
  | ask call next ih =>
      intro answer
      obtain ⟨after, moved, rest⟩ := heeds (back call answer)
      exact ⟨after, lifts _ _ _ _ moved, ih _ after rest⟩

end Protocols

structure Exchange (Call : Type) (Answer : Call → Type) where
  call : Call
  answer : Answer call

-- The program is at `here` once the exchanges of `past` are over. Answers are
-- whatever the outside gave.
inductive Reaches : Prog Call Answer Error Value → List (Exchange Call Answer) → Prog Call Answer Error Value → Prop where
  | here (prog : Prog Call Answer Error Value) : Reaches prog [] prog
  | later (call : Call) (next : Answer call → Prog Call Answer Error Value) (answer : Answer call)
      (past : List (Exchange Call Answer)) (prog : Prog Call Answer Error Value)
      (rest : Reaches (next answer) past prog) : Reaches (.ask call next) (⟨call, answer⟩ :: past) prog

theorem reaches_stop (error : Error) (past : List (Exchange Call Answer)) (prog : Prog Call Answer Error Value)
    (reached : Reaches (.stop error) past prog) : past = [] ∧ prog = .stop error := by
  cases reached
  exact ⟨rfl, rfl⟩

theorem reaches_ask (call : Call) (next : Answer call → Prog Call Answer Error Value)
    (past : List (Exchange Call Answer)) (prog : Prog Call Answer Error Value) :
    Reaches (.ask call next) past prog ↔
      past = [] ∧ prog = .ask call next ∨
        ∃ answer rest, past = ⟨call, answer⟩ :: rest ∧ Reaches (next answer) rest prog := by
  constructor
  · intro reached
    cases reached with
    | here => exact .inl ⟨rfl, rfl⟩
    | later _ _ answer rest _ after => exact .inr ⟨answer, rest, rfl, after⟩
  · rintro (⟨rfl, rfl⟩ | ⟨answer, rest, rfl, after⟩)
    · exact .here _
    · exact .later _ _ _ _ _ after

theorem reaches_asks (allowed : Call → Prop) (start prog : Prog Call Answer Error Value)
    (past : List (Exchange Call Answer)) (asks : start.Asks allowed) (reached : Reaches start past prog) :
    prog.Asks allowed ∧ ∀ exchange ∈ past, allowed exchange.call := by
  induction reached with
  | here prog => exact ⟨asks, by simp⟩
  | later call next answer past prog rest ih =>
      obtain ⟨remaining, before⟩ := ih (asks.2 answer)
      exact ⟨remaining, List.forall_mem_cons.mpr ⟨asks.1, before⟩⟩

section Running
variable (perform : (call : Call) → State → Answer call × State)

def run : Prog Call Answer Error Value → Tx State Error Value
  | .done value => Tx.ret value
  | .stop error => Tx.fail error
  | .ask call next => fun state => run (next (perform call state).1) (perform call state).2

@[simp] theorem run_done (value : Value) (state : State) :
    run perform (.done value : Prog Call Answer Error Value) state = (.ok value, state) := rfl

@[simp] theorem run_stop (error : Error) (state : State) :
    run perform (.stop error : Prog Call Answer Error Value) state = (.error error, state) := rfl

@[simp] theorem run_ask (call : Call) (next : Answer call → Prog Call Answer Error Value) (state : State) :
    run perform (.ask call next) state = run perform (next (perform call state).1) (perform call state).2 := rfl

theorem run_bind (first : Prog Call Answer Error Value) (next : Value → Prog Call Answer Error Result) (state : State) :
    run perform (first >>= next) state = (run perform first >>= fun value => run perform (next value)) state := by
  induction first generalizing state with
  | done value => rfl
  | stop error => rfl
  | ask call later ih =>
      rw [Prog.ask_bind, run_ask, ih, Tx.bind_run, Tx.bind_run, run_ask]

theorem run_bind_ok (first : Prog Call Answer Error Value) (next : Value → Prog Call Answer Error Result)
    (state after : State) (result : Result) :
    run perform (first >>= next) state = (.ok result, after) ↔
      ∃ value middle, run perform first state = (.ok value, middle) ∧ run perform (next value) middle = (.ok result, after) := by
  rw [run_bind, Tx.bind_ok]

theorem run_lift (result : Except Error Value) (state : State) :
    run perform (Prog.lift result : Prog Call Answer Error Value) state = (result, state) := by
  cases result <;> rfl

theorem run_ensure (holds : Bool) (refused : Error) (state : State) :
    run perform (Prog.ensure holds refused : Prog Call Answer Error Unit) state = Tx.ensure holds refused state := by
  cases holds <;> rfl

theorem run_closing (last : Call) (prog : Prog Call Answer Error Value) (state : State) :
    run perform (prog.closing last) state = ((run perform prog state).1, (perform last (run perform prog state).2).2) := by
  induction prog generalizing state with
  | done value => rfl
  | stop error => rfl
  | ask call next ih => exact ih _ _

theorem run_mending_ok (last : Call) (prog : Prog Call Answer Error Value) (state after : State) (value : Value)
    (ran : run perform prog state = (.ok value, after)) : run perform (prog.mending last) state = (.ok value, after) := by
  induction prog generalizing state with
  | done other => exact ran
  | stop error => cases ran
  | ask call next ih => exact ih _ _ ran

theorem run_mending_error (last : Call) (prog : Prog Call Answer Error Value) (state after : State) (error : Error)
    (ran : run perform prog state = (.error error, after)) :
    run perform (prog.mending last) state = (.error error, (perform last after).2) := by
  induction prog generalizing state with
  | done other => cases ran
  | stop other =>
      cases ran
      rfl
  | ask call next ih => exact ih _ _ ran

theorem within_run (frame : Tx.Frame State) (allowed : Call → Prop)
    (kept : ∀ call state, allowed call → frame.rel state (perform call state).2)
    (prog : Prog Call Answer Error Value) (asks : prog.Asks allowed) : Tx.Within frame (run perform prog) := by
  induction prog with
  | done value => exact Tx.within_pure frame value
  | stop error => exact Tx.within_fail frame error
  | ask call next ih =>
      intro state
      exact frame.trans _ _ _ (kept call state asks.1) (ih _ (asks.2 _) _)

theorem matches_run (other : (call : Call) → State → Answer call × State) (relation : State → State → Prop)
    (allowed : Call → Prop)
    (alike : ∀ call left right, allowed call → relation left right →
      (perform call left).1 = (other call right).1 ∧ relation (perform call left).2 (other call right).2)
    (prog : Prog Call Answer Error Value) (asks : prog.Asks allowed) (left right : State) (related : relation left right) :
    Tx.Matches relation (run perform prog left) (run other prog right) := by
  induction prog generalizing left right with
  | done value => exact ⟨rfl, related⟩
  | stop error => exact ⟨rfl, related⟩
  | ask call next ih =>
      obtain ⟨same, after⟩ := alike call left right asks.1 related
      rw [run_ask, run_ask, ← same]
      exact ih _ (asks.2 _) _ _ after

structure Alike {Other : Type} (relation : State → Other → Prop) (left : Except Error Value × State)
    (right : Except Error Value × Other) : Prop where
  same : left.1 = right.1
  related : relation left.2 right.2

theorem alike_run {Other : Type} (other : (call : Call) → Other → Answer call × Other) (relation : State → Other → Prop)
    (allowed : Call → Prop)
    (alike : ∀ call left right, allowed call → relation left right →
      (perform call left).1 = (other call right).1 ∧ relation (perform call left).2 (other call right).2)
    (prog : Prog Call Answer Error Value) (asks : prog.Asks allowed) (left : State) (right : Other) (related : relation left right) :
    Alike relation (run perform prog left) (run other prog right) := by
  induction prog generalizing left right with
  | done value => exact ⟨rfl, related⟩
  | stop error => exact ⟨rfl, related⟩
  | ask call next ih =>
      obtain ⟨same, after⟩ := alike call left right asks.1 related
      rw [run_ask, run_ask, ← same]
      exact ih _ (asks.2 _) _ _ after

theorem commutes_run (other : (call : Call) → State → Answer call × State) (swap : State → State) (allowed : Call → Prop)
    (possible : Exchange Call Answer → Prop)
    (good bounded : State → Prop) (answers : ∀ call state, possible ⟨call, (perform call state).1⟩)
    (back : ∀ call state, bounded (perform call state).2 → bounded state)
    (each : ∀ call state, allowed call → good state → bounded (perform call state).2 →
      other call (swap state) = ((perform call state).1, swap (perform call state).2) ∧ good (perform call state).2)
    (prog : Prog Call Answer Error Value)
    (asks : ∀ past call next, Reaches prog past (.ask call next) → (∀ exchange ∈ past, possible exchange) → allowed call)
    (state : State) (start : good state) (last : bounded (run perform prog state).2) :
    Tx.CommutesAt swap (run perform prog) (run other prog) state ∧ good (run perform prog state).2 := by
  induction prog generalizing state with
  | done value => exact ⟨rfl, start⟩
  | stop error => exact ⟨rfl, start⟩
  | ask call next ih =>
      have later : ∀ answer, Tx.Within (Tx.Frame.reflecting bounded) (run perform (next answer)) := fun answer =>
        within_run perform _ (fun _ => True) (fun call state _ => back call state) _ (Prog.asks_anything (next answer))
      have fits := asks [] call next (.here _) (by simp)
      obtain ⟨same, kept⟩ := each call state fits start (later _ _ last)
      obtain ⟨after, stays⟩ := ih (perform call state).1 (fun past other after reached fair =>
        asks (⟨call, (perform call state).1⟩ :: past) other after (.later _ _ _ _ _ reached)
          (List.forall_mem_cons.mpr ⟨answers call state, fair⟩)) (perform call state).2 kept last
      refine ⟨?_, stays⟩
      rw [Tx.CommutesAt, run_ask, run_ask, same]
      exact after

theorem heeds_run {Phase : Type} (moves : Phase → (call : Call) → Answer call → Phase → Prop) (holds : Phase → State → Prop)
    (keeps : ∀ phase call state after, holds phase state → moves phase call (perform call state).1 after →
      holds after (perform call state).2)
    (post : Except Error Value → Phase → Prop) (prog : Prog Call Answer Error Value) (phase : Phase) (state : State)
    (starts : holds phase state) (heeds : prog.Heeds moves post phase) :
    ∃ last, post (run perform prog state).1 last ∧ holds last (run perform prog state).2 := by
  induction prog generalizing phase state with
  | done value => exact ⟨phase, heeds, starts⟩
  | stop error => exact ⟨phase, heeds, starts⟩
  | ask call next ih =>
      obtain ⟨after, moved, rest⟩ := heeds (perform call state).1
      exact ih _ after _ (keeps phase call state after starts moved) rest

end Running

def each {Task : Type} {Result : Task → Type} (operate : (task : Task) → State → Result task × State) :
    List Task → State → List (Exchange Task Result) × State
  | [], state => ([], state)
  | task :: rest, state =>
      let (result, after) := operate task state
      let (results, last) := each operate rest after
      (⟨task, result⟩ :: results, last)

theorem each_cons {Task : Type} {Result : Task → Type} (operate : (task : Task) → State → Result task × State) (task : Task)
    (rest : List Task) (state : State) :
    each operate (task :: rest) state =
      (⟨task, (operate task state).1⟩ :: (each operate rest (operate task state).2).1, (each operate rest (operate task state).2).2) := rfl

theorem each_alike {Task Other : Type} {Result : Task → Type} (operate : (task : Task) → State → Result task × State)
    (other : (task : Task) → Other → Result task × Other) (relation : State → Other → Prop)
    (alike : ∀ task left right, relation left right →
      (operate task left).1 = (other task right).1 ∧ relation (operate task left).2 (other task right).2)
    (tasks : List Task) (left : State) (right : Other) (related : relation left right) :
    (each operate tasks left).1 = (each other tasks right).1 ∧ relation (each operate tasks left).2 (each other tasks right).2 := by
  induction tasks generalizing left right with
  | nil => exact ⟨rfl, related⟩
  | cons task rest ih =>
      obtain ⟨same, after⟩ := alike task left right related
      obtain ⟨results, last⟩ := ih _ _ after
      rw [each_cons, each_cons, same, results]
      exact ⟨rfl, last⟩

structure Thread (Tag Call : Type) (Answer : Call → Type) (Error Value : Type) where
  tag : Tag
  past : List (Exchange Call Answer)
  prog : Prog Call Answer Error Value

structure Pool (Tag State Call : Type) (Answer : Call → Type) (Error Value : Type) where
  shared : State
  threads : List (Thread Tag Call Answer Error Value)

namespace Pool

variable {Tag : Type} (perform : (call : Call) → State → Answer call × State)

def turn (pool : Pool Tag State Call Answer Error Value) (index : Nat) : Pool Tag State Call Answer Error Value :=
  match pool.threads[index]? with
  | some ⟨tag, past, .ask call next⟩ =>
      let answered := perform call pool.shared
      ⟨answered.2, pool.threads.set index ⟨tag, past ++ [⟨call, answered.1⟩], next answered.1⟩⟩
  | _ => pool

def turns (pool : Pool Tag State Call Answer Error Value) (schedule : List Nat) : Pool Tag State Call Answer Error Value :=
  schedule.foldl (turn perform) pool

theorem turn_ask (pool : Pool Tag State Call Answer Error Value) (index : Nat) (tag : Tag) (past : List (Exchange Call Answer))
    (call : Call) (next : Answer call → Prog Call Answer Error Value)
    (found : pool.threads[index]? = some ⟨tag, past, .ask call next⟩) :
    pool.turn perform index = ⟨(perform call pool.shared).2, pool.threads.set index
      ⟨tag, past ++ [⟨call, (perform call pool.shared).1⟩], next (perform call pool.shared).1⟩⟩ := by
  unfold turn
  rw [found]

theorem turn_tags (pool : Pool Tag State Call Answer Error Value) (index : Nat) :
    (pool.turn perform index).threads.map Thread.tag = pool.threads.map Thread.tag := by
  unfold turn
  split
  · rename_i tag past call next found
    obtain ⟨bound, _⟩ := List.getElem?_eq_some_iff.mp found
    refine List.ext_getElem? fun place => ?_
    rw [List.getElem?_map, List.getElem?_map, List.getElem?_set]
    by_cases same : index = place
    · subst same
      rw [if_pos rfl, if_pos bound, found]
      rfl
    · rw [if_neg same]
  · rfl

theorem turns_tags (pool : Pool Tag State Call Answer Error Value) (schedule : List Nat) :
    (pool.turns perform schedule).threads.map Thread.tag = pool.threads.map Thread.tag := by
  induction schedule generalizing pool with
  | nil => rfl
  | cons index rest ih => exact (ih (pool.turn perform index)).trans (turn_tags perform pool index)

def Everywhere (good : State → Thread Tag Call Answer Error Value → Prop) (pool : Pool Tag State Call Answer Error Value) : Prop :=
  ∀ thread ∈ pool.threads, good pool.shared thread

section Rely
variable (good : State → Thread Tag Call Answer Error Value → Prop)

theorem turn_everywhere (pool : Pool Tag State Call Answer Error Value) (index : Nat)
    (bears : ∀ thread call next, pool.threads[index]? = some thread → thread.prog = .ask call next →
      ∀ (place : Nat) other, place ≠ index → pool.threads[place]? = some other → good pool.shared other →
        good (perform call pool.shared).2 other)
    (own : ∀ tag past call next, pool.threads[index]? = some ⟨tag, past, .ask call next⟩ →
      good pool.shared ⟨tag, past, .ask call next⟩ →
      good (perform call pool.shared).2 ⟨tag, past ++ [⟨call, (perform call pool.shared).1⟩], next (perform call pool.shared).1⟩)
    (everywhere : pool.Everywhere good) : (pool.turn perform index).Everywhere good := by
  unfold turn
  split
  · rename_i tag past call next found
    intro thread member
    obtain ⟨place, there⟩ := List.mem_iff_getElem?.mp member
    dsimp only at there ⊢
    rw [List.getElem?_set] at there
    by_cases same : index = place
    · subst same
      rw [if_pos rfl] at there
      split at there
      · cases there
        exact own tag past call next found (everywhere _ (List.mem_of_getElem? found))
      · cases there
    · rw [if_neg same] at there
      exact bears _ call next found rfl place thread (Ne.symm same) there (everywhere _ (List.mem_of_getElem? there))
  · exact everywhere

end Rely
end Pool
end Programs
