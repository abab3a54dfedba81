import Mathlib.Logic.Relation

set_option autoImplicit false

namespace Effects

def Tx (State Error Value : Type) : Type := State → Except Error Value × State

variable {State Error Value Result : Type}

namespace Tx

def ret (value : Value) : Tx State Error Value := fun state => (.ok value, state)

def chain (first : Tx State Error Value) (next : Value → Tx State Error Result) :
    Tx State Error Result := fun state =>
  match first state with
  | (.ok value, middle) => next value middle
  | (.error error, middle) => (.error error, middle)

instance : Monad (Tx State Error) where
  pure := ret
  bind := chain

def fail (error : Error) : Tx State Error Value := fun state => (.error error, state)

def lift (result : Except Error Value) : Tx State Error Value := fun state => (result, state)

def read (view : State → Value) : Tx State Error Value := fun state => (.ok (view state), state)

def write (change : State → State) : Tx State Error Unit := fun state => (.ok (), change state)

def ensure (holds : Bool) (refused : Error) : Tx State Error Unit := fun state =>
  if holds then (.ok (), state) else (.error refused, state)

def attempt (change : State → Option State) (refused : Error) : Tx State Error Unit := fun state =>
  match change state with
  | some after => (.ok (), after)
  | none => (.error refused, state)

def mapError {Other : Type} (convert : Error → Other) (body : Tx State Error Value) :
    Tx State Other Value := fun state =>
  match body state with
  | (.ok value, after) => (.ok value, after)
  | (.error error, after) => (.error (convert error), after)

def forEach {Item : Type} (body : Item → Tx State Error Unit) : List Item → Tx State Error Unit
  | [] => ret ()
  | item :: rest => chain (body item) fun _ => forEach body rest

def atomic (restore : State → State → State) (body : Tx State Error Value) :
    Tx State Error Value := fun state =>
  match body state with
  | (.ok value, after) => (.ok value, after)
  | (.error error, after) => (.error error, restore state after)

@[simp] theorem pure_run (value : Value) (state : State) :
    (pure value : Tx State Error Value) state = (.ok value, state) := rfl

@[simp] theorem fail_run (error : Error) (state : State) :
    (fail error : Tx State Error Value) state = (.error error, state) := rfl

@[simp] theorem lift_run (result : Except Error Value) (state : State) :
    lift result state = (result, state) := rfl

@[simp] theorem read_run (view : State → Value) (state : State) :
    (read view : Tx State Error Value) state = (.ok (view state), state) := rfl

@[simp] theorem write_run (change : State → State) (state : State) :
    (write change : Tx State Error Unit) state = (.ok (), change state) := rfl

theorem ensure_ok (holds : Bool) (refused : Error) (done : Unit) (state after : State) :
    ensure holds refused state = (.ok done, after) ↔ holds = true ∧ state = after := by
  cases holds <;> simp [ensure]

theorem ensure_error (holds : Bool) (refused error : Error) (state after : State) :
    ensure holds refused state = (.error error, after) ↔ holds = false ∧ refused = error ∧ state = after := by
  cases holds <;> simp [ensure]

theorem attempt_ok (change : State → Option State) (refused : Error) (done : Unit) (state after : State) :
    attempt change refused state = (.ok done, after) ↔ change state = some after := by
  unfold attempt
  cases made : change state <;> simp

theorem bind_run (first : Tx State Error Value) (next : Value → Tx State Error Result) (state : State) :
    (first >>= next) state =
      match first state with
      | (.ok value, middle) => next value middle
      | (.error error, middle) => (.error error, middle) := rfl

theorem bind_of_ok (first : Tx State Error Value) (next : Value → Tx State Error Result)
    (state middle : State) (value : Value) (ran : first state = (.ok value, middle)) :
    (first >>= next) state = next value middle := by
  rw [bind_run, ran]

theorem bind_of_error (first : Tx State Error Value) (next : Value → Tx State Error Result)
    (state middle : State) (error : Error) (ran : first state = (.error error, middle)) :
    (first >>= next) state = (.error error, middle) := by
  rw [bind_run, ran]

theorem bind_ok (first : Tx State Error Value) (next : Value → Tx State Error Result)
    (state after : State) (result : Result) :
    (first >>= next) state = (.ok result, after) ↔
      ∃ value middle, first state = (.ok value, middle) ∧ next value middle = (.ok result, after) := by
  rw [bind_run]
  cases ran : first state with
  | mk outcome middle => cases outcome <;> simp [and_assoc]

theorem bind_error (first : Tx State Error Value) (next : Value → Tx State Error Result)
    (state after : State) (error : Error) :
    (first >>= next) state = (.error error, after) ↔
      first state = (.error error, after) ∨
        ∃ value middle, first state = (.ok value, middle) ∧ next value middle = (.error error, after) := by
  rw [bind_run]
  cases ran : first state with
  | mk outcome middle => cases outcome <;> simp [and_assoc]

theorem atomic_ok (restore : State → State → State) (body : Tx State Error Value)
    (state after : State) (value : Value) :
    atomic restore body state = (.ok value, after) ↔ body state = (.ok value, after) := by
  rw [atomic]
  cases ran : body state with
  | mk outcome middle => cases outcome <;> simp

theorem atomic_error (restore : State → State → State) (body : Tx State Error Value)
    (state after : State) (error : Error) :
    atomic restore body state = (.error error, after) ↔
      ∃ middle, body state = (.error error, middle) ∧ restore state middle = after := by
  rw [atomic]
  cases ran : body state with
  | mk outcome middle => cases outcome <;> simp [and_assoc]

theorem map_error_ok {Other : Type} (convert : Error → Other) (body : Tx State Error Value)
    (state after : State) (value : Value) :
    mapError convert body state = (.ok value, after) ↔ body state = (.ok value, after) := by
  rw [mapError]
  cases ran : body state with
  | mk outcome middle => cases outcome <;> simp

theorem for_each_cons {Item : Type} (body : Item → Tx State Error Unit) (item : Item) (rest : List Item) :
    forEach body (item :: rest) = body item >>= fun _ => forEach body rest := rfl

-- What every step of a computation leaves true between the state before it and
-- the state after it. Being a preorder it composes, so the frame condition of a
-- long program is read off its statements.
structure Frame (State : Type) where
  rel : State → State → Prop
  refl : ∀ state, rel state state
  trans : ∀ first middle last, rel first middle → rel middle last → rel first last

namespace Frame

def keeping {View : Type} (view : State → View) : Frame State where
  rel before after := view after = view before
  refl _ := rfl
  trans _ _ _ start finish := finish.trans start

def preserving (good : State → Prop) : Frame State where
  rel before after := good before → good after
  refl _ := id
  trans _ _ _ start finish held := finish (start held)

def reflecting (good : State → Prop) : Frame State where
  rel before after := good after → good before
  refl _ := id
  trans _ _ _ start finish held := start (finish held)

end Frame

def Within (frame : Frame State) (body : Tx State Error Value) : Prop :=
  ∀ state, frame.rel state (body state).2

section Frames
variable (frame : Frame State)

theorem within_pure (value : Value) : Within frame (pure value : Tx State Error Value) :=
  fun state => frame.refl state

theorem within_fail (error : Error) : Within frame (fail error : Tx State Error Value) :=
  fun state => frame.refl state

theorem within_lift (result : Except Error Value) : Within frame (lift result) :=
  fun state => frame.refl state

theorem within_read (view : State → Value) : Within frame (read view : Tx State Error Value) :=
  fun state => frame.refl state

theorem within_write (change : State → State) (kept : ∀ state, frame.rel state (change state)) :
    Within frame (write change : Tx State Error Unit) := kept

theorem within_ensure (holds : Bool) (refused : Error) : Within frame (ensure holds refused) := by
  intro state
  cases holds <;> exact frame.refl state

theorem within_attempt (change : State → Option State) (refused : Error)
    (kept : ∀ state after, change state = some after → frame.rel state after) :
    Within frame (attempt change refused) := by
  intro state
  rw [attempt]
  cases made : change state with
  | none => exact frame.refl state
  | some after => exact kept state after made

theorem within_bind (first : Tx State Error Value) (next : Value → Tx State Error Result)
    (here : Within frame first) (later : ∀ value, Within frame (next value)) :
    Within frame (first >>= next) := by
  intro state
  have start := here state
  rw [bind_run]
  cases ran : first state with
  | mk outcome middle =>
      rw [ran] at start
      cases outcome with
      | ok value => exact frame.trans state middle _ start (later value middle)
      | error error => exact start

theorem within_map_error {Other : Type} (convert : Error → Other) (body : Tx State Error Value)
    (inner : Within frame body) : Within frame (mapError convert body) := by
  intro state
  have step := inner state
  rw [mapError]
  cases ran : body state with
  | mk outcome after =>
      rw [ran] at step
      cases outcome <;> exact step

theorem within_for_each {Item : Type} (body : Item → Tx State Error Unit) (items : List Item)
    (each : ∀ item ∈ items, Within frame (body item)) : Within frame (forEach body items) := by
  induction items with
  | nil => exact within_pure frame ()
  | cons item rest ih =>
      rw [for_each_cons]
      exact within_bind frame _ _ (each item (by simp)) fun _ => ih fun later member => each later (by simp [member])

theorem within_atomic (restore : State → State → State) (body : Tx State Error Value)
    (inner : Within frame body) (undone : ∀ before after, frame.rel before after → frame.rel before (restore before after)) :
    Within frame (atomic restore body) := by
  intro state
  have step := inner state
  rw [atomic]
  cases ran : body state with
  | mk outcome after =>
      rw [ran] at step
      cases outcome with
      | ok value => exact step
      | error error => exact undone state after step

section Loops
variable {Item : Type} (body : Item → Tx State Error Unit) (items : List Item)

theorem for_each_frame (ready : Item → State → Prop) (first last : State) (done : Unit)
    (step : ∀ item before after finished, ready item before → body item before = (.ok finished, after) →
      frame.rel before after)
    (stable : ∀ item before after, ready item before → frame.rel before after → ready item after)
    (start : ∀ item ∈ items, ready item first) (ran : forEach body items first = (.ok done, last)) :
    frame.rel first last := by
  induction items generalizing first with
  | nil =>
      cases ran
      exact frame.refl _
  | cons item rest ih =>
      rw [for_each_cons, bind_ok] at ran
      obtain ⟨finished, middle, here, later⟩ := ran
      have turn := step item first middle finished (start item (by simp)) here
      have others : ∀ other ∈ rest, ready other middle := fun other member =>
        stable other first middle (start other (by simp [member])) turn
      exact frame.trans _ _ _ turn (ih middle others later)

theorem for_each_total (ready : Item → State → Prop) (first : State)
    (step : ∀ item before, ready item before → ∃ after, body item before = (.ok (), after) ∧ frame.rel before after)
    (stable : ∀ item before after, ready item before → frame.rel before after → ready item after)
    (start : ∀ item ∈ items, ready item first) : ∃ last, forEach body items first = (.ok (), last) := by
  induction items generalizing first with
  | nil => exact ⟨first, rfl⟩
  | cons item rest ih =>
      obtain ⟨middle, here, turn⟩ := step item first (start item (by simp))
      obtain ⟨last, later⟩ := ih middle fun other member =>
        stable other first middle (start other (by simp [member])) turn
      exact ⟨last, by rw [for_each_cons, bind_of_ok _ _ _ _ _ here, later]⟩

theorem for_each_visits (first last : State) (done : Unit) (ran : forEach body items first = (.ok done, last)) :
    ∀ item ∈ items, ∃ before after finished, body item before = (.ok finished, after) := by
  induction items generalizing first with
  | nil => simp
  | cons item rest ih =>
      rw [for_each_cons, bind_ok] at ran
      obtain ⟨finished, middle, here, later⟩ := ran
      exact List.forall_mem_cons.mpr ⟨⟨first, middle, finished, here⟩, ih middle later⟩

theorem for_each_back (seen : State → Prop) (settled : Prop) (spared : Item → Prop) (first last : State) (done : Unit)
    (step : ∀ item before after finished, body item before = (.ok finished, after) → seen after →
      settled ∨ seen before ∧ spared item)
    (ran : forEach body items first = (.ok done, last)) (final : seen last) :
    settled ∨ seen first ∧ ∀ item ∈ items, spared item := by
  induction items generalizing first with
  | nil =>
      cases ran
      exact .inr ⟨final, by simp⟩
  | cons item rest ih =>
      rw [for_each_cons, bind_ok] at ran
      obtain ⟨finished, middle, here, later⟩ := ran
      rcases ih middle later with settled | ⟨between, others⟩
      · exact .inl settled
      · rcases step item first middle finished here between with settled | ⟨before, apart⟩
        · exact .inl settled
        · exact .inr ⟨before, List.forall_mem_cons.mpr ⟨apart, others⟩⟩

end Loops

theorem within_at_bind (first : Tx State Error Value) (next : Value → Tx State Error Result) (state : State)
    (here : frame.rel state (first state).2)
    (later : ∀ value middle, first state = (.ok value, middle) → frame.rel middle (next value middle).2) :
    frame.rel state ((first >>= next) state).2 := by
  rw [bind_run]
  cases ran : first state with
  | mk outcome middle =>
      rw [ran] at here
      cases outcome with
      | ok value => exact frame.trans state middle _ here (later value middle ran)
      | error error => exact here

def WithinError (body : Tx State Error Value) : Prop :=
  ∀ state error after, body state = (.error error, after) → frame.rel state after

theorem within_error (body : Tx State Error Value) (always : Within frame body) : WithinError frame body := by
  intro state error after ran
  have step := always state
  rwa [ran] at step

theorem within_error_bind (first : Tx State Error Value) (next : Value → Tx State Error Result)
    (here : Within frame first) (later : ∀ value, WithinError frame (next value)) :
    WithinError frame (first >>= next) := by
  intro state error after ran
  rcases (bind_error _ _ _ _ _).mp ran with failed | ⟨value, middle, passed, failed⟩
  · exact within_error frame first here state error after failed
  · have start := here state
    rw [passed] at start
    exact frame.trans _ _ _ start (later value middle error after failed)

theorem within_error_attempt (change : State → Option State) (refused : Error) :
    WithinError frame (attempt change refused) := by
  intro state error after ran
  rw [attempt] at ran
  cases made : change state with
  | none =>
      rw [made] at ran
      cases ran
      exact frame.refl state
  | some changed =>
      rw [made] at ran
      cases ran

end Frames

-- Run on the state `swap` makes of this one, `other` does what the computation
-- does here, and `swap` makes its result of the result. So what `swap` takes
-- away or exchanges is neither looked at nor touched. Mostly `other` is the same
-- computation.
def CommutesAt (swap : State → State) (body other : Tx State Error Value) (state : State) : Prop :=
  other (swap state) = ((body state).1, swap (body state).2)

def Commutes (swap : State → State) (body : Tx State Error Value) : Prop := ∀ state, CommutesAt swap body body state

section Commuting
variable (swap : State → State) (state : State)

theorem commutes_at_pure (value : Value) : CommutesAt swap (pure value : Tx State Error Value) (pure value) state := rfl

theorem commutes_at_fail (error : Error) : CommutesAt swap (fail error : Tx State Error Value) (fail error) state := rfl

theorem commutes_at_lift (result : Except Error Value) : CommutesAt swap (lift result) (lift result) state := rfl

theorem commutes_at_ensure (holds : Bool) (refused : Error) :
    CommutesAt swap (ensure holds refused) (ensure holds refused) state := by
  cases holds <;> rfl

theorem commutes_at_read (view : State → Value) (blind : view (swap state) = view state) :
    CommutesAt swap (read view : Tx State Error Value) (read view) state := by
  rw [CommutesAt, read_run, read_run, blind]

theorem commutes_at_write (change : State → State) (apart : change (swap state) = swap (change state)) :
    CommutesAt swap (write change : Tx State Error Unit) (write change) state := by
  rw [CommutesAt, write_run, write_run, apart]

theorem commutes_at_attempt (change : State → Option State) (refused : Error)
    (apart : change (swap state) = (change state).map swap) :
    CommutesAt swap (attempt change refused) (attempt change refused) state := by
  rw [CommutesAt, attempt, attempt, apart]
  cases change state <;> rfl

theorem commutes_at_bind (first second : Tx State Error Value) (next after : Value → Tx State Error Result)
    (here : CommutesAt swap first second state)
    (later : ∀ value middle, first state = (.ok value, middle) → CommutesAt swap (next value) (after value) middle) :
    CommutesAt swap (first >>= next) (second >>= after) state := by
  rw [CommutesAt, bind_run, bind_run, here]
  cases ran : first state with
  | mk outcome middle =>
      cases outcome with
      | ok value => exact later value middle ran
      | error error => rfl

theorem commutes_at_map_error {Other : Type} (convert : Error → Other) (body other : Tx State Error Value)
    (inner : CommutesAt swap body other state) : CommutesAt swap (mapError convert body) (mapError convert other) state := by
  rw [CommutesAt, mapError, mapError, inner]
  cases ran : body state with
  | mk outcome after => cases outcome <;> rfl

theorem commutes_at_atomic (restore : State → State → State) (body other : Tx State Error Value)
    (inner : CommutesAt swap body other state)
    (undone : ∀ after, restore (swap state) (swap after) = swap (restore state after)) :
    CommutesAt swap (atomic restore body) (atomic restore other) state := by
  rw [CommutesAt, atomic, atomic, inner]
  cases ran : body state with
  | mk outcome after =>
      cases outcome with
      | ok value => rfl
      | error error => exact Prod.ext rfl (undone after)

theorem commutes_at_bind_bounded (bounded : State → Prop) (first second : Tx State Error Value)
    (next after : Value → Tx State Error Result) (back : ∀ value, Within (Frame.reflecting bounded) (next value))
    (last : bounded ((first >>= next) state).2) (here : bounded (first state).2 → CommutesAt swap first second state)
    (later : ∀ value middle, first state = (.ok value, middle) → bounded (next value middle).2 →
      CommutesAt swap (next value) (after value) middle) : CommutesAt swap (first >>= next) (second >>= after) state := by
  rw [bind_run] at last
  cases ran : first state with
  | mk outcome middle =>
      rw [ran] at last here
      cases outcome with
      | error error =>
          exact commutes_at_bind swap state _ _ _ _ (here last) fun value after again => by cases ran.symm.trans again
      | ok value =>
          refine commutes_at_bind swap state _ _ _ _ (here (back value middle last)) fun other after again => ?_
          cases ran.symm.trans again
          exact later _ _ ran last

theorem commutes_at_for_each {Item : Type} (body other : Item → Tx State Error Unit) (items : List Item)
    (good bounded : State → Prop) (back : ∀ item ∈ items, Within (Frame.reflecting bounded) (body item))
    (each : ∀ item ∈ items, ∀ before, good before → bounded (body item before).2 →
      CommutesAt swap (body item) (other item) before)
    (kept : ∀ item ∈ items, ∀ before done after, good before → body item before = (.ok done, after) → good after)
    (start : good state) (last : bounded (forEach body items state).2) :
    CommutesAt swap (forEach body items) (forEach other items) state := by
  induction items generalizing state with
  | nil => exact commutes_at_pure swap state ()
  | cons item rest ih =>
      have later := within_for_each (Frame.reflecting bounded) body rest fun other member => back other (by simp [member])
      refine commutes_at_bind_bounded swap state bounded _ _ _ _ (fun _ => later) last (each item (by simp) state start)
        fun done middle ran between => ?_
      exact ih middle (fun other member => back other (by simp [member]))
        (fun other member => each other (by simp [member])) (fun other member => kept other (by simp [member]))
        (kept item (by simp) state done middle start ran) between

theorem commutes_pure (value : Value) : Commutes swap (pure value : Tx State Error Value) := fun _ => rfl

theorem commutes_fail (error : Error) : Commutes swap (fail error : Tx State Error Value) := fun _ => rfl

theorem commutes_lift (result : Except Error Value) : Commutes swap (lift result) := fun _ => rfl

theorem commutes_ensure (holds : Bool) (refused : Error) : Commutes swap (ensure holds refused) :=
  fun state => commutes_at_ensure swap state holds refused

theorem commutes_read (view : State → Value) (blind : ∀ state, view (swap state) = view state) :
    Commutes swap (read view : Tx State Error Value) := fun state => commutes_at_read swap state view (blind state)

theorem commutes_write (change : State → State) (apart : ∀ state, change (swap state) = swap (change state)) :
    Commutes swap (write change : Tx State Error Unit) := fun state => commutes_at_write swap state change (apart state)

theorem commutes_attempt (change : State → Option State) (refused : Error)
    (apart : ∀ state, change (swap state) = (change state).map swap) : Commutes swap (attempt change refused) :=
  fun state => commutes_at_attempt swap state change refused (apart state)

theorem commutes_bind (first : Tx State Error Value) (next : Value → Tx State Error Result)
    (here : Commutes swap first) (later : ∀ value, Commutes swap (next value)) : Commutes swap (first >>= next) :=
  fun state => commutes_at_bind swap state first first next next (here state) fun value middle _ => later value middle

theorem commutes_map_error {Other : Type} (convert : Error → Other) (body : Tx State Error Value)
    (inner : Commutes swap body) : Commutes swap (mapError convert body) :=
  fun state => commutes_at_map_error swap state convert body body (inner state)

theorem commutes_for_each {Item : Type} (body : Item → Tx State Error Unit) (items : List Item)
    (each : ∀ item, Commutes swap (body item)) : Commutes swap (forEach body items) :=
  fun state => commutes_at_for_each swap state body body items (fun _ => True) (fun _ => True) (fun _ _ _ _ => trivial)
    (fun item _ before _ _ => each item before) (fun _ _ _ _ _ _ _ => trivial) trivial trivial

end Commuting

def Matches (relation : State → State → Prop) (left right : Except Error Value × State) : Prop :=
  left.1 = right.1 ∧ relation left.2 right.2

section TwoRuns
variable (relation : State → State → Prop)

theorem matches_pure (value : Value) (left right : State) (related : relation left right) :
    Matches relation ((pure value : Tx State Error Value) left) ((pure value : Tx State Error Value) right) :=
  ⟨rfl, related⟩

theorem matches_fail (error : Error) (left right : State) (related : relation left right) :
    Matches relation ((fail error : Tx State Error Value) left) ((fail error : Tx State Error Value) right) :=
  ⟨rfl, related⟩

theorem matches_ensure (holds : Bool) (refused : Error) (left right : State) (related : relation left right) :
    Matches relation (ensure holds refused left) (ensure holds refused right) := by
  cases holds <;> exact ⟨rfl, related⟩

theorem matches_read (view : State → Value) (left right : State) (same : view left = view right)
    (related : relation left right) :
    Matches relation ((read view : Tx State Error Value) left) ((read view : Tx State Error Value) right) :=
  ⟨by rw [read_run, read_run, same], related⟩

theorem matches_write (change : State → State) (left right : State) (related : relation (change left) (change right)) :
    Matches relation ((write change : Tx State Error Unit) left) ((write change : Tx State Error Unit) right) :=
  ⟨rfl, related⟩

theorem matches_bind (first second : Tx State Error Value) (next after : Value → Tx State Error Result)
    (left right : State) (start : Matches relation (first left) (second right))
    (later : ∀ value leftMiddle rightMiddle, first left = (.ok value, leftMiddle) →
      second right = (.ok value, rightMiddle) → relation leftMiddle rightMiddle →
      Matches relation (next value leftMiddle) (after value rightMiddle)) :
    Matches relation ((first >>= next) left) ((second >>= after) right) := by
  obtain ⟨same, related⟩ := start
  rw [bind_run, bind_run]
  cases ranLeft : first left with
  | mk outcome leftMiddle =>
      cases ranRight : second right with
      | mk other rightMiddle =>
          rw [ranLeft, ranRight] at same related
          cases (show outcome = other from same)
          cases outcome with
          | ok value => exact later value leftMiddle rightMiddle ranLeft ranRight related
          | error error => exact ⟨rfl, related⟩

theorem matches_atomic (restore : State → State → State) (first second : Tx State Error Value)
    (left right : State) (start : Matches relation (first left) (second right))
    (undone : ∀ leftAfter rightAfter, relation leftAfter rightAfter →
      relation (restore left leftAfter) (restore right rightAfter)) :
    Matches relation (atomic restore first left) (atomic restore second right) := by
  obtain ⟨same, related⟩ := start
  rw [atomic, atomic]
  cases ranLeft : first left with
  | mk outcome leftAfter =>
      cases ranRight : second right with
      | mk other rightAfter =>
          rw [ranLeft, ranRight] at same related
          cases (show outcome = other from same)
          cases outcome with
          | ok value => exact ⟨rfl, related⟩
          | error error => exact ⟨rfl, undone _ _ related⟩

end TwoRuns

-- The same where the values may differ as well, and only what they say to
-- somebody is alike.
inductive SameOutcome {First Second : Type} (alike : First → Second → Prop) : Except Error First → Except Error Second → Prop where
  | ok (first : First) (second : Second) (same : alike first second) : SameOutcome alike (.ok first) (.ok second)
  | error (error : Error) : SameOutcome alike (.error error) (.error error)

def Resembles {First Second : Type} (relation : State → State → Prop) (alike : First → Second → Prop)
    (left : Except Error First × State) (right : Except Error Second × State) : Prop :=
  SameOutcome alike left.1 right.1 ∧ relation left.2 right.2

theorem same_outcome_map_error {Other : Type} (alike : Value → Value → Prop) (convert : Error → Other)
    (left right : Except Error Value) (same : SameOutcome alike left right) :
    SameOutcome alike (left.mapError convert) (right.mapError convert) := by
  cases same with
  | ok first second same => exact .ok first second same
  | error error => exact .error (convert error)

theorem resembles_bind {First Second : Type} (relation : State → State → Prop) (alike : First → Second → Prop)
    (same : Value → Result → Prop) (first : Tx State Error First) (second : Tx State Error Second)
    (next : First → Tx State Error Value) (after : Second → Tx State Error Result) (left right : State)
    (start : Resembles relation alike (first left) (second right))
    (later : ∀ value other leftMiddle rightMiddle, first left = (.ok value, leftMiddle) →
      second right = (.ok other, rightMiddle) → alike value other → relation leftMiddle rightMiddle →
      Resembles relation same (next value leftMiddle) (after other rightMiddle)) :
    Resembles relation same ((first >>= next) left) ((second >>= after) right) := by
  obtain ⟨outcomes, related⟩ := start
  rw [bind_run, bind_run]
  cases ranLeft : first left with
  | mk outcome leftMiddle =>
      cases ranRight : second right with
      | mk other rightMiddle =>
          rw [ranLeft, ranRight] at outcomes related
          cases outcomes with
          | ok value answer same => exact later value answer leftMiddle rightMiddle ranLeft ranRight same related
          | error error => exact ⟨.error error, related⟩

def Never (bad : Error → Prop) (body : Tx State Error Value) : Prop :=
  ∀ state error after, body state = (.error error, after) → ¬bad error

section Refusals
variable (bad : Error → Prop)

theorem never_pure (value : Value) : Never bad (pure value : Tx State Error Value) := by
  intro state error after ran
  cases ran

theorem never_read (view : State → Value) : Never bad (read view : Tx State Error Value) := by
  intro state error after ran
  cases ran

theorem never_write (change : State → State) : Never bad (write change : Tx State Error Unit) := by
  intro state error after ran
  cases ran

theorem never_lift (result : Except Error Value) (other : ∀ error, result = .error error → ¬bad error) :
    Never bad (lift result : Tx State Error Value) := by
  intro state error after ran
  exact other error (congrArg Prod.fst ran)

theorem never_ensure (holds : Bool) (refused : Error) (other : ¬bad refused) :
    Never bad (ensure holds refused : Tx State Error Unit) := by
  intro state error after ran
  obtain ⟨_, rfl, _⟩ := (ensure_error _ _ _ _ _).mp ran
  exact other

theorem never_attempt (change : State → Option State) (refused : Error) (other : ¬bad refused) :
    Never bad (attempt change refused) := by
  intro state error after ran
  rw [attempt] at ran
  cases made : change state with
  | none =>
      rw [made] at ran
      cases ran
      exact other
  | some changed =>
      rw [made] at ran
      cases ran

theorem never_bind (first : Tx State Error Value) (next : Value → Tx State Error Result) (here : Never bad first)
    (later : ∀ value, Never bad (next value)) : Never bad (first >>= next) := by
  intro state error after ran
  rcases (bind_error _ _ _ _ _).mp ran with failed | ⟨value, middle, _, failed⟩
  · exact here state error after failed
  · exact later value middle error after failed

end Refusals

end Tx
end Effects
