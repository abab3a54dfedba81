import Secrets.Lib.Programs

set_option autoImplicit false

namespace Twins

open Programs

variable {Call : Type} {Answer : Call → Type} {Error Left Right : Type}

abbrev Pairing (Call : Type) (Answer : Call → Type) : Type := (left right : Call) → (Answer left → Answer right → Prop) → Prop

-- Two programs that go on together, and end with one error or with values that
-- are alike.
inductive Together (pairs : Pairing Call Answer) (alike : Left → Right → Prop) :
    Prog Call Answer Error Left → Prog Call Answer Error Right → Prop where
  | done (left : Left) (right : Right) (same : alike left right) : Together pairs alike (.done left) (.done right)
  | stop (error : Error) : Together pairs alike (.stop error) (.stop error)
  | ask (left right : Call) (answers : Answer left → Answer right → Prop) (paired : pairs left right answers)
      (next : Answer left → Prog Call Answer Error Left) (later : Answer right → Prog Call Answer Error Right)
      (rest : ∀ given other, answers given other → Together pairs alike (next given) (later other)) :
      Together pairs alike (.ask left next) (.ask right later)

def Ends (alike : Left → Right → Prop) : Except Error Left → Except Error Right → Prop
  | .ok left, .ok right => alike left right
  | .error left, .error right => left = right
  | _, _ => False

theorem ends_cases (alike : Left → Right → Prop) (left : Except Error Left) (right : Except Error Right) (same : Ends alike left right) :
    (∃ error, left = .error error ∧ right = .error error) ∨ ∃ first second, left = .ok first ∧ right = .ok second ∧ alike first second := by
  cases left with
  | error first =>
      cases right with
      | error second => exact .inl ⟨first, rfl, congrArg Except.error same.symm⟩
      | ok second => exact same.elim
  | ok first =>
      cases right with
      | error second => exact same.elim
      | ok second => exact .inr ⟨first, second, rfl, rfl, same⟩

theorem ends_eq (left right : Except Error Left) (same : Ends Eq left right) : left = right := by
  rcases ends_cases Eq left right same with ⟨error, rfl, rfl⟩ | ⟨first, second, rfl, rfl, equal⟩
  · rfl
  · exact congrArg Except.ok equal

theorem ends_same : (Ends (Eq : Left → Left → Prop) : Except Error Left → Except Error Left → Prop) = Eq := by
  funext left right
  apply propext
  constructor
  · exact ends_eq left right
  · intro equal
    subst equal
    cases left <;> rfl

theorem rel_cases (alike : Left → Right → Prop) (left : Option Left) (right : Option Right) (same : Option.Rel alike left right) :
    (left = none ∧ right = none) ∨ ∃ first second, left = some first ∧ right = some second ∧ alike first second := by
  cases same with
  | none => exact .inl ⟨rfl, rfl⟩
  | some both => exact .inr ⟨_, _, rfl, rfl, both⟩

theorem asks_first (allowed : Call → Prop) (first : Prog Call Answer Error Left) (next : Left → Prog Call Answer Error Right)
    (asks : (first >>= next).Asks allowed) : first.Asks allowed := by
  induction first with
  | done value => trivial
  | stop error => trivial
  | ask call later ih => exact ⟨asks.1, fun answer => ih answer (asks.2 answer)⟩

section Rules
variable (pairs : Pairing Call Answer) (alike : Left → Right → Prop)

theorem together_bind {Next Later : Type} (after : Next → Later → Prop) (first : Prog Call Answer Error Left)
    (second : Prog Call Answer Error Right) (next : Left → Prog Call Answer Error Next) (later : Right → Prog Call Answer Error Later)
    (together : Together pairs alike first second)
    (rest : ∀ left right, alike left right → Together pairs after (next left) (later right)) :
    Together pairs after (first >>= next) (second >>= later) := by
  induction together with
  | done left right same => exact rest left right same
  | stop error => exact .stop error
  | ask left right answers paired first second _ ih => exact .ask left right answers paired _ _ ih

theorem together_lift (left : Except Error Left) (right : Except Error Right) (same : Ends alike left right) :
    Together pairs alike (Prog.lift left) (Prog.lift right) := by
  rcases ends_cases alike left right same with ⟨error, rfl, rfl⟩ | ⟨first, second, rfl, rfl, both⟩
  · exact .stop error
  · exact .done first second both

theorem together_embed {Other Failure : Type} {OtherAnswer : Other → Type} (place : Call → Other)
    (back : (call : Call) → OtherAnswer (place call) → Answer call) (refuse : Error → Failure) (others : Pairing Other OtherAnswer)
    (placed : ∀ left right answers, pairs left right answers →
      others (place left) (place right) fun given other => answers (back left given) (back right other))
    (first : Prog Call Answer Error Left) (second : Prog Call Answer Error Right) (together : Together pairs alike first second) :
    Together others alike (first.embed place back refuse) (second.embed place back refuse) := by
  induction together with
  | done left right same => exact .done left right same
  | stop error => exact .stop (refuse error)
  | ask left right answers paired next later _ ih =>
      exact .ask (place left) (place right) _ (placed left right answers paired) _ _ fun given other same => ih _ _ same

section Plain
variable (plain : Call → Prop) (same : ∀ call, plain call → pairs call call Eq)
include same

theorem together_same (prog : Prog Call Answer Error Left) (asks : prog.Asks plain) : Together pairs Eq prog prog := by
  induction prog with
  | done value => exact .done value value rfl
  | stop error => exact .stop error
  | ask call next ih =>
      apply Together.ask call call Eq (same call asks.1)
      intro given other equal
      subst equal
      exact ih given (asks.2 given)

theorem together_after {Next Later : Type} (after : Next → Later → Prop) (first : Prog Call Answer Error Left) (asks : first.Asks plain)
    (next : Left → Prog Call Answer Error Next) (later : Left → Prog Call Answer Error Later)
    (rest : ∀ value, Together pairs after (next value) (later value)) : Together pairs after (first >>= next) (first >>= later) := by
  apply together_bind pairs Eq after _ _ _ _ (together_same pairs plain same first asks)
  intro left right equal
  subst equal
  exact rest left

end Plain
end Rules

theorem together_run {State Other : Type} (perform : (call : Call) → State → Answer call × State)
    (other : (call : Call) → Other → Answer call × Other) (pairs : Pairing Call Answer) (relation : State → Other → Prop)
    (agree : ∀ left right answers, pairs left right answers → ∀ state twin, relation state twin →
      answers (perform left state).1 (other right twin).1 ∧ relation (perform left state).2 (other right twin).2)
    (alike : Left → Right → Prop) (first : Prog Call Answer Error Left) (second : Prog Call Answer Error Right)
    (together : Together pairs alike first second) (state : State) (twin : Other) (related : relation state twin) :
    Ends alike (run perform first state).1 (run other second twin).1 ∧ relation (run perform first state).2 (run other second twin).2 := by
  induction together generalizing state twin with
  | done left right same => exact ⟨same, related⟩
  | stop error => exact ⟨rfl, related⟩
  | ask left right answers paired next later _ ih =>
      obtain ⟨given, after⟩ := agree left right answers paired state twin related
      exact ih _ _ given _ _ after

end Twins
