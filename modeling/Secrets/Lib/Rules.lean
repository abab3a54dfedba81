import Mathlib.Data.List.Basic

set_option autoImplicit false

namespace Rules

-- A rule, and the reason that is given where it is broken.
structure Rule (Reason : Type) where
  reason : Reason
  broken : Prop

inductive First {Reason : Type} : List (Rule Reason) → Reason → Prop where
  | here (reason : Reason) (broken : Prop) (rest : List (Rule Reason)) (breaks : broken) : First (⟨reason, broken⟩ :: rest) reason
  | later (rule : Rule Reason) (rest : List (Rule Reason)) (reason : Reason) (kept : ¬rule.broken) (first : First rest reason) :
      First (rule :: rest) reason

variable {Reason Value Result : Type}

def Unbroken (rules : List (Rule Reason)) : Prop := ∀ rule ∈ rules, ¬rule.broken

theorem kept_not_first (rules : List (Rule Reason)) (kept : Unbroken rules) (reason : Reason) (first : First rules reason) : False := by
  induction first with
  | here reason broken rest breaks => exact kept _ List.mem_cons_self breaks
  | later rule rest reason _ _ ih => exact ih fun other member => kept other (List.mem_cons_of_mem _ member)

theorem first_unique (rules : List (Rule Reason)) (one other : Reason) (first : First rules one) (second : First rules other) :
    one = other := by
  induction first with
  | here reason broken rest breaks =>
      cases second with
      | here _ _ _ _ => rfl
      | later _ _ _ kept _ => exact absurd breaks kept
  | later rule rest reason kept _ ih =>
      cases second with
      | here _ _ _ breaks => exact absurd breaks kept
      | later _ _ _ _ there => exact ih there

theorem first_append_left (rules more : List (Rule Reason)) (reason : Reason) (first : First rules reason) : First (rules ++ more) reason := by
  induction first with
  | here reason broken rest breaks => exact .here reason broken _ breaks
  | later rule rest reason kept _ ih => exact .later rule _ reason kept ih

theorem first_append_right (rules more : List (Rule Reason)) (reason : Reason) (kept : Unbroken rules) (first : First more reason) :
    First (rules ++ more) reason := by
  induction rules with
  | nil => exact first
  | cons rule rest ih =>
      apply First.later rule _ reason (kept rule List.mem_cons_self)
      exact ih fun other member => kept other (List.mem_cons_of_mem _ member)

theorem kept_append (rules more : List (Rule Reason)) : Unbroken (rules ++ more) ↔ Unbroken rules ∧ Unbroken more := by
  constructor
  · intro kept
    exact ⟨fun rule member => kept rule (List.mem_append_left _ member), fun rule member => kept rule (List.mem_append_right _ member)⟩
  · intro ⟨first, second⟩ rule member
    rcases List.mem_append.mp member with before | after
    · exact first rule before
    · exact second rule after

def Decides (rules : List (Rule Reason)) : Except Reason Value → Prop
  | .ok _ => Unbroken rules
  | .error reason => First rules reason

section Decisions
variable (rules more : List (Rule Reason)) (result : Except Reason Value)

theorem decides_ok (decides : Decides rules result) : (∃ value, result = .ok value) ↔ Unbroken rules := by
  cases result with
  | ok value => exact ⟨fun _ => decides, fun _ => ⟨value, rfl⟩⟩
  | error reason =>
      constructor
      · intro ⟨value, impossible⟩
        cases impossible
      · intro kept
        exact (kept_not_first rules kept reason decides).elim

theorem decides_error (decides : Decides rules result) (reason : Reason) : result = .error reason ↔ First rules reason := by
  cases result with
  | ok value =>
      constructor
      · intro impossible
        cases impossible
      · intro first
        exact (kept_not_first rules decides reason first).elim
  | error other =>
      constructor
      · intro same
        cases same
        exact decides
      · intro first
        rw [first_unique rules other reason decides first]

theorem decides_bind (next : Value → Except Reason Result) (decides : Decides rules result)
    (goes : ∀ value, result = .ok value → Decides more (next value)) : Decides (rules ++ more) (result >>= next) := by
  cases result with
  | error reason => exact first_append_left rules more reason decides
  | ok value =>
      have after := goes value rfl
      have same : (Except.ok value >>= next) = next value := rfl
      rw [same]
      cases last : next value with
      | ok done =>
          rw [last] at after
          exact (kept_append rules more).mpr ⟨decides, after⟩
      | error reason =>
          rw [last] at after
          exact first_append_right rules more reason decides after

end Decisions

theorem decides_map (rules : List (Rule Reason)) (result : Except Reason Value) (after : Value → Result)
    (decides : Decides rules (result.map after)) : Decides rules result := by
  cases result with
  | ok value => exact decides
  | error reason => exact decides

theorem decides_pure (rules : List (Rule Reason)) (result : Except Reason Value) (after : Value → Result) (decides : Decides rules result) :
    Decides rules (result >>= fun value => pure (after value)) := by
  cases result with
  | ok value => exact decides
  | error reason => exact decides

theorem decides_if (reason : Reason) (broken : Prop) [Decidable broken] :
    Decides [⟨reason, broken⟩] (if broken then .error reason else .ok () : Except Reason Unit) := by
  by_cases breaks : broken
  · rw [if_pos breaks]
    exact .here reason broken [] breaks
  · rw [if_neg breaks]
    intro rule member
    cases List.mem_singleton.mp member
    exact breaks

theorem decides_each {Item : Type} (rules : Item → List (Rule Reason)) (check : Item → Except Reason Unit)
    (decides : ∀ item, Decides (rules item) (check item)) (items : List Item) : Decides (items.flatMap rules) (items.forM check) := by
  induction items with
  | nil => exact fun rule member => absurd member List.not_mem_nil
  | cons item rest ih =>
      rw [List.flatMap_cons]
      exact decides_bind (rules item) (rest.flatMap rules) (check item) (fun _ => rest.forM check) (decides item) fun _ _ => ih

def relabel {Other : Type} (label : Reason → Other) (rules : List (Rule Reason)) : List (Rule Other) :=
  rules.map fun rule => ⟨label rule.reason, rule.broken⟩

theorem decides_relabel {Other : Type} (label : Reason → Other) (rules : List (Rule Reason)) (result : Except Reason Value)
    (decides : Decides rules result) : Decides (relabel label rules) (result.mapError label) := by
  cases result with
  | ok value =>
      intro rule member
      obtain ⟨original, inside, rfl⟩ := List.mem_map.mp member
      exact decides original inside
  | error reason =>
      have first : First rules reason := decides
      change First (relabel label rules) (label reason)
      induction first with
      | here reason broken rest breaks => exact .here (label reason) broken _ breaks
      | later rule rest reason kept there ih => exact .later ⟨label rule.reason, rule.broken⟩ _ _ kept (ih there)

end Rules
