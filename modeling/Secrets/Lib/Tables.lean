import Mathlib

set_option autoImplicit false

namespace Tables

-- A relation with a unique key. The constraint is a field, so every table that
-- can be written down satisfies it and an insert that would break it has to say
-- what it does instead.
structure Table (Row Key : Type) (key : Row → Key) where
  rows : List Row
  unique : (rows.map key).Nodup

variable {Row Key : Type} {key : Row → Key}

namespace Table

theorem ext_rows (first second : Table Row Key key) (same : first.rows = second.rows) : first = second := by
  cases first
  cases second
  cases same
  rfl

instance [DecidableEq Row] : DecidableEq (Table Row Key key) := fun first second =>
  decidable_of_iff (first.rows = second.rows)
    ⟨ext_rows first second, fun same => congrArg rows same⟩

def empty : Table Row Key key := ⟨[], List.nodup_nil⟩

def discard (table : Table Row Key key) (gone : Row → Bool) : Table Row Key key :=
  ⟨table.rows.filter fun row => !gone row, (List.filter_sublist.map key).nodup table.unique⟩

@[simp] theorem discard_rows (table : Table Row Key key) (gone : Row → Bool) :
    (table.discard gone).rows = table.rows.filter fun row => !gone row := rfl

variable [DecidableEq Key]

def find (table : Table Row Key key) (target : Key) : Option Row :=
  table.rows.find? fun row => decide (key row = target)

def holds (table : Table Row Key key) (target : Key) : Bool := (table.find target).isSome

def insert (table : Table Row Key key) (row : Row) : Option (Table Row Key key) :=
  if fresh : key row ∉ table.rows.map key then
    some ⟨table.rows ++ [row], by
      rw [List.map_append, List.nodup_append]
      refine ⟨table.unique, by simp, ?_⟩
      intro taken member other single same
      rw [List.map_singleton, List.mem_singleton] at single
      exact fresh (single ▸ same ▸ member)⟩
  else none

theorem amend_keys (rows : List Row) (target : Key) (change : Row → Row)
    (keyed : ∀ row, key (change row) = key row) :
    (rows.map fun row => if key row = target then change row else row).map key = rows.map key := by
  rw [List.map_map]
  apply List.map_congr_left
  intro row _
  by_cases hit : key row = target <;> simp [hit, keyed]

def amend (table : Table Row Key key) (target : Key) (change : Row → Row)
    (keyed : ∀ row, key (change row) = key row) : Table Row Key key :=
  ⟨table.rows.map fun row => if key row = target then change row else row, by
    rw [amend_keys _ _ _ keyed]
    exact table.unique⟩

@[simp] theorem amend_rows (table : Table Row Key key) (target : Key) (change : Row → Row)
    (keyed : ∀ row, key (change row) = key row) :
    (table.amend target change keyed).rows =
      table.rows.map fun row => if key row = target then change row else row := rfl

theorem find_some (table : Table Row Key key) (target : Key) (row : Row) :
    table.find target = some row ↔ row ∈ table.rows ∧ key row = target := by
  constructor
  · intro found
    exact ⟨List.mem_of_find?_eq_some found, by simpa using List.find?_some found⟩
  · rintro ⟨member, rfl⟩
    obtain ⟨other, found⟩ : ∃ other, table.find (key row) = some other := by
      rw [← Option.isSome_iff_exists, find, List.find?_isSome]
      exact ⟨row, member, by simp⟩
    have same : other = row := List.inj_on_of_nodup_map table.unique (List.mem_of_find?_eq_some found) member
      (by simpa using List.find?_some found)
    rw [found, same]

theorem find_none (table : Table Row Key key) (target : Key) :
    table.find target = none ↔ ∀ row ∈ table.rows, key row ≠ target := by
  simp [find]

theorem find_key (table : Table Row Key key) (target : Key) (row : Row) (found : table.find target = some row) :
    key row = target := ((find_some table target row).mp found).2

theorem find_mem (table : Table Row Key key) (target : Key) (row : Row) (found : table.find target = some row) :
    row ∈ table.rows := ((find_some table target row).mp found).1

theorem find_of_mem (table : Table Row Key key) (row : Row) (member : row ∈ table.rows) :
    table.find (key row) = some row := (find_some table (key row) row).mpr ⟨member, rfl⟩

@[simp] theorem find_empty (target : Key) : (empty : Table Row Key key).find target = none := rfl

theorem insert_some (table after : Table Row Key key) (row : Row) :
    table.insert row = some after ↔ table.find (key row) = none ∧ after.rows = table.rows ++ [row] := by
  have absent : table.find (key row) = none ↔ key row ∉ table.rows.map key := by
    rw [find_none]
    simp
  rw [absent, insert]
  by_cases fresh : key row ∉ table.rows.map key
  · rw [dif_pos fresh, Option.some.injEq]
    constructor
    · rintro rfl
      exact ⟨fresh, rfl⟩
    · rintro ⟨_, same⟩
      exact ext_rows _ _ same.symm
  · rw [dif_neg fresh]
    simp only [fresh, reduceCtorEq, false_and]

theorem insert_none (table : Table Row Key key) (row : Row) :
    table.insert row = none ↔ ∃ old, table.find (key row) = some old := by
  rw [← Option.isSome_iff_exists, find, List.find?_isSome, insert]
  by_cases fresh : key row ∉ table.rows.map key
  · simp only [fresh, not_false_eq_true, dite_true, reduceCtorEq, false_iff]
    rintro ⟨old, member, same⟩
    exact fresh (List.mem_map.mpr ⟨old, member, by simpa using same⟩)
  · simp only [fresh, dite_false, true_iff]
    obtain ⟨old, member, same⟩ := List.mem_map.mp (not_not.mp fresh)
    exact ⟨old, member, by simp [same]⟩

theorem find_insert (table after : Table Row Key key) (row : Row) (target : Key)
    (inserted : table.insert row = some after) :
    after.find target = if key row = target then some row else table.find target := by
  obtain ⟨fresh, rows⟩ := (insert_some table after row).mp inserted
  rw [find, rows, List.find?_append]
  by_cases hit : key row = target
  · subst hit
    rw [find] at fresh
    simp [fresh]
  · simp only [hit, decide_false, List.find?_cons_of_neg, List.find?_nil, Bool.false_eq_true,
      not_false_eq_true, Option.or_none, if_false]
    rfl

theorem find_discard (table : Table Row Key key) (gone : Row → Bool) (target : Key) :
    (table.discard gone).find target = (table.find target).filter fun row => !gone row := by
  apply Option.ext
  intro row
  rw [find_some, Option.filter_eq_some_iff, find_some, discard_rows, List.mem_filter]
  constructor
  · rintro ⟨⟨member, kept⟩, same⟩
    exact ⟨⟨member, same⟩, kept⟩
  · rintro ⟨⟨member, same⟩, kept⟩
    exact ⟨⟨member, kept⟩, same⟩

theorem find_discard_key (table : Table Row Key key) (dropped target : Key) :
    (table.discard fun row => decide (key row = dropped)).find target =
      if dropped = target then none else table.find target := by
  rw [find_discard]
  cases found : table.find target with
  | none => simp
  | some row =>
      have same := find_key table target row found
      by_cases hit : dropped = target
      · simp [same, hit]
      · simp [same, hit, Ne.symm hit]

theorem find_amend (table : Table Row Key key) (changed target : Key) (change : Row → Row)
    (keyed : ∀ row, key (change row) = key row) :
    (table.amend changed change keyed).find target =
      if changed = target then (table.find target).map change else table.find target := by
  apply Option.ext
  intro row
  rw [find_some, amend_rows, List.mem_map]
  by_cases hit : changed = target
  · subst hit
    rw [if_pos rfl, Option.map_eq_some_iff]
    constructor
    · rintro ⟨⟨old, member, rfl⟩, same⟩
      have keySame : key old = changed := by
        by_cases oldHit : key old = changed
        · exact oldHit
        · simp only [if_neg oldHit] at same
          exact absurd same oldHit
      exact ⟨old, (find_some table changed old).mpr ⟨member, keySame⟩, by simp [keySame]⟩
    · rintro ⟨old, found, rfl⟩
      obtain ⟨member, keySame⟩ := (find_some table changed old).mp found
      exact ⟨⟨old, member, by simp [keySame]⟩, by rw [keyed, keySame]⟩
  · rw [if_neg hit, find_some]
    constructor
    · rintro ⟨⟨old, member, rfl⟩, same⟩
      by_cases oldHit : key old = changed
      · rw [if_pos oldHit, keyed, oldHit] at same
        exact absurd same hit
      · rw [if_neg oldHit] at same ⊢
        exact ⟨member, same⟩
    · rintro ⟨member, same⟩
      exact ⟨⟨row, member, by simp [same, Ne.symm hit]⟩, same⟩

section Discards
variable (table : Table Row Key key) (gone other : Row → Bool)

omit [DecidableEq Key] in
theorem discard_comm : (table.discard gone).discard other = (table.discard other).discard gone := by
  apply ext_rows
  simp only [discard_rows, List.filter_filter]
  apply List.filter_congr
  intro row _
  exact Bool.and_comm _ _

omit [DecidableEq Key] in
theorem discard_congr (same : ∀ row ∈ table.rows, gone row = other row) : table.discard gone = table.discard other := by
  apply ext_rows
  simp only [discard_rows]
  apply List.filter_congr
  intro row member
  rw [same row member]

theorem find_discard_kept (target : Key) (kept : ∀ row, table.find target = some row → gone row = false) :
    (table.discard gone).find target = table.find target := by
  rw [find_discard]
  cases found : table.find target with
  | none => rfl
  | some row => rw [Option.filter_some, if_pos (by simp [kept row found])]

theorem amend_discard (target : Key) (change : Row → Row) (keyed : ∀ row, key (change row) = key row)
    (still : ∀ row, gone (change row) = gone row) :
    (table.discard gone).amend target change keyed = (table.amend target change keyed).discard gone := by
  apply ext_rows
  simp only [discard_rows, amend_rows, List.filter_map]
  congr 1
  apply List.filter_congr
  intro row _
  simp only [Function.comp]
  split <;> simp [still]

theorem insert_discard (row : Row) (stays : gone row = false)
    (kept : ∀ old, table.find (key row) = some old → gone old = false) :
    (table.discard gone).insert row = (table.insert row).map fun after => after.discard gone := by
  have found := find_discard_kept table gone (key row) kept
  cases inserted : table.insert row with
  | none =>
      obtain ⟨old, there⟩ := (insert_none _ _).mp inserted
      exact (insert_none _ _).mpr ⟨old, found.trans there⟩
  | some after =>
      obtain ⟨fresh, rows⟩ := (insert_some _ _ _).mp inserted
      refine (insert_some _ _ _).mpr ⟨found.trans fresh, ?_⟩
      simp only [discard_rows, rows, List.filter_append]
      simp [stays]

end Discards

def Aligned (rel : Row → Row → Prop) (first second : Table Row Key key) : Prop :=
  ∀ target, Option.Rel rel (first.find target) (second.find target)

section Aligned
variable (rel : Row → Row → Prop)

theorem aligned_refl (refl : ∀ row, rel row row) (table : Table Row Key key) : Aligned rel table table := by
  intro target
  cases table.find target with
  | none => exact .none
  | some row => exact .some (refl row)

theorem aligned_trans (trans : ∀ first middle last, rel first middle → rel middle last → rel first last)
    (first middle last : Table Row Key key) (start : Aligned rel first middle) (finish : Aligned rel middle last) :
    Aligned rel first last := by
  intro target
  have left := start target
  have right := finish target
  generalize first.find target = here at left ⊢
  generalize middle.find target = between at left right
  generalize last.find target = there at right ⊢
  cases left with
  | none =>
      cases right
      exact .none
  | some before =>
      cases right with
      | some after => exact .some (trans _ _ _ before after)

theorem aligned_amend (refl : ∀ row, rel row row) (table : Table Row Key key) (target : Key) (change : Row → Row)
    (keyed : ∀ row, key (change row) = key row) (related : ∀ row, table.find target = some row → rel row (change row)) :
    Aligned rel table (table.amend target change keyed) := by
  intro other
  rw [find_amend]
  by_cases hit : target = other
  · subst hit
    rw [if_pos rfl]
    cases found : table.find target with
    | none => exact .none
    | some row => exact .some (related row found)
  · rw [if_neg hit]
    exact aligned_refl rel refl table other

theorem aligned_some (first second : Table Row Key key) (aligned : Aligned rel first second) (target : Key) (row : Row)
    (found : first.find target = some row) : ∃ other, second.find target = some other ∧ rel row other := by
  have here := aligned target
  rw [found] at here
  cases there : second.find target with
  | none =>
      rw [there] at here
      cases here
  | some other =>
      rw [there] at here
      cases here with
      | some related => exact ⟨other, rfl, related⟩

theorem aligned_back (first second : Table Row Key key) (aligned : Aligned rel first second) (target : Key) (row : Row)
    (found : second.find target = some row) : ∃ other, first.find target = some other ∧ rel other row := by
  have here := aligned target
  rw [found] at here
  cases there : first.find target with
  | none =>
      rw [there] at here
      cases here
  | some other =>
      rw [there] at here
      cases here with
      | some related => exact ⟨other, rfl, related⟩

theorem aligned_is_some (first second : Table Row Key key) (aligned : Aligned rel first second) (target : Key) :
    (second.find target).isSome = (first.find target).isSome := by
  have here := aligned target
  generalize first.find target = left at here ⊢
  generalize second.find target = right at here ⊢
  cases here <;> rfl

end Aligned
end Table

section Join
variable {Left Right : Type} [DecidableEq Key] (lefts : List Left) (rights : List Right) (id : Left → Key)
  (owner : Right → Key) (wanted : Right → Bool)

theorem owner_count (target : Key) (ids : (lefts.map id).Nodup) (owned : target ∈ lefts.map id) :
    lefts.countP (fun left => decide (target = id left)) = 1 := by
  have once := List.count_eq_one_of_mem ids owned
  rw [List.count, List.countP_map] at once
  rw [← once]
  apply List.countP_congr
  intro left _
  simp only [Function.comp, beq_iff_eq, decide_eq_true_eq]
  exact eq_comm

theorem indicator_sum (hit : Left → Bool) : (lefts.map fun left => if hit left then 1 else 0).sum = lefts.countP hit := by
  induction lefts with
  | nil => rfl
  | cons left rest ih =>
      rw [List.map_cons, List.sum_cons, ih, List.countP_cons]
      omega

theorem join_length (ids : (lefts.map id).Nodup) (owned : ∀ right ∈ rights, owner right ∈ lefts.map id) :
    (lefts.flatMap fun left =>
      (rights.filter fun right => decide (owner right = id left) && wanted right).map fun right => (left, right)).length =
      (rights.filter wanted).length := by
  rw [List.length_flatMap]
  simp only [List.length_map, ← List.countP_eq_length_filter]
  induction rights with
  | nil => simp
  | cons right rest ih =>
      have later := ih fun other member => owned other (List.mem_cons_of_mem _ member)
      simp only [List.countP_cons, List.sum_map_add, later]
      congr 1
      cases wanted right with
      | false => simp
      | true =>
          have one := owner_count lefts id (owner right) ids (owned right (by simp))
          rw [← indicator_sum] at one
          simpa using one

end Join
end Tables
