import Mathlib.Data.List.Basic

set_option autoImplicit false

namespace Separated

section Lists
variable {Item : Type} [DecidableEq Item] (separator : Item)

-- What stands before the first separator, and what stands after it.
def splitOnce : List Item → Option (List Item × List Item)
  | [] => none
  | first :: rest =>
      if first = separator then some ([], rest)
      else (splitOnce rest).map fun parts => (first :: parts.1, parts.2)

def splitn : Nat → List Item → List (List Item)
  | 0, _ => []
  | 1, text => [text]
  | count + 2, text =>
      match splitOnce separator text with
      | none => [text]
      | some (piece, rest) => piece :: splitn (count + 1) rest

def joined : List (List Item) → List Item
  | [] => []
  | [last] => last
  | piece :: next :: rest => piece ++ separator :: joined (next :: rest)

theorem split_once_join (piece rest : List Item) (clean : separator ∉ piece) :
    splitOnce separator (piece ++ separator :: rest) = some (piece, rest) := by
  induction piece with
  | nil => simp [splitOnce]
  | cons first tail ih =>
      simp only [List.mem_cons, not_or] at clean
      rw [List.cons_append, splitOnce, if_neg (Ne.symm clean.1), ih clean.2, Option.map_some]

theorem split_once_some (text piece rest : List Item) (split : splitOnce separator text = some (piece, rest)) :
    text = piece ++ separator :: rest ∧ separator ∉ piece := by
  induction text generalizing piece with
  | nil => cases split
  | cons first tail ih =>
      rw [splitOnce] at split
      split at split
      case isTrue here =>
        cases split
        exact ⟨by rw [here, List.nil_append], List.not_mem_nil⟩
      case isFalse other =>
        obtain ⟨⟨before, after⟩, found, same⟩ := Option.map_eq_some_iff.mp split
        cases same
        obtain ⟨whole, clean⟩ := ih before found
        refine ⟨by rw [whole, List.cons_append], ?_⟩
        simp only [List.mem_cons, not_or]
        exact ⟨Ne.symm other, clean⟩

def Clean : List (List Item) → Prop
  | [] => True
  | [_] => True
  | piece :: rest => separator ∉ piece ∧ Clean rest

theorem splitn_joined (pieces : List (List Item)) (clean : Clean separator pieces) (some : pieces ≠ []) :
    splitn separator pieces.length (joined separator pieces) = pieces := by
  induction pieces with
  | nil => exact absurd rfl some
  | cons piece rest ih =>
      cases rest with
      | nil => rfl
      | cons next others =>
          change splitn separator (others.length + 2) (piece ++ separator :: joined separator (next :: others)) = _
          rw [splitn, split_once_join separator piece _ clean.1]
          have tail := ih clean.2 (List.cons_ne_nil _ _)
          rw [List.length_cons] at tail
          simp only [tail]

theorem joined_splitn (count : Nat) (text : List Item) : joined separator (splitn separator (count + 1) text) = text := by
  induction count generalizing text with
  | zero => rfl
  | succ count ih =>
      rw [splitn]
      cases split : splitOnce separator text with
      | none => rfl
      | some parts =>
          obtain ⟨piece, rest⟩ := parts
          obtain ⟨whole, _⟩ := split_once_some separator text piece rest split
          have tail := ih rest
          cases pieces : splitn separator (count + 1) rest with
          | nil =>
              cases count with
              | zero => cases pieces
              | succ count =>
                  rw [splitn] at pieces
                  split at pieces <;> cases pieces
          | cons next others =>
              rw [pieces] at tail
              change joined separator (piece :: splitn separator (count + 1) rest) = text
              rw [pieces, joined, tail, whole]

omit [DecidableEq Item] in
theorem mem_intercalate (pieces : List (List Item)) (item : Item) (member : item ∈ [separator].intercalate pieces) :
    item = separator ∨ ∃ piece ∈ pieces, item ∈ piece := by
  induction pieces with
  | nil => cases member
  | cons piece rest ih =>
      cases rest with
      | nil => exact Or.inr ⟨piece, List.mem_cons_self .., by simpa using member⟩
      | cons next others =>
          rw [List.intercalate_cons_cons] at member
          rcases List.mem_append.mp member with front | back
          · rcases List.mem_append.mp front with inside | between
            · exact Or.inr ⟨piece, List.mem_cons_self .., inside⟩
            · exact Or.inl (List.mem_singleton.mp between)
          · rcases ih back with here | ⟨other, among, inside⟩
            · exact Or.inl here
            · exact Or.inr ⟨other, List.mem_cons_of_mem _ among, inside⟩

end Lists
end Separated
