import Mathlib.Logic.Function.Basic

set_option autoImplicit false

namespace Shards

variable {Place Key Value : Type}

-- A key is held at its home only.
def Housed (home : Key → Option Place) (shards : Place → Key → Option Value) : Prop :=
  ∀ place key value, shards place key = some value → home key = some place

def union (home : Key → Option Place) (shards : Place → Key → Option Value) (key : Key) : Option Value :=
  (home key).bind fun place => shards place key

section Homes
variable (home other : Key → Option Place) (shards : Place → Key → Option Value) (housed : Housed home shards)

theorem housed_empty (empty : ∀ place key, shards place key = none) : Housed home shards := by
  intro place key value found
  rw [empty] at found
  cases found

theorem union_home (key : Key) (place : Place) (lives : home key = some place) : union home shards key = shards place key := by
  rw [union, lives, Option.bind_some]

theorem union_homeless (key : Key) (lives : home key = none) : union home shards key = none := by
  rw [union, lives, Option.bind_none]

include housed

theorem housed_elsewhere (place : Place) (key : Key) (away : home key ≠ some place) : shards place key = none := by
  cases found : shards place key with
  | none => rfl
  | some value => exact absurd (housed place key value found) away

theorem union_some (key : Key) (value : Value) : union home shards key = some value ↔ ∃ place, shards place key = some value := by
  constructor
  · intro found
    obtain ⟨place, _, here⟩ := Option.bind_eq_some_iff.mp found
    exact ⟨place, here⟩
  · intro ⟨place, here⟩
    exact Option.bind_eq_some_iff.mpr ⟨place, housed place key value here, here⟩

section Moves
variable (moved : ∀ key, other key ≠ home key → ∀ place, shards place key = none)
include moved

theorem housed_moved : Housed other shards := by
  intro place key value found
  by_cases same : other key = home key
  · rw [same]
    exact housed place key value found
  · rw [moved key same place] at found
    cases found

theorem union_moved : union other shards = union home shards := by
  funext key
  apply Option.ext
  intro value
  have before := union_some home shards housed key value
  have after := union_some other shards (housed_moved home other shards housed moved) key value
  exact after.trans before.symm

end Moves

section Updates
variable [DecidableEq Place] (place : Place) (shard : Key → Option Value)

theorem housed_update (added : ∀ key value, shard key = some value → shards place key = none → home key = some place) :
    Housed home (Function.update shards place shard) := by
  intro there key value found
  by_cases here : there = place
  · subst here
    rw [Function.update_self] at found
    cases before : shards there key with
    | none => exact added key value found before
    | some old => exact housed there key old before
  · rw [Function.update_of_ne here] at found
    exact housed there key value found

omit housed in
theorem union_update (key : Key) :
    union home (Function.update shards place shard) key = if home key = some place then shard key else union home shards key := by
  by_cases lives : home key = some place
  · rw [if_pos lives, union_home home _ key place lives, Function.update_self]
  · rw [if_neg lives]
    cases away : home key with
    | none => rw [union_homeless home _ key away, union_homeless home _ key away]
    | some there =>
        have apart : there ≠ place := fun same => lives (away.trans (congrArg some same))
        rw [union_home home _ key there away, union_home home _ key there away, Function.update_of_ne apart]

end Updates
end Homes
end Shards
