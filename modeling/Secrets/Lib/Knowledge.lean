import Secrets.Lib.Programs

set_option autoImplicit false

namespace Programs
namespace Pool

-- Programs that take turns and keep to a protocol, whose phases are what each
-- has learned. What is known of the shared state is a ghost that only grows.
section Knowledge
variable {Tag State Call : Type} {Answer : Call → Type} {Error Value Phase Ghost : Type}
  (perform : (call : Call) → State → Answer call × State) (moves : Phase → (call : Call) → Answer call → Phase → Prop)
  (post : Tag → Except Error Value → Phase → Prop) (shared : Ghost → State → Prop) (within : Ghost → Tag → Phase → Prop)

def Knows (ghost : Ghost) (thread : Thread Tag Call Answer Error Value) : Prop :=
  ∃ phase, thread.prog.Heeds moves (post thread.tag) phase ∧ within ghost thread.tag phase

def Witnessed (pool : Pool Tag State Call Answer Error Value) : Prop :=
  ∃ ghost, shared ghost pool.shared ∧ ∀ thread ∈ pool.threads, Knows moves post within ghost thread

variable (grows : Ghost → Ghost → Prop)
  (lasts : ∀ ghost more tag phase, grows ghost more → within ghost tag phase → within more tag phase)
  (learns : ∀ ghost tag phase call state after, shared ghost state → within ghost tag phase →
    moves phase call (perform call state).1 after →
      ∃ more, grows ghost more ∧ shared more (perform call state).2 ∧ within more tag after)
include lasts learns

theorem turn_witnessed (pool : Pool Tag State Call Answer Error Value) (index : Nat) (witnessed : pool.Witnessed moves post shared within) :
    (pool.turn perform index).Witnessed moves post shared within := by
  obtain ⟨ghost, holds, knows⟩ := witnessed
  unfold turn
  split
  · rename_i tag past call next found
    obtain ⟨phase, heeds, own⟩ := knows _ (List.mem_of_getElem? found)
    obtain ⟨after, moved, rest⟩ := heeds (perform call pool.shared).1
    obtain ⟨more, grown, still, told⟩ := learns ghost tag phase call pool.shared after holds own moved
    refine ⟨more, still, ?_⟩
    intro thread member
    rcases List.mem_or_eq_of_mem_set member with before | rfl
    · obtain ⟨other, kept, knew⟩ := knows thread before
      exact ⟨other, kept, lasts ghost more thread.tag other grown knew⟩
    · exact ⟨after, rest, told⟩
  · exact ⟨ghost, holds, knows⟩

theorem turns_witnessed (schedule : List Nat) (pool : Pool Tag State Call Answer Error Value)
    (witnessed : pool.Witnessed moves post shared within) : (pool.turns perform schedule).Witnessed moves post shared within := by
  induction schedule generalizing pool with
  | nil => exact witnessed
  | cons index rest ih =>
      exact ih (pool.turn perform index) (turn_witnessed perform moves post shared within grows lasts learns pool index witnessed)

end Knowledge
end Pool
end Programs
