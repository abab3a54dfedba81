import Secrets.Keychain

set_option autoImplicit false

namespace Secrets

open Std Programs Storage
open Framing (Bytes)

namespace Keychain

def Call.failed : (call : Call) → Option call.Answer
  | .build _ | .getSecret _ | .setSecret _ _ | .deleteCredential _ | .search _ => some (.error .other)
  | .nowV7 => none

structure Trial where
  ring : Ring
  made : Nat
  failed : Nat

section Faults
variable (search : Search) (version : Uuid) (fails : Nat → Bool)

def faulty (call : Call) (trial : Trial) : call.Answer × Trial :=
  match if fails trial.made then call.failed else none with
  | some refusal => (refusal, ⟨trial.ring, trial.made + 1, trial.failed + 1⟩)
  | none =>
      let (given, ring) := answer search version call trial.ring
      (given, ⟨ring, trial.made + 1, trial.failed⟩)

theorem faulty_cases (call : Call) (trial : Trial) :
    (∃ refusal, call.failed = some refusal ∧
      faulty search version fails call trial = (refusal, ⟨trial.ring, trial.made + 1, trial.failed + 1⟩)) ∨
    faulty search version fails call trial =
      ((answer search version call trial.ring).1, ⟨(answer search version call trial.ring).2, trial.made + 1, trial.failed⟩) := by
  unfold faulty
  by_cases strikes : fails trial.made = true
  · rw [if_pos strikes]
    cases refused : call.failed with
    | none => exact .inr rfl
    | some refusal => exact .inl ⟨refusal, rfl, rfl⟩
  · rw [if_neg strikes]
    exact .inr rfl

end Faults

-- How a move may end: `ring` is the store before it, `failed` the failures
-- before it. An error leaves the source alone and what the destination held;
-- one failure leaves no trace.
structure Moves (ring : Ring) (failed : Nat) (source destination : Entry) (ended : Except StorageError Unit × Trial) : Prop where
  refused : ∀ error, ended.1 = .error error → ended.2.ring[source]? = ring[source]? ∧
    ∀ blob, ring[destination]? = some blob → ended.2.ring[destination]? = some blob
  single : ∀ error, ended.1 = .error error → ended.2.failed ≤ failed + 1 → ended.2.ring = ring
  done : ended.1 = .ok () → ∃ blob, ring[source]? = some blob ∧ ended.2.ring[destination]? = some blob ∧ ended.2.ring[source]? = none
  elsewhere : ∀ other, other ≠ source → other ≠ destination → ended.2.ring[other]? = ring[other]?

section Stages
variable (search : Search) (version : Uuid) (fails : Nat → Bool) (ring : Ring) (source destination : Entry)

theorem moves_unchanged (error : StorageError) (made failed before : Nat) :
    Moves ring before source destination (.error error, ⟨ring, made, failed⟩) where
  refused _ _ := ⟨rfl, fun _ held => held⟩
  single _ _ _ := rfl
  done same := nomatch same
  elsewhere _ _ _ := rfl

theorem copy_undone (blob : Bytes) (free : ring[destination]? = none) : (ring.insert destination blob).erase destination = ring := by
  apply ExtTreeMap.ext_getElem?
  intro other
  rw [ExtTreeMap.getElem?_erase, ExtTreeMap.getElem?_insert]
  by_cases here : compare destination other = .eq
  · rw [if_pos here, ← LawfulEqOrd.eq_of_compare here, free]
  · rw [if_neg here, if_neg here]

theorem copy_elsewhere (blob : Bytes) (other : Entry) (apart : other ≠ destination) : (ring.insert destination blob)[other]? = ring[other]? := by
  rw [ExtTreeMap.getElem?_insert, if_neg (fun same => apart (LawfulEqOrd.eq_of_compare same).symm)]

theorem erase_elsewhere (other : Entry) (apart : other ≠ source) : (ring.erase source)[other]? = ring[other]? := by
  rw [ExtTreeMap.getElem?_erase, if_neg (fun same => apart (LawfulEqOrd.eq_of_compare same).symm)]

section Copied
variable (blob : Bytes) (held : ring[source]? = some blob) (free : ring[destination]? = none) (made failed : Nat)
include held free

theorem places_apart : source ≠ destination := by
  rintro rfl
  cases held.symm.trans free

theorem copied_unfinished (error : StorageError) (after : Nat) (twice : failed + 1 < after) :
    Moves ring failed source destination (.error error, ⟨ring.insert destination blob, made, after⟩) where
  refused _ _ := by
    rw [copy_elsewhere ring destination blob source (places_apart ring source destination blob held free)]
    exact ⟨rfl, fun other kept => absurd (free.symm.trans kept) (by simp)⟩
  single _ _ few := absurd few (Nat.not_le_of_gt twice)
  done same := nomatch same
  elsewhere other _ apart := copy_elsewhere ring destination blob other apart

theorem copied_done (after : Nat) :
    Moves ring failed source destination (.ok (), ⟨(ring.insert destination blob).erase source, made, after⟩) where
  refused _ same := nomatch same
  single _ same := nomatch same
  done _ := by
    have apart := places_apart ring source destination blob held free
    refine ⟨blob, held, ?_, ExtTreeMap.getElem?_erase_self⟩
    rw [erase_elsewhere _ source destination apart.symm, ExtTreeMap.getElem?_insert_self]
  elsewhere other first second := by
    rw [erase_elsewhere _ source other first, copy_elsewhere ring destination blob other second]

theorem moved_moves : Moves ring failed source destination
    (run (faulty search version fails) (moved source destination) ⟨ring.insert destination blob, made, failed⟩) := by
  have apart := places_apart ring source destination blob held free
  rw [moved, run_ask]
  rcases faulty_cases search version fails (.deleteCredential source) ⟨ring.insert destination blob, made, failed⟩ with
    ⟨refusal, told, struck⟩ | sound
  · cases told
    rw [struck]
    dsimp only
    rw [run_ask]
    rcases faulty_cases search version fails (.deleteCredential destination) ⟨ring.insert destination blob, made + 1, failed + 1⟩ with
      ⟨refusal, told, again⟩ | undone
    · rw [again]
      exact copied_unfinished ring source destination blob held free _ failed _ _ (Nat.lt_succ_self _)
    · have there : (ring.insert destination blob).contains destination = true := ExtTreeMap.contains_insert_self
      rw [undone, answer, if_pos there]
      dsimp only
      rw [copy_undone ring destination blob free]
      exact moves_unchanged ring source destination _ _ _ _
  · have there : (ring.insert destination blob).contains source = true := by
      rw [ExtTreeMap.contains_eq_isSome_getElem?, copy_elsewhere ring destination blob source apart, held]
      rfl
    rw [sound, answer, if_pos there]
    exact copied_done ring source destination blob held free _ failed _

end Copied
theorem asked_moves {Value : Type} (call : Call) (view : call.Answer → Except KeyringError Value) (next : Value → Operation Unit)
    (made failed : Nat) (refuses : ∀ refusal, call.failed = some refusal → view refusal = .error .other)
    (quiet : ∀ error, view (answer search version call ring).1 = .error error → (answer search version call ring).2 = ring)
    (later : ∀ value, view (answer search version call ring).1 = .ok value →
      Moves ring failed source destination (run (faulty search version fails) (next value) ⟨(answer search version call ring).2, made + 1, failed⟩)) :
    Moves ring failed source destination (run (faulty search version fails) (asked call view >>= next) ⟨ring, made, failed⟩) := by
  rw [asked, Prog.ask_bind, run_ask]
  rcases faulty_cases search version fails call ⟨ring, made, failed⟩ with ⟨refusal, told, struck⟩ | sound
  · rw [struck, refuses refusal told]
    exact moves_unchanged ring source destination _ _ _ _
  · rw [sound]
    cases seen : view (answer search version call ring).1 with
    | error error =>
        dsimp only
        rw [quiet error seen]
        exact moves_unchanged ring source destination _ _ _ _
    | ok value =>
        exact later value seen

theorem entry_moves (service : String) (address : Address) (next : Entry → Operation Unit) (made failed : Nat)
    (later : Moves ring failed source destination (run (faulty search version fails) (next (place service address)) ⟨ring, made + 1, failed⟩)) :
    Moves ring failed source destination (run (faulty search version fails) (entry service address >>= next) ⟨ring, made, failed⟩) := by
  rw [entry, Prog.bind_assoc]
  apply asked_moves
  · intro refusal told
    cases told
    rfl
  · intro error refused
    cases refused
  · intro value given
    exact later

theorem stored_moves (next : Option Bytes → Operation Unit) (made failed : Nat)
    (taken : ∀ blob, ring[destination]? = some blob → next (some blob) = .stop .conflict)
    (later : ring[destination]? = none →
      Moves ring failed source destination (run (faulty search version fails) (next none) ⟨ring, made + 1, failed⟩)) :
    Moves ring failed source destination (run (faulty search version fails) (stored destination >>= next) ⟨ring, made, failed⟩) := by
  rw [stored, Prog.ask_bind, run_ask]
  rcases faulty_cases search version fails (.getSecret destination) ⟨ring, made, failed⟩ with ⟨refusal, told, struck⟩ | sound
  · cases told
    rw [struck]
    exact moves_unchanged ring source destination _ _ _ _
  · rw [sound]
    cases held : ring[destination]? with
    | some blob =>
        rw [answer, held]
        dsimp only
        rw [Option.elim_some, Prog.done_bind, taken blob held]
        exact moves_unchanged ring source destination _ _ _ _
    | none =>
        rw [answer, held]
        exact later held

end Stages

section Rename
variable (search : Search) (version : Uuid) (fails : Nat → Bool) (service : String) (ring : Ring) (target : Target) (newName : SecretName)

/-- A rename whose calls may fail moves the entry, or leaves the source as it was and
anything the new name held; a single failure leaves the whole store alone. -/
theorem rename_moves :
    Moves ring 0 (place service target.address) (place service (target.address.renamed newName))
      (run (faulty search version fails) (rename service target newName) ⟨ring, 0, 0⟩) := by
  rw [rename]
  apply entry_moves
  apply asked_moves
  · intro refusal told
    cases told
    rfl
  · intro error refused
    rfl
  intro blob given
  have held : ring[place service target.address]? = some blob := by
    rw [answer] at given
    cases found : ring[place service target.address]? with
    | none =>
        rw [found] at given
        cases given
    | some there =>
        rw [found] at given
        cases given
        rfl
  apply entry_moves
  apply stored_moves
  · intro other taken
    rfl
  intro free
  rw [Option.isNone_none, Prog.ensure, if_pos rfl, Prog.done_bind]
  apply asked_moves
  · intro refusal told
    cases told
    rfl
  · intro error refused
    cases refused
  intro _ _
  exact moved_moves search version fails ring _ _ blob held free _ _

end Rename
end Keychain
end Secrets
