import Secrets.KeychainEntries
import Secrets.KeychainRename
import Secrets.Lib.Twins

set_option autoImplicit false

namespace Secrets

open Std Programs Storage Twins
open Framing (Bytes)

abbrev ValueLikeness : Type := SecretValue → SecretValue → Prop

structure Revealed.Like (like : ValueLikeness) (left right : Revealed) : Prop where
  version : left.version = right.version
  value : like left.value right.value

-- Commands of two worlds at one point, and how alike their answers are.
inductive Storage.Command.Pairs (like : ValueLikeness) : (left right : Command) → (left.Answer → right.Answer → Prop) → Prop where
  | read (target : Target) : Pairs like (.read target) (.read target) (Revealed.Like like)
  | write (target : Target) (value other : SecretValue) (both : like value other) : Pairs like (.write target value) (.write target other) Eq
  | delete (target : Target) : Pairs like (.delete target) (.delete target) Eq
  | rename (target : Target) (newName : SecretName) : Pairs like (.rename target newName) (.rename target newName) Eq
  | list (scope : Scope) : Pairs like (.list scope) (.list scope) Eq

namespace Keychain

structure SameBlob (like : ValueLikeness) (left right : Bytes) : Prop where
  version : (openBlob left).map Prod.fst = (openBlob right).map Prod.fst
  value : Ends (Revealed.Like like) (revealedOf left) (revealedOf right)

inductive Call.Pairs (like : ValueLikeness) : Pairing Call Call.Answer where
  | build (entry : Entry) : Pairs like (.build entry) (.build entry) Eq
  | getSecret (entry : Entry) : Pairs like (.getSecret entry) (.getSecret entry) (Ends (SameBlob like))
  | setSecret (entry : Entry) (left right : Bytes) (same : SameBlob like left right) :
      Pairs like (.setSecret entry left) (.setSecret entry right) Eq
  | deleteCredential (entry : Entry) : Pairs like (.deleteCredential entry) (.deleteCredential entry) Eq
  | search (service : String) : Pairs like (.search service) (.search service) Eq
  | nowV7 : Pairs like .nowV7 .nowV7 Eq

def Call.Plain : Call → Prop
  | .getSecret _ | .setSecret _ _ => False
  | _ => True

section Operations
variable (like : ValueLikeness) (service : String)

theorem plain_pairs (call : Call) (plain : call.Plain) : Call.Pairs like call call Eq := by
  cases call with
  | build entry => exact .build entry
  | getSecret entry => exact plain.elim
  | setSecret entry blob => exact plain.elim
  | deleteCredential entry => exact .deleteCredential entry
  | search service => exact .search service
  | nowV7 => exact .nowV7

theorem asked_plain {Value : Type} (call : Call) (answer : call.Answer → Except KeyringError Value) (plain : call.Plain) :
    (asked call answer).Asks Call.Plain :=
  ⟨plain, fun _ => Prog.asks_lift _ _⟩

theorem entry_plain (address : Address) : (entry service address).Asks Call.Plain :=
  Prog.asks_bind _ _ _ (asked_plain _ _ trivial) fun _ => trivial

theorem moved_plain (source destination : Entry) : (moved source destination).Asks Call.Plain := by
  refine ⟨trivial, ?_⟩
  intro given
  cases given with
  | ok value => trivial
  | error error => exact ⟨trivial, fun _ => trivial⟩

theorem get_together {Value : Type} (alike : Value → Value → Prop) (entry : Entry) (next later : Bytes → Operation Value)
    (rest : ∀ left right, SameBlob like left right → Together (Call.Pairs like) alike (next left) (later right)) :
    Together (Call.Pairs like) alike (asked (.getSecret entry) id >>= next) (asked (.getSecret entry) id >>= later) := by
  apply Together.ask _ _ _ (.getSecret entry)
  intro given other same
  rcases ends_cases _ given other same with ⟨error, rfl, rfl⟩ | ⟨left, right, rfl, rfl, blobs⟩
  · exact .stop (failure error)
  · exact rest left right blobs

theorem stored_together (entry : Entry) : Together (Call.Pairs like) (Option.Rel (SameBlob like)) (stored entry) (stored entry) := by
  apply Together.ask _ _ _ (.getSecret entry)
  intro given other same
  rcases ends_cases _ given other same with ⟨error, rfl, rfl⟩ | ⟨left, right, rfl, rfl, blobs⟩
  · cases error with
    | noEntry => exact .done none none .none
    | other => exact .stop StorageError.unavailable
  · exact .done (some left) (some right) (.some blobs)

theorem set_together {Value : Type} (alike : Value → Value → Prop) (entry : Entry) (left right : Bytes) (same : SameBlob like left right)
    (next later : Unit → Operation Value) (rest : Together (Call.Pairs like) alike (next ()) (later ())) :
    Together (Call.Pairs like) alike (asked (.setSecret entry left) id >>= next) (asked (.setSecret entry right) id >>= later) := by
  apply Together.ask _ _ _ (.setSecret entry left right same)
  intro given other equal
  subst equal
  cases given with
  | error error => exact .stop (failure error)
  | ok value => exact rest

theorem read_together (target : Target) : Together (Call.Pairs like) (Revealed.Like like) (read service target) (read service target) := by
  apply together_after _ Call.Plain (plain_pairs like) _ _ (entry_plain service target.address)
  intro entry
  apply get_together
  intro left right blobs
  have first := opened_blob left
  have second := opened_blob right
  refine Eq.subst (motive := fun prog => Together _ _ prog _) first.symm ?_
  refine Eq.subst (motive := fun prog => Together _ _ _ prog) second.symm ?_
  exact together_lift _ _ _ _ blobs.value

theorem sealed_same (version : Uuid) (value other : SecretValue) (both : like value other) :
    SameBlob like (blobOf version value.bytes) (blobOf version other.bytes) := by
  constructor
  · rw [open_blob, open_blob]
    rfl
  · rw [revealed_blob, revealed_blob, (secret_value_new value _).mpr rfl, (secret_value_new other _).mpr rfl]
    exact ⟨rfl, both⟩

theorem write_together (target : Target) (value other : SecretValue) (both : like value other) :
    Together (Call.Pairs like) Eq (write service target value) (write service target other) := by
  apply together_after _ Call.Plain (plain_pairs like) _ _ (entry_plain service target.address)
  intro entry
  apply together_bind _ _ _ _ _ _ _ (stored_together like entry)
  intro left right held
  apply Together.ask _ _ _ .nowV7
  intro version drawn same
  subst same
  have wrote := set_together like Eq entry _ _ (sealed_same like version value other both)
    (fun _ => pure (outcome left.isSome (versionOf version))) (fun _ => pure (outcome right.isSome (versionOf version)))
  apply wrote
  cases held with
  | none => exact .done _ _ rfl
  | some _ => exact .done _ _ rfl

theorem delete_together (target : Target) : Together (Call.Pairs like) Eq (delete service target) (delete service target) :=
  together_same _ Call.Plain (plain_pairs like) _
    (Prog.asks_bind _ _ _ (entry_plain service target.address) fun _ => asked_plain _ _ trivial)

theorem rename_together (target : Target) (newName : SecretName) :
    Together (Call.Pairs like) Eq (rename service target newName) (rename service target newName) := by
  apply together_after _ Call.Plain (plain_pairs like) _ _ (entry_plain service target.address)
  intro source
  apply get_together
  intro left right blobs
  apply together_after _ Call.Plain (plain_pairs like) _ _ (entry_plain service _)
  intro destination
  apply together_bind _ _ _ _ _ _ _ (stored_together like destination)
  intro first second held
  cases held with
  | some _ => exact .stop StorageError.conflict
  | none =>
      apply set_together like _ destination _ _ blobs
      exact together_same _ Call.Plain (plain_pairs like) _ (moved_plain source destination)

theorem row_same (address : Address) (first second : Option Bytes) (held : Option.Rel (SameBlob like) first second) :
    rowOf address first = rowOf address second := by
  cases held with
  | none => rfl
  | some blobs =>
      rename_i left right
      have versions := blobs.version
      rw [rowOf, rowOf]
      cases here : openBlob left with
      | error error =>
          rw [here] at versions
          cases there : openBlob right with
          | error other =>
              rw [there] at versions
              exact congrArg Except.error (Except.error.inj versions)
          | ok opened =>
              rw [there] at versions
              cases versions
      | ok opened =>
          rw [here] at versions
          cases there : openBlob right with
          | error other =>
              rw [there] at versions
              cases versions
          | ok other =>
              rw [there] at versions
              exact congrArg (fun version => Except.ok (some (⟨address, some version⟩ : Storage.SecretMetadata))) (Except.ok.inj versions)

theorem rows_together (scope : Scope) (found : List (Option Entry)) :
    Together (Call.Pairs like) Eq (rowsOf service scope found) (rowsOf service scope found) := by
  induction found with
  | nil => exact .done [] [] rfl
  | cons first rest ih =>
      rw [rowsOf]
      cases listable service scope first with
      | none => exact ih
      | some looked =>
          obtain ⟨entry, address⟩ := looked
          apply together_bind _ _ _ _ _ _ _ (stored_together like entry)
          intro left right held
          rw [row_same like address left right held]
          apply together_after _ Call.Plain (plain_pairs like) _ _ (Prog.asks_lift _ _)
          intro row
          apply together_bind _ _ _ _ _ _ _ ih
          intro rows others same
          subst same
          exact .done _ _ rfl

theorem list_together (scope : Scope) : Together (Call.Pairs like) Eq (list service scope) (list service scope) := by
  apply together_after _ Call.Plain (plain_pairs like) _ _ (asked_plain (.search service) id trivial)
  intro found
  apply together_bind _ _ _ _ _ _ _ (rows_together like service scope found)
  intro rows others same
  subst same
  exact .done _ _ rfl

theorem perform_together (command twin : Command) (alike : command.Answer → twin.Answer → Prop)
    (paired : Command.Pairs like command twin alike) : Together (Call.Pairs like) alike (perform service command) (perform service twin) := by
  cases paired with
  | read target => exact read_together like service target
  | write target value other both => exact write_together like service target value other both
  | delete target => exact delete_together like service target
  | rename target newName => exact rename_together like service target newName
  | list scope => exact list_together like service scope

end Operations

def SameRing (like : ValueLikeness) (left right : Ring) : Prop := ∀ entry : Entry, Option.Rel (SameBlob like) left[entry]? right[entry]?

structure SameTrial (like : ValueLikeness) (left right : Trial) : Prop where
  ring : SameRing like left.ring right.ring
  made : left.made = right.made

def Blind (search : Search) : Prop :=
  ∀ left right : Ring, (∀ entry : Entry, left.contains entry = right.contains entry) → search left = search right

section Rings
variable (like : ValueLikeness) (search : Search) (blind : Blind search) (version : Uuid) (left right : Ring) (same : SameRing like left right)
include same

theorem same_contains (entry : Entry) : left.contains entry = right.contains entry := by
  rw [ExtTreeMap.contains_eq_isSome_getElem?, ExtTreeMap.contains_eq_isSome_getElem?]
  rcases rel_cases _ _ _ (same entry) with ⟨absent, missing⟩ | ⟨blob, other, here, there, _⟩
  · rw [absent, missing]
  · rw [here, there]
    rfl

theorem same_insert (entry : Entry) (blob other : Bytes) (blobs : SameBlob like blob other) :
    SameRing like (left.insert entry blob) (right.insert entry other) := by
  intro place
  rw [ExtTreeMap.getElem?_insert, ExtTreeMap.getElem?_insert]
  by_cases here : compare entry place = .eq
  · rw [if_pos here, if_pos here]
    exact .some blobs
  · rw [if_neg here, if_neg here]
    exact same place

theorem same_erase (entry : Entry) : SameRing like (left.erase entry) (right.erase entry) := by
  intro place
  rw [ExtTreeMap.getElem?_erase, ExtTreeMap.getElem?_erase]
  by_cases here : compare entry place = .eq
  · rw [if_pos here, if_pos here]
    exact .none
  · rw [if_neg here, if_neg here]
    exact same place

include blind

theorem answer_same (call twin : Call) (answers : call.Answer → twin.Answer → Prop) (paired : Call.Pairs like call twin answers) :
    answers (answer search version call left).1 (answer search version twin right).1 ∧
      SameRing like (answer search version call left).2 (answer search version twin right).2 := by
  cases paired with
  | build entry => exact ⟨rfl, same⟩
  | nowV7 => exact ⟨rfl, same⟩
  | search service => exact ⟨congrArg Except.ok (congrFun (blind left right (same_contains like left right same)) service), same⟩
  | setSecret entry blob other blobs => exact ⟨rfl, same_insert like left right same entry blob other blobs⟩
  | getSecret entry =>
      refine ⟨?_, same⟩
      rw [answer, answer]
      rcases rel_cases _ _ _ (same entry) with ⟨absent, missing⟩ | ⟨blob, other, here, there, blobs⟩
      · rw [absent, missing]
        exact rfl
      · rw [here, there]
        exact blobs
  | deleteCredential entry =>
      rw [answer, answer, same_contains like left right same]
      by_cases held : right.contains entry = true
      · rw [if_pos held, if_pos held]
        exact ⟨rfl, same_erase like left right same entry⟩
      · rw [if_neg held, if_neg held]
        exact ⟨rfl, same⟩

end Rings

section Trials
variable (like : ValueLikeness) (search : Search) (blind : Blind search) (version : Uuid) (fails : Nat → Bool) (service : String)
include blind

theorem faulty_same (call twin : Call) (answers : call.Answer → twin.Answer → Prop) (paired : Call.Pairs like call twin answers)
    (left right : Trial) (same : SameTrial like left right) :
    answers (faulty search version fails call left).1 (faulty search version fails twin right).1 ∧
      SameTrial like (faulty search version fails call left).2 (faulty search version fails twin right).2 := by
  obtain ⟨answered, rings⟩ := answer_same like search blind version left.ring right.ring same.ring call twin answers paired
  unfold faulty
  rw [same.made]
  by_cases strikes : fails right.made = true
  · rw [if_pos strikes, if_pos strikes]
    cases paired with
    | nowV7 => exact ⟨answered, rings, rfl⟩
    | getSecret entry => exact ⟨rfl, same.ring, rfl⟩
    | build entry => exact ⟨rfl, same.ring, rfl⟩
    | setSecret entry _ _ _ => exact ⟨rfl, same.ring, rfl⟩
    | deleteCredential entry => exact ⟨rfl, same.ring, rfl⟩
    | search service => exact ⟨rfl, same.ring, rfl⟩
  · rw [if_neg strikes, if_neg strikes]
    exact ⟨answered, rings, rfl⟩

theorem operation_silent (command twin : Command) (alike : command.Answer → twin.Answer → Prop)
    (paired : Command.Pairs like command twin alike) (left right : Trial) (same : SameTrial like left right) :
    Ends alike (run (faulty search version fails) (perform service command) left).1
        (run (faulty search version fails) (perform service twin) right).1 ∧
      SameTrial like (run (faulty search version fails) (perform service command) left).2
        (run (faulty search version fails) (perform service twin) right).2 :=
  together_run _ _ (Call.Pairs like) (SameTrial like) (faulty_same like search blind version fails) alike _ _
    (perform_together like service command twin alike paired) left right same

end Trials
end Keychain
end Secrets
