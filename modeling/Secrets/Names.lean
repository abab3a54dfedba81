import Secrets.Core
import Secrets.Lib.Separated

set_option autoImplicit false

namespace Secrets

open Separated

def maxNameBytes : Nat := 128
def maxSegmentBytes : Nat := 64

inductive NameError where
  | tooLong
  | segmentTooLong
  | emptySegment
  | badStart
  | badCharacter
deriving DecidableEq, Repr

def isMark (letter : Char) : Bool := letter == '.' || letter == '_' || letter == '-'

def isPlain (letter : Char) : Bool := letter.isLower || letter.isDigit

theorem plain_code (letter : Char) :
    isPlain letter = true ↔ (97 ≤ letter.toNat ∧ letter.toNat ≤ 122) ∨ (48 ≤ letter.toNat ∧ letter.toNat ≤ 57) := by
  have lower : letter.isLower = (decide ('a'.val ≤ letter.val) && decide (letter.val ≤ 'z'.val)) := rfl
  have digit : letter.isDigit = (decide ('0'.val ≤ letter.val) && decide (letter.val ≤ '9'.val)) := rfl
  simp only [isPlain, lower, digit, Bool.or_eq_true, Bool.and_eq_true, decide_eq_true_eq, UInt32.le_iff_toNat_le]
  exact Iff.rfl

def byteLength (text : List Char) : Nat := (String.ofList text).utf8ByteSize

def segment : List Char → Except NameError Unit
  | [] => .error .emptySegment
  | first :: rest =>
      if byteLength (first :: rest) > maxSegmentBytes then .error .segmentTooLong
      else if !isPlain first then .error (if isMark first then .badStart else .badCharacter)
      else if rest.all fun letter => isPlain letter || isMark letter then .ok ()
      else .error .badCharacter

namespace SecretName

def checkLength (name : String) : Except NameError Unit :=
  if name.utf8ByteSize > maxNameBytes then .error .tooLong else .ok ()

def check (name : String) : Except NameError Unit := do
  checkLength name
  (name.toList.splitOn '/').forM segment

end SecretName

structure SecretName where
  text : String
  parses : SecretName.check text = .ok ()
deriving DecidableEq

def SecretName.parse (name : String) : Except NameError SecretName :=
  match parses : SecretName.check name with
  | .ok () => .ok ⟨name, parses⟩
  | .error reason => .error reason

def ScopeName.check (name : String) : Except NameError Unit :=
  if name.utf8ByteSize > maxSegmentBytes then .error .tooLong else segment name.toList

structure ScopeName where
  text : String
  parses : ScopeName.check text = .ok ()
deriving DecidableEq

namespace ScopeName

def parse (name : String) : Except NameError ScopeName :=
  match parses : check name with
  | .ok () => .ok ⟨name, parses⟩
  | .error reason => .error reason

def defaultName : ScopeName := ⟨"default", by decide +kernel⟩

end ScopeName

structure Scope where
  tenant : ScopeName
  nameSpace : ScopeName
  user : ScopeName
deriving DecidableEq

structure NamespaceKey where
  tenant : ScopeName
  nameSpace : ScopeName
deriving DecidableEq

structure Address where
  scope : Scope
  name : SecretName
deriving DecidableEq

section Letters

def Named (letter : Char) : Prop := isPlain letter = true ∨ isMark letter = true

theorem named_not_slash (letter : Char) (named : Named letter) : letter ≠ '/' := by
  rintro rfl
  rcases named with plain | mark
  · exact absurd plain (by decide)
  · exact absurd mark (by decide)

theorem named_not_nul (letter : Char) (named : Named letter) : letter ≠ nul := by
  rintro rfl
  rcases named with plain | mark
  · exact absurd plain (by decide)
  · exact absurd mark (by decide)

structure Segment (text : List Char) : Prop where
  nonempty : text ≠ []
  short : byteLength text ≤ maxSegmentBytes
  named : ∀ letter ∈ text, Named letter

theorem segment_ok (text : List Char) (fine : segment text = .ok ()) : Segment text := by
  cases text with
  | nil => cases fine
  | cons first rest =>
      rw [segment] at fine
      split at fine
      · cases fine
      · rename_i short
        split at fine
        · cases fine
        · rename_i plain
          split at fine
          · rename_i all
            refine ⟨List.cons_ne_nil _ _, Nat.le_of_not_gt short, ?_⟩
            rintro letter (_ | ⟨_, member⟩)
            · exact Or.inl (by simpa using plain)
            · have allowed := List.all_eq_true.mp all letter member
              simpa [Named] using allowed
          · cases fine

end Letters

section Parsing

theorem secret_name_parse (name : SecretName) (text : String) : SecretName.parse text = .ok name ↔ text = name.text := by
  constructor
  · intro parsed
    rw [SecretName.parse] at parsed
    split at parsed <;> cases parsed
    rfl
  · rintro rfl
    rw [SecretName.parse]
    split
    · rfl
    · rename_i reason refused
      rw [name.parses] at refused
      cases refused

theorem scope_name_parse (name : ScopeName) (text : String) : ScopeName.parse text = .ok name ↔ text = name.text := by
  constructor
  · intro parsed
    rw [ScopeName.parse] at parsed
    split at parsed <;> cases parsed
    rfl
  · rintro rfl
    rw [ScopeName.parse]
    split
    · rfl
    · rename_i reason refused
      rw [name.parses] at refused
      cases refused

theorem scope_name_injective (first second : ScopeName) (same : first.text = second.text) : first = second := by
  obtain ⟨_, _⟩ := first
  obtain ⟨_, _⟩ := second
  cases same
  rfl

theorem secret_name_injective (first second : SecretName) (same : first.text = second.text) : first = second := by
  obtain ⟨_, _⟩ := first
  obtain ⟨_, _⟩ := second
  cases same
  rfl

theorem scope_name_segment (name : ScopeName) : Segment name.text.toList := by
  have fine := name.parses
  rw [ScopeName.check] at fine
  split at fine
  · cases fine
  · exact segment_ok _ fine

theorem scope_name_no_slash (name : ScopeName) : '/' ∉ name.text.toList := fun member =>
  named_not_slash '/' ((scope_name_segment name).named _ member) rfl

theorem for_each_segment (pieces : List (List Char)) (fine : pieces.forM segment = .ok ()) :
    ∀ piece ∈ pieces, Segment piece := by
  induction pieces with
  | nil => intro piece member; cases member
  | cons first rest ih =>
      change (segment first >>= fun _ => rest.forM segment) = .ok () at fine
      cases checked : segment first with
      | error reason =>
          rw [checked] at fine
          cases fine
      | ok done =>
          rw [checked] at fine
          rintro piece (_ | ⟨_, member⟩)
          · exact segment_ok first checked
          · exact ih fine piece member

theorem secret_name_checked (name : SecretName) :
    name.text.utf8ByteSize ≤ maxNameBytes ∧ ∀ piece ∈ name.text.toList.splitOn '/', Segment piece := by
  have fine := name.parses
  rw [SecretName.check, SecretName.checkLength] at fine
  split at fine
  · cases fine
  · rename_i short
    exact ⟨Nat.le_of_not_gt short, for_each_segment _ fine⟩

theorem secret_name_letters (name : SecretName) (letter : Char) (member : letter ∈ name.text.toList) :
    Named letter ∨ letter = '/' := by
  by_cases slash : letter = '/'
  · exact Or.inr slash
  left
  rw [show name.text.toList = ['/'].intercalate (name.text.toList.splitOn '/') from (List.intercalate_splitOn '/').symm] at member
  rcases mem_intercalate _ _ _ member with between | ⟨piece, among, inside⟩
  · exact absurd between slash
  · exact ((secret_name_checked name).2 piece among).named letter inside

end Parsing
end Secrets
