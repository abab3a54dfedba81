import Secrets.Addresses
import Secrets.Lib.Rules

set_option autoImplicit false

namespace Secrets

open Rules

def Alphanumeric (letter : Char) : Prop := 'a' ≤ letter ∧ letter ≤ 'z' ∨ '0' ≤ letter ∧ letter ≤ '9'

def Marked (letter : Char) : Prop := letter = '.' ∨ letter = '_' ∨ letter = '-'

instance (letter : Char) : Decidable (Alphanumeric letter) := inferInstanceAs (Decidable (_ ∨ _))

instance (letter : Char) : Decidable (Marked letter) := inferInstanceAs (Decidable (_ ∨ _))

structure FitsPattern (text : List Char) : Prop where
  starts : ∃ first ∈ text.head?, Alphanumeric first
  letters : ∀ letter ∈ text, Alphanumeric letter ∨ Marked letter
  short : byteLength text ≤ maxSegmentBytes

-- The rules of a segment in their order; which first characters are a bad start
-- is left open.
def segmentRules (start : Char → Prop) (text : List Char) : List (Rule NameError) :=
  [⟨.emptySegment, text = []⟩, ⟨.segmentTooLong, maxSegmentBytes < byteLength text⟩,
    ⟨.badStart, ∃ first ∈ text.head?, start first⟩, ⟨.badCharacter, ∃ letter ∈ text, ¬(Alphanumeric letter ∨ Marked letter)⟩]

def nameRules (start : Char → Prop) (name : String) : List (Rule NameError) :=
  ⟨.tooLong, maxNameBytes < name.utf8ByteSize⟩ :: (name.toList.splitOn '/').flatMap (segmentRules start)

def scopeRules (start : Char → Prop) (name : String) : List (Rule NameError) :=
  ⟨.tooLong, maxSegmentBytes < name.utf8ByteSize⟩ :: segmentRules start name.toList

def ofPart (part : Part) (rules : List (Rule NameError)) : List (Rule AddressError) := relabel (AddressError.mk part) rules

def addressRules (start : Char → Prop) (tenant nameSpace user name : String) : List (Rule AddressError) :=
  ⟨⟨.name, .tooLong⟩, maxNameBytes < name.utf8ByteSize⟩ ::
    (ofPart .tenant (scopeRules start tenant) ++ (ofPart .nameSpace (scopeRules start nameSpace) ++
      (ofPart .user (scopeRules start user) ++ ofPart .name (nameRules start name))))

def renameRules (start : Char → Prop) (tenant nameSpace user name newName : String) : List (Rule AddressError) :=
  ⟨⟨.name, .tooLong⟩, maxNameBytes < name.utf8ByteSize⟩ :: ⟨⟨.newName, .tooLong⟩, maxNameBytes < newName.utf8ByteSize⟩ ::
    (ofPart .tenant (scopeRules start tenant) ++ (ofPart .nameSpace (scopeRules start nameSpace) ++
      (ofPart .user (scopeRules start user) ++ (ofPart .name (nameRules start name) ++ ofPart .newName (nameRules start newName)))))

section Segments

theorem plain_alphanumeric (letter : Char) : isPlain letter = true ↔ Alphanumeric letter := by
  rw [plain_code]
  exact Iff.rfl

theorem mark_marked (letter : Char) : isMark letter = true ↔ Marked letter := by
  simp [isMark, Marked, or_assoc]

theorem plain_not_marked (letter : Char) (plain : Alphanumeric letter) : ¬Marked letter := by
  intro marked
  rcases marked with rfl | rfl | rfl
  · exact absurd plain (by decide +kernel)
  · exact absurd plain (by decide +kernel)
  · exact absurd plain (by decide +kernel)

theorem kept_segment (text : List Char) : Unbroken (segmentRules Marked text) ↔ FitsPattern text := by
  simp only [Unbroken, segmentRules, List.forall_mem_cons, List.not_mem_nil, false_implies, implies_true, and_true, not_exists, not_and,
    not_not, not_lt]
  constructor
  · intro ⟨nonempty, short, start, letters⟩
    cases text with
    | nil => exact absurd rfl nonempty
    | cons first rest =>
        have plain : Alphanumeric first := (letters first List.mem_cons_self).resolve_right (start first rfl)
        exact ⟨⟨first, rfl, plain⟩, letters, short⟩
  · intro ⟨⟨first, head, plain⟩, letters, short⟩
    refine ⟨?_, short, ?_, letters⟩
    · intro empty
      rw [empty] at head
      cases head
    · intro other same
      cases head.symm.trans same
      exact plain_not_marked first plain

theorem all_letters (rest : List Char) : (rest.all fun letter => isPlain letter || isMark letter) = true ↔
    ∀ letter ∈ rest, Alphanumeric letter ∨ Marked letter := by
  simp only [List.all_eq_true, Bool.or_eq_true, plain_alphanumeric, mark_marked]

theorem decides_letters (first : Char) (rest : List Char) (short : byteLength (first :: rest) ≤ maxSegmentBytes) :
    Decides (segmentRules Marked (first :: rest))
      (if !isPlain first then .error (if isMark first then .badStart else .badCharacter)
        else if rest.all fun letter => isPlain letter || isMark letter then .ok ()
        else .error .badCharacter : Except NameError Unit) := by
  have nonempty : first :: rest ≠ [] := List.cons_ne_nil _ _
  by_cases plain : Alphanumeric first
  · rw [(plain_alphanumeric first).mpr plain, if_neg (by decide)]
    by_cases all : (rest.all fun letter => isPlain letter || isMark letter) = true
    · rw [if_pos all]
      apply (kept_segment _).mpr
      refine ⟨⟨first, rfl, plain⟩, ?_, short⟩
      exact List.forall_mem_cons.mpr ⟨.inl plain, (all_letters rest).mp all⟩
    · rw [if_neg all]
      have foreign : ∃ letter ∈ first :: rest, ¬(Alphanumeric letter ∨ Marked letter) := by
        by_contra none
        apply all
        apply (all_letters rest).mpr
        intro letter member
        by_contra other
        exact none ⟨letter, List.mem_cons_of_mem _ member, other⟩
      refine .later _ _ _ nonempty (.later _ _ _ (Nat.not_lt.mpr short) (.later _ _ _ ?_ (.here _ _ _ foreign)))
      intro ⟨letter, head, marked⟩
      cases head
      exact plain_not_marked first plain marked
  · have refused : isPlain first = false := Bool.eq_false_iff.mpr fun found => plain ((plain_alphanumeric first).mp found)
    rw [refused, if_pos (by decide)]
    by_cases mark : Marked first
    · rw [if_pos ((mark_marked first).mpr mark)]
      exact .later _ _ _ nonempty (.later _ _ _ (Nat.not_lt.mpr short) (.here _ _ _ ⟨first, rfl, mark⟩))
    · rw [if_neg fun found => mark ((mark_marked first).mp found)]
      refine .later _ _ _ nonempty (.later _ _ _ (Nat.not_lt.mpr short) (.later _ _ _ ?_ (.here _ _ _ ?_)))
      · intro ⟨letter, head, marked⟩
        cases head
        exact mark marked
      · exact ⟨first, List.mem_cons_self, fun either => either.elim plain mark⟩

theorem decides_segment (text : List Char) : Decides (segmentRules Marked text) (segment text) := by
  cases text with
  | nil => exact .here _ _ _ rfl
  | cons first rest =>
      rw [segment]
      by_cases long : byteLength (first :: rest) > maxSegmentBytes
      · rw [if_pos long]
        exact .later _ _ _ (List.cons_ne_nil _ _) (.here _ _ _ long)
      · rw [if_neg long]
        exact decides_letters first rest (Nat.le_of_not_gt long)

end Segments

section Names

theorem secret_name_result (name : String) : SecretName.check name = (SecretName.parse name).map fun _ => () := by
  rw [SecretName.parse]
  split
  · assumption
  · assumption

theorem scope_name_result (name : String) : ScopeName.check name = (ScopeName.parse name).map fun _ => () := by
  rw [ScopeName.parse]
  split
  · assumption
  · assumption

theorem decides_length (name : String) (rules : List (Rule NameError)) (reason : NameError) (bound : Nat) (next : Except NameError Unit)
    (decides : Decides rules next) :
    Decides (⟨reason, bound < name.utf8ByteSize⟩ :: rules) (if name.utf8ByteSize > bound then .error reason else next) := by
  by_cases long : name.utf8ByteSize > bound
  · rw [if_pos long]
    exact .here _ _ _ long
  · rw [if_neg long]
    exact decides_bind [⟨reason, bound < name.utf8ByteSize⟩] rules (.ok ()) (fun _ => next) (by
      intro rule member
      cases List.mem_singleton.mp member
      exact long) fun _ _ => decides

theorem decides_secret_name (name : String) : Decides (nameRules Marked name) (SecretName.parse name) := by
  apply decides_map _ _ fun _ => ()
  rw [← secret_name_result]
  exact decides_bind [⟨.tooLong, maxNameBytes < name.utf8ByteSize⟩] _ (SecretName.checkLength name) _ (decides_if _ _) fun _ _ =>
    decides_each (segmentRules Marked) segment decides_segment _

theorem decides_scope_name (name : String) : Decides (scopeRules Marked name) (ScopeName.parse name) := by
  apply decides_map _ _ fun _ => ()
  rw [← scope_name_result]
  exact decides_length name _ .tooLong maxSegmentBytes _ (decides_segment name.toList)

theorem decides_part {Value : Type} (part : Part) (rules : List (Rule NameError)) (result : Except NameError Value)
    (decides : Decides rules result) : Decides (ofPart part rules) (inPart part result) :=
  decides_relabel (AddressError.mk part) rules result decides

theorem decides_checked (tenant nameSpace user name : String) :
    Decides (ofPart .tenant (scopeRules Marked tenant) ++ (ofPart .nameSpace (scopeRules Marked nameSpace) ++
      (ofPart .user (scopeRules Marked user) ++ ofPart .name (nameRules Marked name)))) (Address.parseChecked tenant nameSpace user name) := by
  apply decides_bind _ _ _ _ (decides_part .tenant _ _ (decides_scope_name tenant))
  intro tenant _
  apply decides_bind _ _ _ _ (decides_part .nameSpace _ _ (decides_scope_name nameSpace))
  intro nameSpace _
  apply decides_bind _ _ _ _ (decides_part .user _ _ (decides_scope_name user))
  intro user _
  exact decides_pure _ _ _ (decides_part .name _ _ (decides_secret_name name))

theorem decides_name_length (part : Part) (name : String) :
    Decides [⟨⟨part, .tooLong⟩, maxNameBytes < name.utf8ByteSize⟩] (inPart part (SecretName.checkLength name)) :=
  decides_part part [⟨.tooLong, maxNameBytes < name.utf8ByteSize⟩] _ (decides_if _ _)

theorem decides_address (tenant nameSpace user name : String) :
    Decides (addressRules Marked tenant nameSpace user name) (Address.parse tenant nameSpace user name) :=
  decides_bind _ _ _ _ (decides_name_length .name name) fun _ _ => decides_checked tenant nameSpace user name

theorem decides_rename (tenant nameSpace user name newName : String) :
    Decides (renameRules Marked tenant nameSpace user name newName) (Address.parseRename tenant nameSpace user name newName) := by
  have parts := decides_bind _ (ofPart .newName (nameRules Marked newName)) _
    (fun address : Address => inPart .newName (SecretName.parse newName) >>= fun newName => pure (address, newName))
    (decides_checked tenant nameSpace user name)
    fun address _ => decides_pure _ _ (Prod.mk address) (decides_part .newName _ _ (decides_secret_name newName))
  simp only [List.append_assoc] at parts
  apply decides_bind _ _ _ _ (decides_name_length .name name)
  intro _ _
  exact decides_bind _ _ _ _ (decides_name_length .newName newName) fun _ _ => parts

end Names

section Parts

theorem in_part_ok {Value : Type} (part : Part) (result : Except NameError Value) (value : Value) :
    inPart part result = .ok value ↔ result = .ok value := by
  cases result with
  | ok other =>
      constructor
      · intro same
        cases same
        rfl
      · intro same
        cases same
        rfl
  | error reason =>
      constructor
      · intro impossible
        cases impossible
      · intro impossible
        cases impossible

theorem check_length_ok (name : String) (done : Unit) : SecretName.checkLength name = .ok done ↔ name.utf8ByteSize ≤ maxNameBytes := by
  rw [SecretName.checkLength]
  by_cases long : name.utf8ByteSize > maxNameBytes
  · rw [if_pos long]
    constructor
    · intro impossible
      cases impossible
    · intro short
      exact absurd long (Nat.not_lt.mpr short)
  · rw [if_neg long]
    exact ⟨fun _ => Nat.le_of_not_gt long, fun _ => rfl⟩

theorem parsed_short (text : String) (name : SecretName) (parsed : SecretName.parse text = .ok name) : text.utf8ByteSize ≤ maxNameBytes := by
  rw [(secret_name_parse name text).mp parsed]
  exact (secret_name_checked name).1

theorem checked_parts (tenant nameSpace user name : String) (address : Address) :
    Address.parseChecked tenant nameSpace user name = .ok address ↔
      ScopeName.parse tenant = .ok address.scope.tenant ∧ ScopeName.parse nameSpace = .ok address.scope.nameSpace ∧
      ScopeName.parse user = .ok address.scope.user ∧ SecretName.parse name = .ok address.name := by
  simp only [Address.parseChecked, except_bind_ok, in_part_ok]
  constructor
  · intro ⟨_, first, _, second, _, third, _, fourth, made⟩
    cases made
    exact ⟨first, second, third, fourth⟩
  · intro ⟨first, second, third, fourth⟩
    exact ⟨_, first, _, second, _, third, _, fourth, rfl⟩

theorem address_parts (tenant nameSpace user name : String) (address : Address) :
    Address.parse tenant nameSpace user name = .ok address ↔
      ScopeName.parse tenant = .ok address.scope.tenant ∧ ScopeName.parse nameSpace = .ok address.scope.nameSpace ∧
      ScopeName.parse user = .ok address.scope.user ∧ SecretName.parse name = .ok address.name := by
  simp only [Address.parse, except_bind_ok, in_part_ok, check_length_ok, checked_parts]
  constructor
  · intro ⟨_, _, parts⟩
    exact parts
  · intro parts
    exact ⟨(), parsed_short name _ parts.2.2.2, parts⟩

theorem rename_parts (tenant nameSpace user name newName : String) (address : Address) (renamed : SecretName) :
    Address.parseRename tenant nameSpace user name newName = .ok (address, renamed) ↔
      Address.parse tenant nameSpace user name = .ok address ∧ SecretName.parse newName = .ok renamed := by
  simp only [Address.parseRename, address_parts, except_bind_ok, in_part_ok, check_length_ok, checked_parts]
  constructor
  · intro ⟨_, _, _, _, _, parts, _, parsed, made⟩
    cases made
    exact ⟨parts, parsed⟩
  · intro ⟨parts, parsed⟩
    exact ⟨(), parsed_short name _ parts.2.2.2, (), parsed_short newName _ parsed, _, parts, _, parsed, rfl⟩

end Parts

def IsScopeName (text : String) : Prop := FitsPattern text.toList

def IsSecretName (text : String) : Prop := text.utf8ByteSize ≤ maxNameBytes ∧ ∀ piece ∈ text.toList.splitOn '/', FitsPattern piece

-- Names and addresses are accepted by their grammar and refused by the first
-- rule they break, where `start` is what a segment must not begin with.
structure NamesParse (start : Char → Prop) : Prop where
  secretName : ∀ text, (∃ name, SecretName.parse text = .ok name) ↔ IsSecretName text
  scopeName : ∀ text, (∃ name, ScopeName.parse text = .ok name) ↔ IsScopeName text
  secretReason : ∀ text reason, SecretName.parse text = .error reason ↔ First (nameRules start text) reason
  scopeReason : ∀ text reason, ScopeName.parse text = .error reason ↔ First (scopeRules start text) reason
  address : ∀ tenant nameSpace user name (address : Address), Address.parse tenant nameSpace user name = .ok address ↔
    ScopeName.parse tenant = .ok address.scope.tenant ∧ ScopeName.parse nameSpace = .ok address.scope.nameSpace ∧
    ScopeName.parse user = .ok address.scope.user ∧ SecretName.parse name = .ok address.name
  rename : ∀ tenant nameSpace user name newName (address : Address) (renamed : SecretName),
    Address.parseRename tenant nameSpace user name newName = .ok (address, renamed) ↔
      Address.parse tenant nameSpace user name = .ok address ∧ SecretName.parse newName = .ok renamed
  addressError : ∀ tenant nameSpace user name error,
    Address.parse tenant nameSpace user name = .error error ↔ First (addressRules start tenant nameSpace user name) error
  renameError : ∀ tenant nameSpace user name newName error,
    Address.parseRename tenant nameSpace user name newName = .error error ↔
      First (renameRules start tenant nameSpace user name newName) error
  scopeText : ∀ text (name : ScopeName), ScopeName.parse text = .ok name → name.text = text
  secretText : ∀ text (name : SecretName), SecretName.parse text = .ok name → name.text = text

theorem kept_secret_name (text : String) : Unbroken (nameRules Marked text) ↔ IsSecretName text := by
  have pieces : (∀ piece ∈ text.toList.splitOn '/', Unbroken (segmentRules Marked piece)) ↔
      Unbroken ((text.toList.splitOn '/').flatMap (segmentRules Marked)) := by
    constructor
    · intro kept rule member
      obtain ⟨piece, among, inside⟩ := List.mem_flatMap.mp member
      exact kept piece among rule inside
    · intro kept piece among rule inside
      exact kept rule (List.mem_flatMap.mpr ⟨piece, among, inside⟩)
  simp only [kept_segment] at pieces
  rw [IsSecretName, pieces, Unbroken, nameRules, List.forall_mem_cons, not_lt]
  exact Iff.rfl

theorem kept_scope_name (text : String) : Unbroken (scopeRules Marked text) ↔ IsScopeName text := by
  have whole : byteLength text.toList = text.utf8ByteSize := by
    rw [byteLength, String.ofList_toList]
  rw [IsScopeName, ← kept_segment, Unbroken, scopeRules, List.forall_mem_cons, not_lt]
  constructor
  · exact And.right
  · intro kept
    refine ⟨?_, kept⟩
    rw [← whole]
    exact ((kept_segment _).mp kept).short

/-- Names and addresses are accepted by their grammar, and refused with the first rule they
break. -/
theorem names_parse : NamesParse Marked where
  secretName text := (decides_ok _ _ (decides_secret_name text)).trans (kept_secret_name text)
  scopeName text := (decides_ok _ _ (decides_scope_name text)).trans (kept_scope_name text)
  secretReason text reason := decides_error _ _ (decides_secret_name text) reason
  scopeReason text reason := decides_error _ _ (decides_scope_name text) reason
  address := address_parts
  rename := rename_parts
  addressError tenant nameSpace user name error := decides_error _ _ (decides_address tenant nameSpace user name) error
  renameError tenant nameSpace user name newName error := decides_error _ _ (decides_rename tenant nameSpace user name newName) error
  scopeText text name parsed := ((scope_name_parse name text).mp parsed).symm
  secretText text name parsed := ((secret_name_parse name text).mp parsed).symm

theorem capital_is_no_bad_start : ¬NamesParse fun letter => ¬Alphanumeric letter := by
  intro parses
  have pieces : "OpenAI".toList.splitOn '/' = [['O', 'p', 'e', 'n', 'A', 'I']] := by decide +kernel
  have documented : First (nameRules (fun letter => ¬Alphanumeric letter) "OpenAI") .badStart := by
    rw [nameRules, pieces]
    refine .later _ _ _ (by decide +kernel) (.later _ _ _ (List.cons_ne_nil _ _) (.later _ _ _ (by decide +kernel) (.here _ _ _ ?_)))
    exact ⟨'O', rfl, by decide +kernel⟩
  have told := (parses.secretReason _ _).mpr documented
  have checked : (SecretName.parse "OpenAI").map (fun _ => ()) = .error .badCharacter := by
    rw [← secret_name_result]
    decide +kernel
  rw [told] at checked
  cases checked

end Secrets
