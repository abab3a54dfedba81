import Secrets.Remote

set_option autoImplicit false

namespace Secrets

open Codecs
open Framing (Bytes)

theorem text_bytes_flat (text : String) : textBytes text = text.toList.flatMap String.utf8EncodeChar := by
  obtain ⟨letters, rfl⟩ := text.exists_eq_ofList
  rw [textBytes, String.toByteArray_ofList, String.toList_ofList, List.utf8Encode]
  simp

theorem text_bytes_length (text : String) : (textBytes text).length = text.utf8ByteSize := by
  rw [textBytes, Array.length_toList]
  rfl

def PlainText (text : String) : Prop := Plain (textBytes text)

theorem code_plain : ∀ code < 123, Named (Char.ofNat code) ∨ Char.ofNat code = '/' →
    ∀ byte ∈ String.utf8EncodeChar (Char.ofNat code), escapeByte byte = [byte] := by
  unfold Named
  decide +kernel

theorem letter_plain (letter : Char) (allowed : Named letter ∨ letter = '/') : Plain (String.utf8EncodeChar letter) := by
  have small : letter.toNat < 123 := by
    rcases allowed with (plain | mark) | rfl
    · have code := (plain_code letter).mp plain
      omega
    · simp only [isMark, Bool.or_eq_true, beq_iff_eq] at mark
      rcases mark with (rfl | rfl) | rfl <;> decide
    · decide
  have known := code_plain letter.toNat small
  rw [Char.ofNat_toNat] at known
  exact known allowed

theorem plain_text (text : String) (allowed : ∀ letter ∈ text.toList, Named letter ∨ letter = '/') : PlainText text := by
  rw [PlainText, text_bytes_flat]
  intro byte member
  obtain ⟨letter, inside, encoded⟩ := List.mem_flatMap.mp member
  exact letter_plain letter (allowed letter inside) byte encoded

theorem scope_name_plain (name : ScopeName) : PlainText name.text :=
  plain_text _ fun letter member => .inl ((scope_name_segment name).named letter member)

theorem key_plain (address : Address) : PlainText (Remote.reference address).key := by
  refine plain_text _ fun letter member => ?_
  simp only [Remote.reference, String.toList_append, List.mem_append] at member
  rcases member with (user | slash) | name
  · exact .inl ((scope_name_segment address.scope.user).named letter user)
  · right
    simpa using slash
  · exact secret_name_letters address.name letter name

theorem base64_plain (value : Bytes) : Plain (Base64.encode value) := by
  intro byte member
  rcases Base64.encode_digits value byte member with rfl | ⟨digit, small, rfl⟩
  · decide
  · interval_cases digit <;> decide

theorem print_text_length (text : String) (plain : PlainText text) : (textCodec.print text).length = text.utf8ByteSize + 2 := by
  change (34 :: printQuoted (textBytes text)).length = _
  rw [print_quoted_plain _ plain]
  simp [text_bytes_length]

theorem print_value_length (value : Bytes) : (valueCodec.print value).length = 4 * ((value.length + 2) / 3) + 2 := by
  change (34 :: printQuoted (Base64.encode value)).length = _
  rw [print_quoted_plain _ (base64_plain value)]
  simp [Base64.encode_length]

def SecretRef.size (reference : SecretRef) : Nat :=
  reference.tenant.utf8ByteSize + reference.nameSpace.utf8ByteSize + reference.key.utf8ByteSize

structure PlainRef (reference : SecretRef) : Prop where
  tenant : PlainText reference.tenant
  nameSpace : PlainText reference.nameSpace
  key : PlainText reference.key

theorem print_reference_length (reference : SecretRef) (plain : PlainRef reference) :
    (referenceCodec.print reference).length = reference.size + 37 := by
  change (((textBytes "\x7b\"tenant\":" ++ textCodec.print reference.tenant) ++ ((textBytes ",\"namespace\":" ++
    textCodec.print reference.nameSpace) ++ (textBytes ",\"key\":" ++ textCodec.print reference.key))) ++
      textBytes "\x7d").length = _
  have first : (textBytes "\x7b\"tenant\":").length = 10 := by decide
  have second : (textBytes ",\"namespace\":").length = 13 := by decide
  have third : (textBytes ",\"key\":").length = 7 := by decide
  have close : (textBytes "\x7d").length = 1 := by decide
  simp only [List.length_append, first, second, third, close, print_text_length _ plain.tenant,
    print_text_length _ plain.nameSpace, print_text_length _ plain.key, SecretRef.size]
  omega

def Disclosure.size : Disclosure → Nat
  | .workloadOnly => 15
  | .userRevealable => 17

theorem print_disclosure_length (disclosure : Disclosure) : (disclosureCodec.print disclosure).length = disclosure.size := by
  cases disclosure <;> decide

theorem print_put_length (reference : SecretRef) (owner : String) (value : Bytes) (disclosure : Disclosure)
    (plain : PlainRef reference) (plainOwner : PlainText owner) :
    (putSecretCodec.print (Remote.put reference owner value disclosure Labels.new)).length =
      reference.size + owner.utf8ByteSize + 4 * ((value.length + 2) / 3) + disclosure.size + 107 := by
  change (((textBytes "\x7b\"reference\":" ++ referenceCodec.print reference) ++ ((textBytes ",\"owner_subject\":" ++
    textCodec.print owner) ++ ((textBytes ",\"value\":" ++ valueCodec.print value) ++ ((textBytes ",\"disclosure\":" ++
      disclosureCodec.print disclosure) ++ (textBytes ",\"labels\":" ++ [123, 125]))))) ++ textBytes "\x7d").length = _
  have first : (textBytes "\x7b\"reference\":").length = 13 := by decide
  have second : (textBytes ",\"owner_subject\":").length = 17 := by decide
  have third : (textBytes ",\"value\":").length = 9 := by decide
  have fourth : (textBytes ",\"disclosure\":").length = 14 := by decide
  have fifth : (textBytes ",\"labels\":").length = 10 := by decide
  have close : (textBytes "\x7d").length = 1 := by decide
  simp only [List.length_append, first, second, third, fourth, fifth, close, print_reference_length _ plain,
    print_text_length _ plainOwner, print_value_length, print_disclosure_length, List.length_cons, List.length_nil]
  omega

theorem print_batch_length (actor owner : String) (target source : SecretRef) (value : Bytes) (disclosure : Disclosure)
    (plainActor : PlainText actor) (plainOwner : PlainText owner) (plainTarget : PlainRef target) (plainSource : PlainRef source) :
    (prepareRequestCodec.print
        ⟨actor, [.put (Remote.put target owner value disclosure Labels.new), .delete source]⟩).length =
      actor.utf8ByteSize + owner.utf8ByteSize + target.size + source.size + 4 * ((value.length + 2) / 3) + disclosure.size + 222 := by
  have stored := print_put_length target owner value disclosure plainTarget plainOwner
  generalize Remote.put target owner value disclosure Labels.new = secret at stored
  change (((textBytes "\x7b\"actor\":" ++ textCodec.print actor) ++ (textBytes ",\"mutations\":" ++ (91 ::
    (((textBytes "\x7b\"op\":\"put\",\"secret\":" ++ putSecretCodec.print secret) ++ textBytes "\x7d") ++ (44 ::
      (((textBytes "\x7b\"op\":\"delete\",\"reference\":" ++ referenceCodec.print source) ++ textBytes "\x7d") ++
        [93])))))) ++ textBytes "\x7d").length = _
  have first : (textBytes "\x7b\"actor\":").length = 9 := by decide
  have second : (textBytes ",\"mutations\":").length = 13 := by decide
  have third : (textBytes "\x7b\"op\":\"put\",\"secret\":").length = 21 := by decide
  have fourth : (textBytes "\x7b\"op\":\"delete\",\"reference\":").length = 27 := by decide
  have close : (textBytes "\x7d").length = 1 := by decide
  simp only [List.length_append, List.length_cons, List.length_nil, first, second, third, fourth, close, stored,
    print_reference_length _ plainSource, print_text_length _ plainActor]
  omega

theorem scope_name_size (name : ScopeName) : name.text.utf8ByteSize ≤ maxSegmentBytes := by
  have short := (scope_name_segment name).short
  rwa [byteLength, String.ofList_toList] at short

theorem key_size (address : Address) : (Remote.reference address).key.utf8ByteSize ≤ maxSegmentBytes + 1 + maxNameBytes := by
  have user := scope_name_size address.scope.user
  have name := (secret_name_checked address.name).1
  have slash : "/".utf8ByteSize = 1 := by decide
  change (address.scope.user.text ++ "/" ++ address.name.text).utf8ByteSize ≤ _
  rw [String.utf8ByteSize_append, String.utf8ByteSize_append, slash]
  omega

theorem reference_plain (address : Address) : PlainRef (Remote.reference address) :=
  ⟨scope_name_plain _, scope_name_plain _, key_plain address⟩

theorem reference_size (address : Address) : (Remote.reference address).size ≤ 3 * maxSegmentBytes + 1 + maxNameBytes := by
  have tenant : (Remote.reference address).tenant.utf8ByteSize ≤ maxSegmentBytes := scope_name_size address.scope.tenant
  have nameSpace : (Remote.reference address).nameSpace.utf8ByteSize ≤ maxSegmentBytes := scope_name_size address.scope.nameSpace
  have key := key_size address
  unfold SecretRef.size
  omega

theorem envelope_bytes : Remote.envelopeBytes = 1007 := by decide +kernel

section Fits
variable (address : Address)

theorem reference_fits : (referenceCodec.print (Remote.reference address)).length ≤ bodyLimit := by
  have size := reference_size address
  rw [print_reference_length _ (reference_plain address)]
  unfold maxSegmentBytes maxNameBytes at size
  unfold bodyLimit
  omega

theorem write_fits (value : Bytes) (bounded : value.length ≤ Remote.maxValueBytes) :
    (putSecretCodec.print (Remote.put (Remote.reference address) (Remote.owner address).text value .workloadOnly
      Labels.new)).length ≤ bodyLimit := by
  have size := reference_size address
  have owner := scope_name_size (Remote.owner address)
  rw [print_put_length _ _ _ _ (reference_plain address) (scope_name_plain _)]
  rw [Remote.maxValueBytes, envelope_bytes] at bounded
  unfold maxSegmentBytes maxNameBytes at size
  unfold maxSegmentBytes at owner
  unfold Remote.serviceBodyLimit at bounded
  unfold bodyLimit Disclosure.size
  dsimp only
  omega

theorem moves_fit (newName : SecretName) (stored : StoredSecret) (bounded : stored.value.length ≤ Remote.maxValueBytes)
    (own : stored.metadata.disclosure = .workloadOnly) (unlabelled : stored.metadata.labels = Labels.new) :
    (prepareRequestCodec.print ⟨(Remote.owner address).text, Remote.moves address newName stored⟩).length ≤ bodyLimit := by
  have size := reference_size address
  have newSize := reference_size (address.renamed newName)
  have owner := scope_name_size (Remote.owner address)
  rw [Remote.moves, own, unlabelled, print_batch_length _ _ _ _ _ _ (scope_name_plain _) (scope_name_plain _)
    (reference_plain _) (reference_plain _)]
  rw [Remote.maxValueBytes, envelope_bytes] at bounded
  unfold maxSegmentBytes maxNameBytes at size newSize
  unfold maxSegmentBytes at owner
  unfold Remote.serviceBodyLimit at bounded
  unfold bodyLimit Disclosure.size
  dsimp only
  omega

theorem scope_fits (scope : Scope) : (scopeCodec.print ⟨scope.tenant.text, scope.nameSpace.text⟩).length ≤ bodyLimit := by
  have tenant := scope_name_size scope.tenant
  have nameSpace := scope_name_size scope.nameSpace
  change (((textBytes "\x7b\"tenant\":" ++ textCodec.print scope.tenant.text) ++ (textBytes ",\"namespace\":" ++
    textCodec.print scope.nameSpace.text)) ++ textBytes "\x7d").length ≤ _
  have first : (textBytes "\x7b\"tenant\":").length = 10 := by decide
  have second : (textBytes ",\"namespace\":").length = 13 := by decide
  have close : (textBytes "\x7d").length = 1 := by decide
  simp only [List.length_append, first, second, close, print_text_length _ (scope_name_plain _)]
  unfold maxSegmentBytes at tenant nameSpace
  unfold bodyLimit
  omega

theorem delete_fits : (deleteRequestCodec.print ⟨Remote.reference address, some (Remote.owner address).text⟩).length ≤ bodyLimit := by
  have size := reference_size address
  have owner := scope_name_size (Remote.owner address)
  change ((textBytes "\x7b\"reference\":" ++ referenceCodec.print (Remote.reference address)) ++ (textBytes ",\"actor\":" ++
    (textCodec.print (Remote.owner address).text ++ textBytes "\x7d"))).length ≤ _
  have first : (textBytes "\x7b\"reference\":").length = 13 := by decide
  have second : (textBytes ",\"actor\":").length = 9 := by decide
  have close : (textBytes "\x7d").length = 1 := by decide
  simp only [List.length_append, first, second, close, print_reference_length _ (reference_plain address),
    print_text_length _ (scope_name_plain _)]
  unfold maxSegmentBytes maxNameBytes at size
  unfold maxSegmentBytes at owner
  unfold bodyLimit
  omega

end Fits

def Remote.putCall (address : Address) (value : Bytes) : Client.Call :=
  .put (Remote.put (Remote.reference address) (Remote.owner address).text value .workloadOnly Labels.new)

def Remote.prepareCall (transaction : Uuid) (address : Address) (newName : SecretName) (stored : StoredSecret) : Client.Call :=
  .prepare (Remote.reference address).tenant transaction (Remote.owner address).text (Remote.moves address newName stored)

-- A record as this backend's own writes leave it.
structure OwnRecord (stored : StoredSecret) : Prop where
  disclosure : stored.metadata.disclosure = .workloadOnly
  labels : stored.metadata.labels = Labels.new

structure Widest (address : Address) (newName : SecretName) : Prop where
  tenant : address.scope.tenant.text.utf8ByteSize = maxSegmentBytes
  nameSpace : address.scope.nameSpace.text.utf8ByteSize = maxSegmentBytes
  user : address.scope.user.text.utf8ByteSize = maxSegmentBytes
  name : address.name.text.utf8ByteSize = maxNameBytes
  newName : newName.text.utf8ByteSize = maxNameBytes

section Bounds
variable (transaction : Uuid) (address : Address) (newName : SecretName) (stored : StoredSecret) (own : OwnRecord stored)

theorem widest_key (wide : Widest address newName) : (Remote.reference address).size = 3 * maxSegmentBytes + 1 + maxNameBytes := by
  have slash : "/".utf8ByteSize = 1 := by decide
  change address.scope.tenant.text.utf8ByteSize + address.scope.nameSpace.text.utf8ByteSize +
    (address.scope.user.text ++ "/" ++ address.name.text).utf8ByteSize = _
  rw [String.utf8ByteSize_append, String.utf8ByteSize_append, slash, wide.tenant, wide.nameSpace, wide.user, wide.name]
  omega

include own

theorem widest_prepare_length (wide : Widest address newName) :
    (Remote.prepareCall transaction address newName stored).body.length =
      Remote.envelopeBytes + 4 * ((stored.value.length + 2) / 3) := by
  have size := widest_key address newName wide
  have renamed := widest_key (address.renamed newName) newName ⟨wide.tenant, wide.nameSpace, wide.user, wide.newName, wide.newName⟩
  have owner : (Remote.owner address).text.utf8ByteSize = maxSegmentBytes := wide.user
  change (prepareRequestCodec.print ⟨(Remote.owner address).text, Remote.moves address newName stored⟩).length = _
  rw [Remote.moves, own.disclosure, own.labels, print_batch_length _ _ _ _ _ _ (scope_name_plain _) (scope_name_plain _)
    (reference_plain _) (reference_plain _), size, renamed, owner, envelope_bytes]
  unfold maxSegmentBytes maxNameBytes Disclosure.size
  dsimp only
  omega

theorem widest_prepare_exceeds (wide : Widest address newName) (longer : stored.value.length = Remote.maxValueBytes + 1) :
    Remote.serviceBodyLimit < (Remote.prepareCall transaction address newName stored).body.length := by
  rw [widest_prepare_length transaction address newName stored own wide, longer, Remote.maxValueBytes, envelope_bytes]
  decide

end Bounds

-- The bound on values keeps both requests within the service's limit, and no
-- larger one would.
structure ValueBound : Prop where
  put : ∀ (address : Address) (value : Bytes), value.length ≤ Remote.maxValueBytes →
    (Remote.putCall address value).body.length ≤ Remote.serviceBodyLimit
  prepare : ∀ (transaction : Uuid) (address : Address) (newName : SecretName) (stored : StoredSecret), OwnRecord stored →
    stored.value.length ≤ Remote.maxValueBytes →
      (Remote.prepareCall transaction address newName stored).body.length ≤ Remote.serviceBodyLimit
  exceeds : ∀ (transaction : Uuid) (address : Address) (newName : SecretName) (stored : StoredSecret), OwnRecord stored →
    Widest address newName → stored.value.length = Remote.maxValueBytes + 1 →
      Remote.serviceBodyLimit < (Remote.prepareCall transaction address newName stored).body.length
  envelope : ∀ (transaction : Uuid) (address : Address) (newName : SecretName) (stored : StoredSecret), OwnRecord stored →
    Widest address newName → stored.value = [] →
      (Remote.prepareCall transaction address newName stored).body.length = Remote.envelopeBytes
  attained : ∃ address newName, Widest address newName

def widestScopeName : ScopeName := ⟨String.ofList (List.replicate maxSegmentBytes 'a'), by decide +kernel⟩

def widestName : SecretName :=
  ⟨String.ofList (List.replicate maxSegmentBytes 'a' ++ '/' :: List.replicate (maxNameBytes - maxSegmentBytes - 1) 'b'), by decide +kernel⟩

theorem value_bound_tight : ValueBound where
  put address value bounded := write_fits address value bounded
  prepare _ address newName stored own bounded := moves_fit address newName stored bounded own.disclosure own.labels
  exceeds transaction address newName stored own wide longer := widest_prepare_exceeds transaction address newName stored own wide longer
  envelope transaction address newName stored own wide empty := by
    rw [widest_prepare_length transaction address newName stored own wide, empty, List.length_nil]
    omega
  attained := ⟨⟨⟨widestScopeName, widestScopeName, widestScopeName⟩, widestName⟩, widestName, by decide +kernel, by decide +kernel,
    by decide +kernel, by decide +kernel, by decide +kernel⟩

theorem reference_valid (address : Address) : validateRef (Remote.reference address) = .ok () := by
  have nonempty : ∀ name : ScopeName, name.text.isEmpty = false := by
    intro name
    have some := (scope_name_segment name).nonempty
    rw [Bool.eq_false_iff]
    intro empty
    rw [String.isEmpty_iff] at empty
    simp [empty] at some
  have clean : ∀ name : ScopeName, hasNul name.text = false := fun name =>
    decide_eq_false fun member => named_not_nul _ ((scope_name_segment name).named _ member) rfl
  have key : (Remote.reference address).key.isEmpty = false := by
    rw [Bool.eq_false_iff]
    intro empty
    rw [String.isEmpty_iff] at empty
    have slash := congrArg (fun text => '/' ∈ text.toList) empty
    simp [Remote.reference, String.toList_append] at slash
  have cleanKey : hasNul (Remote.reference address).key = false := by
    refine decide_eq_false fun member => ?_
    simp only [Remote.reference, String.toList_append, List.mem_append] at member
    rcases member with (user | slash) | name
    · exact named_not_nul _ ((scope_name_segment address.scope.user).named _ user) rfl
    · exact absurd slash (by decide)
    · rcases secret_name_letters address.name _ name with named | slash
      · exact named_not_nul _ named rfl
      · exact absurd slash (by decide)
  have tenant := scope_name_size address.scope.tenant
  have nameSpace := scope_name_size address.scope.nameSpace
  have size := key_size address
  unfold maxSegmentBytes maxNameBytes at size
  unfold maxSegmentBytes at tenant nameSpace
  have short : ∀ text : String, text.utf8ByteSize ≤ 255 → decide (text.utf8ByteSize > 255) = false := fun _ small =>
    decide_eq_false (Nat.not_lt.mpr small)
  rw [validateRef]
  simp only [List.any_cons, List.any_nil, Bool.or_false, key, cleanKey]
  rw [show (Remote.reference address).tenant = address.scope.tenant.text from rfl,
    show (Remote.reference address).nameSpace = address.scope.nameSpace.text from rfl]
  simp only [nonempty, clean, Bool.or_self, Bool.false_eq_true, if_false,
    short _ (show address.scope.tenant.text.utf8ByteSize ≤ 255 by omega),
    short _ (show address.scope.nameSpace.text.utf8ByteSize ≤ 255 by omega), short _ (Nat.le_trans size (by decide))]

end Secrets
