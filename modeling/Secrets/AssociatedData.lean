import Mathlib
import Secrets.Crypto

set_option autoImplicit false

namespace Secrets

open Framing (Bytes bigEndian prefixed)

theorem text_bytes_append (first second : String) :
    textBytes (first ++ second) = textBytes first ++ textBytes second := by
  simp [textBytes, String.toByteArray_append]

theorem separator_chars : separator.toList = [nul] := by decide

theorem text_append_cancel (header first second : String) (same : header ++ first = header ++ second) :
    first = second := by
  have chars := congrArg String.toList same
  rw [String.toList_append, String.toList_append] at chars
  exact String.toList_inj.mp (List.append_cancel_left chars)

theorem text_split (first second firstRest secondRest : String)
    (firstClean : nul ∉ first.toList) (secondClean : nul ∉ second.toList)
    (same : first ++ (separator ++ firstRest) = second ++ (separator ++ secondRest)) :
    first = second ∧ firstRest = secondRest := by
  have chars := congrArg String.toList same
  simp only [String.toList_append, separator_chars, List.cons_append, List.nil_append] at chars
  obtain ⟨fields, rests⟩ := Framing.separated_unique nul _ _ _ _ firstClean secondClean chars
  exact ⟨String.toList_inj.mp fields, String.toList_inj.mp rests⟩

def disclosureLetter : Disclosure → Char
  | .workloadOnly => 'y'
  | .userRevealable => 'e'

theorem disclosure_name_last (disclosure : Disclosure) :
    ∃ start, (disclosureName disclosure).toList = start ++ [disclosureLetter disclosure] := by
  cases disclosure
  · exact ⟨"WorkloadOnl".toList, by decide⟩
  · exact ⟨"UserRevealabl".toList, by decide⟩

-- The two names end in different letters, so the tail decides the disclosure.
theorem disclosure_suffix (version other : String) (disclosure choice : Disclosure)
    (same : version ++ (separator ++ disclosureName disclosure) = other ++ (separator ++ disclosureName choice)) :
    version = other ∧ disclosure = choice := by
  have choices : disclosure = choice := by
    obtain ⟨start, left⟩ := disclosure_name_last disclosure
    obtain ⟨other, right⟩ := disclosure_name_last choice
    have last := congrArg (fun text => text.toList.getLast?) same
    simp only [String.toList_append, left, right, ← List.append_assoc, List.getLast?_concat, Option.some.injEq] at last
    cases disclosure <;> cases choice <;> first | rfl | exact absurd last (by decide)
  subst choices
  have chars := congrArg String.toList same
  simp only [String.toList_append] at chars
  exact ⟨String.toList_inj.mp (List.append_cancel_right chars), rfl⟩

theorem associated_data_version_disclosure (reference : SecretRef) (version other : Int)
    (disclosure choice : Disclosure)
    (same : associatedData reference version disclosure = associatedData reference other choice) :
    version = other ∧ disclosure = choice := by
  have texts : associatedText reference version disclosure = associatedText reference other choice :=
    text_bytes_injective _ _ same
  have afterHeader := text_append_cancel _ _ _ (text_append_cancel _ _ _ texts)
  have afterTenant := text_append_cancel _ _ _ (text_append_cancel _ _ _ afterHeader)
  have afterSpace := text_append_cancel _ _ _ (text_append_cancel _ _ _ afterTenant)
  have afterKey := text_append_cancel _ _ _ (text_append_cancel _ _ _ afterSpace)
  obtain ⟨versions, choices⟩ := disclosure_suffix _ _ _ _ afterKey
  exact ⟨Int.repr_injective versions, choices⟩

theorem associated_data_unique (reference other : SecretRef) (version revision : Int)
    (disclosure choice : Disclosure) (valid : validateRef reference = .ok ()) (otherValid : validateRef other = .ok ())
    (same : associatedData reference version disclosure = associatedData other revision choice) :
    reference = other ∧ version = revision ∧ disclosure = choice := by
  obtain ⟨tenantClean, spaceClean, keyClean⟩ := valid_ref_no_nul reference valid
  obtain ⟨otherTenantClean, otherSpaceClean, otherKeyClean⟩ := valid_ref_no_nul other otherValid
  have texts : associatedText reference version disclosure = associatedText other revision choice :=
    text_bytes_injective _ _ same
  have afterHeader := text_append_cancel _ _ _ (text_append_cancel _ _ _ texts)
  obtain ⟨tenants, afterTenant⟩ := text_split _ _ _ _ tenantClean otherTenantClean afterHeader
  obtain ⟨spaces, afterSpace⟩ := text_split _ _ _ _ spaceClean otherSpaceClean afterTenant
  obtain ⟨keys, afterKey⟩ := text_split _ _ _ _ keyClean otherKeyClean afterSpace
  obtain ⟨versions, choices⟩ := disclosure_suffix _ _ _ _ afterKey
  refine ⟨?_, Int.repr_injective versions, choices⟩
  cases reference
  cases other
  simp only [SecretRef.mk.injEq]
  exact ⟨tenants, spaces, keys⟩

-- Rust lengths are below 2^63, so `len() as u64` is the length itself.
def FitsU64 (text : String) : Prop := (textBytes text).length < 256 ^ 8

theorem batch_associated_data_unique (tenant other : String) (transaction id : Uuid) (actor person : String)
    (tenantFits : FitsU64 tenant) (otherFits : FitsU64 other)
    (same : batchAssociatedData tenant transaction actor = batchAssociatedData other id person) :
    tenant = other ∧ transaction = id ∧ actor = person := by
  simp only [batchAssociatedData, List.append_assoc, List.append_cancel_left_eq] at same
  obtain ⟨tenants, afterTenant⟩ := Framing.prefixed_unique 8 _ _ _ _ tenantFits otherFits same
  obtain ⟨ids, actors⟩ := List.append_inj afterTenant (by simp)
  obtain ⟨_, people⟩ := List.append_inj actors (by simp)
  exact ⟨text_bytes_injective _ _ tenants, Vector.toList_inj.mp ids, text_bytes_injective _ _ people⟩

theorem batch_data_separated (reference : SecretRef) (version : Int) (disclosure : Disclosure)
    (tenant : String) (transaction : Uuid) (actor : String) :
    associatedData reference version disclosure ≠ batchAssociatedData tenant transaction actor := by
  intro same
  have secretTag : (textBytes "secrets/v1")[8]? = some 118 := by decide
  have batchTag : (textBytes ("secrets/prepared-batch/v1" ++ separator))[8]? = some 112 := by decide
  have secretLength : 8 < (textBytes "secrets/v1").length := by decide
  have batchLength : 8 < (textBytes ("secrets/prepared-batch/v1" ++ separator)).length := by decide
  have ninth := congrArg (fun bytes => bytes[8]?) same
  rw [associatedData, associatedText, text_bytes_append, batchAssociatedData, List.append_assoc, List.append_assoc] at ninth
  rw [List.getElem?_append_left secretLength, List.getElem?_append_left batchLength, secretTag, batchTag] at ninth
  exact absurd ninth (by decide)

end Secrets
