import Secrets.Lib.Base64
import Secrets.Lib.Codec
import Secrets.Store

set_option autoImplicit false

namespace Secrets

open Codecs Codecs.Codec
open Framing (Bytes)

def fromUtf8 (bytes : Bytes) : Option String := String.fromUTF8? ⟨bytes.toArray⟩

theorem from_utf8_text_bytes (text : String) : fromUtf8 (textBytes text) = some text := by
  have whole : (⟨(textBytes text).toArray⟩ : ByteArray) = text.toByteArray := by simp [textBytes]
  rw [fromUtf8, whole, String.fromUTF8?, dif_pos text.isValidUTF8]
  rfl

def textCodec : Codec String := quoted.convert textBytes fromUtf8 from_utf8_text_bytes

def valueCodec : Codec Bytes := quoted.convert Base64.encode Base64.decode Base64.decode_encode

def field {Value : Type} (name : String) (inner : Codec Value) : Codec Value := after (textBytes name) inner

def referenceCodec : Codec SecretRef :=
  (before (pair (field "\x7b\"tenant\":" textCodec) (pair (field ",\"namespace\":" textCodec) (field ",\"key\":" textCodec)))
    (textBytes "\x7d")).convert (fun reference => (reference.tenant, reference.nameSpace, reference.key))
    (fun parts => some ⟨parts.1, parts.2.1, parts.2.2⟩) fun _ => rfl

def disclosureOf : Disclosure → Unit ⊕ Unit
  | .workloadOnly => .inl ()
  | .userRevealable => .inr ()

def disclosureCodec : Codec Disclosure :=
  (choice (textBytes "\"workload_only\"") (textBytes "\"user_revealable\"") (literal []) (literal [])
    (fun _ => rfl)).convert disclosureOf
    (fun
      | .inl _ => some .workloadOnly
      | .inr _ => some .userRevealable) fun disclosure => by cases disclosure <;> rfl

def labelCodec : Codec (String × String) := pair textCodec (field ":" textCodec)

def labelsOf (entries : List (String × String)) : Option Labels :=
  if sorted : (entries.map Prod.fst).Pairwise (· < ·) then some ⟨entries, sorted⟩ else none

theorem labels_of_entries (labels : Labels) : labelsOf labels.entries = some labels := by
  rw [labelsOf, dif_pos labels.sorted]

def labelsCodec : Codec Labels :=
  (items labelCodec 44 125 123 (by decide) (fun label rest => by
    change some (34 : UInt8) ≠ some 125
    decide)).convert Labels.entries labelsOf labels_of_entries

def putSecretCodec : Codec PutSecret :=
  (before (pair (field "\x7b\"reference\":" referenceCodec) (pair (field ",\"owner_subject\":" textCodec)
    (pair (field ",\"value\":" valueCodec) (pair (field ",\"disclosure\":" disclosureCodec)
      (field ",\"labels\":" labelsCodec))))) (textBytes "\x7d")).convert
    (fun input => (input.reference, input.ownerSubject, input.value, input.disclosure, input.labels))
    (fun parts => some ⟨parts.1, parts.2.1, parts.2.2.1, parts.2.2.2.1, parts.2.2.2.2⟩) fun _ => rfl

def mutationOf : Mutation → PutSecret ⊕ SecretRef
  | .put secret => .inl secret
  | .delete reference => .inr reference

def mutationCodec : Codec Mutation :=
  (before (choice (textBytes "\x7b\"op\":\"put\",\"secret\":") (textBytes "\x7b\"op\":\"delete\",\"reference\":") putSecretCodec
    referenceCodec (fun _ => rfl)) (textBytes "\x7d")).convert mutationOf
    (fun
      | .inl secret => some (.put secret)
      | .inr reference => some (.delete reference)) fun mutation => by cases mutation <;> rfl

def mutationsCodec : Codec (List Mutation) :=
  items mutationCodec 44 93 91 (by decide) fun mutation rest => by
    cases mutation <;> (change some (123 : UInt8) ≠ some 93; decide)

def readDocument {Value : Type} (codec : Codec Value) (bytes : Bytes) : Option Value :=
  match codec.parse bytes with
  | some (value, []) => some value
  | _ => none

theorem read_document_print {Value : Type} (codec : Codec Value) (value : Value) :
    readDocument codec (codec.print value) = some value := by
  have read := codec.readsBack value []
  rw [List.append_nil] at read
  rw [readDocument, read]

def jsonCodec : MutationCodec where
  toWriter := mutationsCodec.print
  fromSlice := readDocument mutationsCodec
  readsBack := read_document_print mutationsCodec

-- A platform to run examples on: the tape counts, and index entries have the
-- room of a btree page.
def countingDraw (count : Nat) : Draw :=
  let byte := UInt8.ofNat count
  ⟨Vector.replicate 16 byte, Vector.replicate 32 byte, Vector.replicate 12 byte, Vector.replicate 12 byte⟩

def countingPlatform : Platform where
  random := countingDraw
  indexFits texts := decide ((texts.map String.utf8ByteSize).sum ≤ 2704)
  codec := jsonCodec

namespace Sample

def key (byte : UInt8) : Key := Vector.replicate 32 byte

def oldKeyring : Keyring := ⟨"v1", [("v1", key 201)], by decide⟩
def newKeyring : Keyring := ⟨"v2", [("v1", key 201), ("v2", key 202)], by decide⟩

def oldStore : PostgresStore := ⟨oldKeyring, 600⟩
def newStore : PostgresStore := ⟨newKeyring, 600⟩

def clockAt (second : Nat) : Clock := ⟨second, second * 1000000, second * 1000000, Int.le_refl _⟩

def reference : SecretRef := ⟨"t", "n", "k"⟩

def secret (disclosure : Disclosure) (byte : UInt8) : PutSecret :=
  ⟨reference, "user:one", [byte], disclosure, Labels.new⟩

def transaction : Uuid := Vector.replicate 16 255

end Sample
end Secrets
