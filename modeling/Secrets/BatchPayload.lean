import Secrets.Lib.Json
import Secrets.RequestSizes
import Secrets.StoreSpec

set_option autoImplicit false

namespace Secrets

open Codecs
open Framing (Bytes)

abbrev JsonValue := JsonTree String

def base64Text (bytes : Bytes) : String := String.ofList ((Base64.encode bytes).map fun byte => Char.ofNat byte.toNat)

section Serialize

def SecretRef.serialize (reference : SecretRef) : JsonValue :=
  .object [("tenant", .text reference.tenant), ("namespace", .text reference.nameSpace), ("key", .text reference.key)]

def Disclosure.serialize : Disclosure → JsonValue
  | .workloadOnly => .text "workload_only"
  | .userRevealable => .text "user_revealable"

def serializeLabel (label : String × String) : String × JsonValue := (label.1, .text label.2)

def Labels.serialize (labels : Labels) : JsonValue := .object (labels.entries.map serializeLabel)

def PutSecret.serialize (input : PutSecret) : JsonValue :=
  .object [("reference", input.reference.serialize), ("owner_subject", .text input.ownerSubject),
    ("value", .text (base64Text input.value)), ("disclosure", input.disclosure.serialize), ("labels", input.labels.serialize)]

def Mutation.serialize : Mutation → JsonValue
  | .put secret => .object [("op", .text "put"), ("secret", secret.serialize)]
  | .delete reference => .object [("op", .text "delete"), ("reference", reference.serialize)]

def serializeMutations (mutations : List Mutation) : JsonValue := .array (mutations.map Mutation.serialize)

end Serialize

section Deserialize

-- What a derived Deserialize takes for a struct: an object whose known fields
-- stand at most once, in any order and among others, or an array of the fields
-- in their order, the last ones perhaps missing.
def structFields (names : List String) : JsonValue → Option (List (String × JsonValue))
  | .text _ => none
  | .array values => if values.length ≤ names.length then some (names.zip values) else none
  | .object members =>
      let known := members.filter fun member => decide (member.1 ∈ names)
      if (known.map Prod.fst).Nodup then some known else none

def required {Value : Type} (fields : List (String × JsonValue)) (name : String) (read : JsonValue → Option Value) :
    Option Value := (fields.lookup name).bind read

def defaulted {Value : Type} (fields : List (String × JsonValue)) (name : String) (value : Value)
    (read : JsonValue → Option Value) : Option Value :=
  match fields.lookup name with
  | none => some value
  | some document => read document

def readString : JsonValue → Option String
  | .text value => some value
  | _ => none

def readBytes : JsonValue → Option Bytes
  | .text value => Base64.decode (textBytes value)
  | _ => none

def readDisclosure : JsonValue → Option Disclosure
  | .text value =>
      if value = "workload_only" then some .workloadOnly
      else if value = "user_revealable" then some .userRevealable
      else none
  | _ => none

def insertEntry (key value : String) : List (String × String) → List (String × String)
  | [] => [(key, value)]
  | entry :: rest =>
      if key < entry.1 then (key, value) :: entry :: rest
      else if key = entry.1 then (key, value) :: rest
      else entry :: insertEntry key value rest

theorem insert_entry_keys (key value name : String) (entries : List (String × String))
    (member : name ∈ (insertEntry key value entries).map Prod.fst) : name = key ∨ name ∈ entries.map Prod.fst := by
  induction entries with
  | nil => simpa [insertEntry] using member
  | cons entry rest ih =>
      by_cases before : key < entry.1
      · simpa [insertEntry, before] using member
      · by_cases same : key = entry.1
        · rw [insertEntry, if_neg before, if_pos same, List.map_cons, List.mem_cons] at member
          rcases member with first | later
          · exact .inl first
          · exact .inr (List.mem_cons_of_mem _ later)
        · rw [insertEntry, if_neg before, if_neg same, List.map_cons, List.mem_cons] at member
          rcases member with first | later
          · exact .inr (first ▸ List.mem_cons_self ..)
          · rcases ih later with here | inside
            · exact .inl here
            · exact .inr (List.mem_cons_of_mem _ inside)

theorem insert_entry_sorted (key value : String) (entries : List (String × String))
    (sorted : (entries.map Prod.fst).Pairwise (· < ·)) : ((insertEntry key value entries).map Prod.fst).Pairwise (· < ·) := by
  induction entries with
  | nil => simp [insertEntry]
  | cons entry rest ih =>
      rw [List.map_cons, List.pairwise_cons] at sorted
      by_cases before : key < entry.1
      · rw [insertEntry, if_pos before, List.map_cons, List.map_cons, List.pairwise_cons, List.pairwise_cons]
        refine ⟨fun name member => ?_, sorted⟩
        rcases List.mem_cons.mp member with rfl | inside
        · exact before
        · exact String.lt_trans before (sorted.1 name inside)
      · by_cases same : key = entry.1
        · rw [insertEntry, if_neg before, if_pos same, List.map_cons, List.pairwise_cons]
          exact ⟨fun name member => same ▸ sorted.1 name member, sorted.2⟩
        · rw [insertEntry, if_neg before, if_neg same, List.map_cons, List.pairwise_cons]
          refine ⟨fun name member => ?_, ih sorted.2⟩
          rcases insert_entry_keys key value name rest member with rfl | inside
          · exact lt_of_le_of_ne (not_lt.mp before) (Ne.symm same)
          · exact sorted.1 name inside

def Labels.insert (labels : Labels) (key value : String) : Labels :=
  ⟨insertEntry key value labels.entries, insert_entry_sorted key value labels.entries labels.sorted⟩

def insertMembers : List (String × JsonValue) → Labels → Option Labels
  | [], labels => some labels
  | (key, document) :: rest, labels => (readString document).bind fun value => insertMembers rest (labels.insert key value)

def readLabels : JsonValue → Option Labels
  | .object members => insertMembers members Labels.new
  | _ => none

def readReference (document : JsonValue) : Option SecretRef := do
  let fields ← structFields ["tenant", "namespace", "key"] document
  let tenant ← required fields "tenant" readString
  let nameSpace ← required fields "namespace" readString
  let key ← required fields "key" readString
  some ⟨tenant, nameSpace, key⟩

def readPut (document : JsonValue) : Option PutSecret := do
  let fields ← structFields ["reference", "owner_subject", "value", "disclosure", "labels"] document
  let reference ← required fields "reference" readReference
  let ownerSubject ← required fields "owner_subject" readString
  let value ← required fields "value" readBytes
  let disclosure ← defaulted fields "disclosure" .workloadOnly readDisclosure
  let labels ← defaulted fields "labels" Labels.new readLabels
  some ⟨reference, ownerSubject, value, disclosure, labels⟩

-- An internally tagged enum: the tag wherever it stands, and the content that
-- is left without it.
def tagged : JsonValue → Option (String × JsonValue)
  | .object members =>
      match members.filter fun member => decide (member.1 = "op") with
      | [(_, .text tag)] => some (tag, .object (members.filter fun member => decide (member.1 ≠ "op")))
      | _ => none
  | .array (.text tag :: rest) => some (tag, .array rest)
  | _ => none

def readContent (tag : String) (content : JsonValue) : Option Mutation :=
  if tag = "put" then do
    let fields ← structFields ["secret"] content
    (required fields "secret" readPut).map .put
  else if tag = "delete" then do
    let fields ← structFields ["reference"] content
    (required fields "reference" readReference).map .delete
  else none

def readMutation (document : JsonValue) : Option Mutation :=
  (tagged document).bind fun parts => readContent parts.1 parts.2

def readMutations : JsonValue → Option (List Mutation)
  | .array documents => documents.mapM readMutation
  | _ => none

end Deserialize

section RoundTrip

theorem read_reference_serialize (reference : SecretRef) : readReference reference.serialize = some reference := by
  simp [readReference, SecretRef.serialize, structFields, required, readString, List.lookup]

theorem read_disclosure_serialize (disclosure : Disclosure) : readDisclosure disclosure.serialize = some disclosure := by
  cases disclosure with
  | workloadOnly => rfl
  | userRevealable => simp [Disclosure.serialize, readDisclosure]

theorem ascii_bytes (bytes : Bytes) (ascii : ∀ byte ∈ bytes, byte.toNat < 128) :
    textBytes (String.ofList (bytes.map fun byte => Char.ofNat byte.toNat)) = bytes := by
  have single : ∀ code < 128, String.utf8EncodeChar (Char.ofNat code) = [UInt8.ofNat code] := by decide +kernel
  rw [text_bytes_flat, String.toList_ofList]
  induction bytes with
  | nil => rfl
  | cons byte rest ih =>
      rw [List.map_cons, List.flatMap_cons, single byte.toNat (ascii byte (List.mem_cons_self ..)), UInt8.ofNat_toNat,
        ih fun other member => ascii other (List.mem_cons_of_mem _ member)]
      rfl

theorem base64_ascii (bytes : Bytes) : ∀ byte ∈ Base64.encode bytes, byte.toNat < 128 := by
  have digits : ∀ value < 64, (Base64.digit value).toNat < 128 := by decide
  intro byte member
  rcases Base64.encode_digits bytes byte member with rfl | ⟨value, small, rfl⟩
  · decide
  · exact digits value small

theorem base64_text_bytes (bytes : Bytes) : textBytes (base64Text bytes) = Base64.encode bytes :=
  ascii_bytes _ (base64_ascii bytes)

theorem read_bytes_serialize (bytes : Bytes) : readBytes (.text (base64Text bytes)) = some bytes := by
  rw [readBytes, base64_text_bytes, Base64.decode_encode]

theorem insert_entry_last (key value : String) (entries : List (String × String))
    (last : ∀ name ∈ entries.map Prod.fst, name < key) : insertEntry key value entries = entries ++ [(key, value)] := by
  induction entries with
  | nil => rfl
  | cons entry rest ih =>
      have less : entry.1 < key := last entry.1 (List.mem_cons_self ..)
      rw [insertEntry, if_neg (lt_asymm less), if_neg (ne_of_gt less),
        ih fun name member => last name (List.mem_cons_of_mem _ member)]
      rfl

theorem insert_members_serialize (entries : List (String × String)) (labels : Labels)
    (sorted : ((labels.entries ++ entries).map Prod.fst).Pairwise (· < ·)) :
    insertMembers (entries.map serializeLabel) labels = some ⟨labels.entries ++ entries, sorted⟩ := by
  induction entries generalizing labels with
  | nil => simp [insertMembers]
  | cons entry rest ih =>
      obtain ⟨key, value⟩ := entry
      have last : ∀ name ∈ labels.entries.map Prod.fst, name < key := by
        intro name member
        rw [List.map_append, List.pairwise_append] at sorted
        exact sorted.2.2 name member key (by simp)
      have grown : (labels.insert key value).entries = labels.entries ++ [(key, value)] :=
        insert_entry_last key value labels.entries last
      have still : (((labels.insert key value).entries ++ rest).map Prod.fst).Pairwise (· < ·) := by
        rw [grown, List.append_assoc]
        exact sorted
      rw [List.map_cons, serializeLabel, insertMembers]
      simp only [readString, Option.bind_some]
      rw [ih (labels.insert key value) still]
      simp only [grown, List.append_assoc, List.singleton_append]

theorem read_labels_serialize (labels : Labels) : readLabels labels.serialize = some labels :=
  insert_members_serialize labels.entries Labels.new labels.sorted

theorem read_put_serialize (input : PutSecret) : readPut input.serialize = some input := by
  simp [readPut, PutSecret.serialize, structFields, required, defaulted, List.lookup, readString, read_reference_serialize,
    read_bytes_serialize, read_disclosure_serialize, read_labels_serialize]

theorem read_mutation_serialize (mutation : Mutation) : readMutation mutation.serialize = some mutation := by
  cases mutation with
  | put secret =>
      simp [readMutation, Mutation.serialize, tagged, readContent, structFields, required, List.lookup, read_put_serialize]
  | delete reference =>
      simp [readMutation, Mutation.serialize, tagged, readContent, structFields, required, List.lookup,
        read_reference_serialize]

theorem read_mutations_serialize (mutations : List Mutation) :
    readMutations (serializeMutations mutations) = some mutations := by
  rw [serializeMutations, readMutations]
  induction mutations with
  | nil => rfl
  | cons mutation rest ih =>
      rw [List.map_cons, List.mapM_cons, read_mutation_serialize, Option.bind_eq_bind, Option.bind_some, ih]
      rfl

end RoundTrip

section Bytes

def jsonDepth : Nat := 128

theorem text_marked (value : String) (rest : Bytes) : (textCodec.print value ++ rest).head? = some 34 := rfl

theorem labels_within (labels : Labels) (depth : Nat) : labels.serialize.Within (depth + 2) := by
  intro member inside
  obtain ⟨label, _, rfl⟩ := List.mem_map.mp inside
  trivial

theorem reference_within (reference : SecretRef) (depth : Nat) : reference.serialize.Within (depth + 2) := by
  simp [SecretRef.serialize, JsonTree.Within]

theorem put_within (input : PutSecret) (depth : Nat) : input.serialize.Within (depth + 3) := by
  have disclosure : input.disclosure.serialize.Within (depth + 2) := by
    cases input.disclosure with
    | workloadOnly => trivial
    | userRevealable => trivial
  simp [PutSecret.serialize, JsonTree.Within, reference_within, disclosure, labels_within]

theorem mutation_within (mutation : Mutation) (depth : Nat) : mutation.serialize.Within (depth + 4) := by
  cases mutation with
  | put secret => simp [Mutation.serialize, JsonTree.Within, put_within]
  | delete reference => simp [Mutation.serialize, JsonTree.Within, reference_within]

theorem mutations_within (mutations : List Mutation) : (serializeMutations mutations).Within jsonDepth := by
  intro document inside
  obtain ⟨mutation, _, rfl⟩ := List.mem_map.mp inside
  exact mutation_within mutation 123

def fromWritten (bytes : Bytes) : Option (List Mutation) :=
  match JsonTree.read textCodec jsonDepth bytes with
  | some (document, []) => readMutations document
  | _ => none

def toWriter (mutations : List Mutation) : Bytes := (serializeMutations mutations).write textCodec

theorem from_written_to_writer (mutations : List Mutation) : fromWritten (toWriter mutations) = some mutations := by
  have read := read_write textCodec text_marked jsonDepth (serializeMutations mutations) [] (mutations_within mutations)
  rw [List.append_nil] at read
  rw [fromWritten, toWriter, read]
  exact read_mutations_serialize mutations

def serdeJson : MutationCodec := ⟨toWriter, fromWritten, from_written_to_writer⟩

def Platform.withSerde (platform : Platform) : Platform := { platform with codec := serdeJson }

theorem write_reference (reference : SecretRef) : reference.serialize.write textCodec = referenceCodec.print reference := by
  have first : textBytes "\x7b\"tenant\":" = 123 :: (textCodec.print "tenant" ++ [58]) := by decide +kernel
  have second : textBytes ",\"namespace\":" = 44 :: (textCodec.print "namespace" ++ [58]) := by decide +kernel
  have third : textBytes ",\"key\":" = 44 :: (textCodec.print "key" ++ [58]) := by decide +kernel
  have close : textBytes "\x7d" = [125] := by decide
  have printed : referenceCodec.print reference = ((textBytes "\x7b\"tenant\":" ++ textCodec.print reference.tenant) ++
    ((textBytes ",\"namespace\":" ++ textCodec.print reference.nameSpace) ++
      (textBytes ",\"key\":" ++ textCodec.print reference.key))) ++ textBytes "\x7d" := rfl
  rw [printed, first, second, third, close]
  simp [SecretRef.serialize, JsonTree.write, writeMembers, joined, following]

theorem write_disclosure (disclosure : Disclosure) :
    disclosure.serialize.write textCodec = disclosureCodec.print disclosure := by
  cases disclosure with
  | workloadOnly => decide
  | userRevealable => decide

theorem write_value (value : Bytes) : JsonTree.write textCodec (.text (base64Text value)) = valueCodec.print value := by
  change 34 :: printQuoted (textBytes (base64Text value)) = 34 :: printQuoted (Base64.encode value)
  rw [base64_text_bytes]

theorem write_labels (labels : Labels) : labels.serialize.write textCodec = labelsCodec.print labels := by
  have colon : textBytes ":" = [58] := by decide
  have single : writeMember textCodec ∘ serializeLabel = labelCodec.print := by
    funext label
    have printed : labelCodec.print label = textCodec.print label.1 ++ (textBytes ":" ++ textCodec.print label.2) := rfl
    rw [printed, colon]
    rfl
  have printed : labelsCodec.print labels = 123 :: Codec.printItems labelCodec 44 125 labels.entries := rfl
  rw [printed, print_items_joined, Labels.serialize, JsonTree.write, write_members_map, List.map_map, single]

theorem write_put (input : PutSecret) : input.serialize.write textCodec = putSecretCodec.print input := by
  have first : textBytes "\x7b\"reference\":" = 123 :: (textCodec.print "reference" ++ [58]) := by decide +kernel
  have second : textBytes ",\"owner_subject\":" = 44 :: (textCodec.print "owner_subject" ++ [58]) := by decide +kernel
  have third : textBytes ",\"value\":" = 44 :: (textCodec.print "value" ++ [58]) := by decide +kernel
  have fourth : textBytes ",\"disclosure\":" = 44 :: (textCodec.print "disclosure" ++ [58]) := by decide +kernel
  have fifth : textBytes ",\"labels\":" = 44 :: (textCodec.print "labels" ++ [58]) := by decide +kernel
  have close : textBytes "\x7d" = [125] := by decide
  have printed : putSecretCodec.print input = ((textBytes "\x7b\"reference\":" ++ referenceCodec.print input.reference) ++
    ((textBytes ",\"owner_subject\":" ++ textCodec.print input.ownerSubject) ++ ((textBytes ",\"value\":" ++
      valueCodec.print input.value) ++ ((textBytes ",\"disclosure\":" ++ disclosureCodec.print input.disclosure) ++
        (textBytes ",\"labels\":" ++ labelsCodec.print input.labels))))) ++ textBytes "\x7d" := rfl
  have owner : JsonTree.write textCodec (.text input.ownerSubject) = textCodec.print input.ownerSubject := by rw [JsonTree.write]
  rw [printed, first, second, third, fourth, fifth, close, ← write_reference, ← write_value, ← write_disclosure, ← write_labels,
    ← owner]
  simp only [PutSecret.serialize, JsonTree.write, writeMembers, joined, following, List.append_assoc, List.cons_append,
    List.nil_append]

theorem write_mutation (mutation : Mutation) : mutation.serialize.write textCodec = mutationCodec.print mutation := by
  have close : textBytes "\x7d" = [125] := by decide
  cases mutation with
  | put secret =>
      have front : textBytes "\x7b\"op\":\"put\",\"secret\":" =
        123 :: (textCodec.print "op" ++ 58 :: (textCodec.print "put" ++ 44 :: (textCodec.print "secret" ++ [58]))) := by decide +kernel
      have printed : mutationCodec.print (.put secret) =
        (textBytes "\x7b\"op\":\"put\",\"secret\":" ++ putSecretCodec.print secret) ++ textBytes "\x7d" := rfl
      rw [printed, front, close, ← write_put]
      simp [Mutation.serialize, JsonTree.write, writeMembers, joined, following]
  | delete reference =>
      have front : textBytes "\x7b\"op\":\"delete\",\"reference\":" =
        123 :: (textCodec.print "op" ++ 58 :: (textCodec.print "delete" ++ 44 :: (textCodec.print "reference" ++ [58]))) := by
        decide +kernel
      have printed : mutationCodec.print (.delete reference) =
        (textBytes "\x7b\"op\":\"delete\",\"reference\":" ++ referenceCodec.print reference) ++ textBytes "\x7d" := rfl
      rw [printed, front, close, ← write_reference]
      simp [Mutation.serialize, JsonTree.write, writeMembers, joined, following]

theorem to_writer_layout (mutations : List Mutation) : toWriter mutations = jsonCodec.toWriter mutations := by
  have single : JsonTree.write textCodec ∘ Mutation.serialize = mutationCodec.print := funext write_mutation
  have printed : jsonCodec.toWriter mutations = 91 :: Codec.printItems mutationCodec 44 93 mutations := rfl
  rw [printed, print_items_joined, toWriter, serializeMutations, JsonTree.write, write_elements_map, List.map_map, single]

end Bytes

/-- What commit reads back is what prepare was given, and no other batch has the same
payload. -/
theorem batch_payload_lossless (platform : Platform) (expiresAt : Int) (mutations : List Mutation) (fits : InI64 expiresAt) :
    ∃ payload, batchPayload platform.withSerde expiresAt mutations = .ok payload ∧
      payload.length = 8 + (toWriter mutations).length ∧
      splitExpiry payload = some (expiresAt, toWriter mutations) ∧
      platform.withSerde.codec.fromSlice (toWriter mutations) = some mutations ∧
      ∀ otherExpiry otherMutations, InI64 otherExpiry →
        batchPayload platform.withSerde otherExpiry otherMutations = .ok payload →
        otherExpiry = expiresAt ∧ otherMutations = mutations := by
  have split := split_expiry_payload expiresAt (toWriter mutations) fits
  refine ⟨_, batch_payload_ok platform.withSerde expiresAt mutations, ?_, split, from_written_to_writer mutations, ?_⟩
  · have width : (toBeBytes expiresAt).length = 8 := Framing.big_endian_length _ _
    rw [List.length_append, width]
    rfl
  · intro otherExpiry otherMutations otherFits same
    rw [batch_payload_ok, Except.ok.injEq] at same
    have otherSplit := split_expiry_payload otherExpiry (toWriter otherMutations) otherFits
    change toBeBytes otherExpiry ++ toWriter otherMutations = toBeBytes expiresAt ++ toWriter mutations at same
    rw [same, split, Option.some.injEq, Prod.mk.injEq] at otherSplit
    have read := from_written_to_writer mutations
    rw [otherSplit.2, from_written_to_writer, Option.some.injEq] at read
    exact ⟨otherSplit.1.symm, read⟩

namespace Sample

def fullBatch : List Mutation :=
  [.put ⟨⟨"t", "n/\"", "k"⟩, "user:one", [0, 255, 7], .userRevealable, ⟨[("a", "1"), ("b", "")], by decide⟩⟩,
    .delete ⟨"t", "n/\"", "k"⟩]

end Sample

theorem minus_one_fits : InI64 (-1) := by
  unfold InI64 i64Min i64Max
  omega

theorem full_batch_lossless : InI64 (-1) ∧
    ∃ payload, batchPayload countingPlatform.withSerde (-1) Sample.fullBatch = .ok payload ∧
      payload.length = 8 + (toWriter Sample.fullBatch).length ∧
      splitExpiry payload = some (-1, toWriter Sample.fullBatch) ∧
      countingPlatform.withSerde.codec.fromSlice (toWriter Sample.fullBatch) = some Sample.fullBatch ∧
      ∀ otherExpiry otherMutations, InI64 otherExpiry →
        batchPayload countingPlatform.withSerde otherExpiry otherMutations = .ok payload →
        otherExpiry = -1 ∧ otherMutations = Sample.fullBatch :=
  ⟨minus_one_fits, batch_payload_lossless countingPlatform (-1) Sample.fullBatch minus_one_fits⟩

end Secrets
