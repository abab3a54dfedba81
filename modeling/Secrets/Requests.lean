import Secrets.Http
import Secrets.Wire

set_option autoImplicit false

namespace Secrets

open Codecs Codecs.Codec
open Framing (Bytes)

-- Request bodies in the written form: fields in order, no white space.
def scopeCodec : Codec ScopeRequest :=
  (before (pair (field "\x7b\"tenant\":" textCodec) (field ",\"namespace\":" textCodec)) (textBytes "\x7d")).convert
    (fun scope => (scope.tenant, scope.nameSpace)) (fun parts => some ⟨parts.1, parts.2⟩) fun _ => rfl

def actorOf : Option String → Unit ⊕ String
  | none => .inl ()
  | some actor => .inr actor

def actorCodec : Codec (Option String) :=
  (choice (textBytes "\x7d") (textBytes ",\"actor\":") (literal []) (before textCodec (textBytes "\x7d"))
    (fun _ => rfl)).convert actorOf
    (fun
      | .inl _ => some none
      | .inr actor => some (some actor)) fun actor => by cases actor <;> rfl

def deleteRequestCodec : Codec DeleteRequest :=
  (pair (field "\x7b\"reference\":" referenceCodec) actorCodec).convert (fun input => (input.reference, input.actor))
    (fun parts => some ⟨parts.1, parts.2⟩) fun _ => rfl

def prepareRequestCodec : Codec PrepareRequest :=
  (before (pair (field "\x7b\"actor\":" textCodec) (field ",\"mutations\":" mutationsCodec)) (textBytes "\x7d")).convert
    (fun input => (input.actor, input.mutations)) (fun parts => some ⟨parts.1, parts.2⟩) fun _ => rfl

def Shape.codec : (shape : Shape) → Codec shape.Value
  | .reference => referenceCodec
  | .putSecret => putSecretCodec
  | .scope => scopeCodec
  | .deleteRequest => deleteRequestCodec
  | .prepareRequest => prepareRequestCodec

def hexPairs : Bytes → Option Bytes
  | [] => some []
  | [_] => none
  | high :: low :: rest =>
      match unhex high, unhex low, hexPairs rest with
      | some first, some second, some bytes => some (UInt8.ofNat (first * 16 + second) :: bytes)
      | _, _, _ => none

def uuidDigits (text : Bytes) : Option Bytes :=
  if text.length = 32 then some text
  else if text.length = 36 then undashed 45 text
  else if text.length = 38 then
    if text.head? = some 123 ∧ text.getLast? = some 125 then undashed 45 (text.drop 1).dropLast else none
  else if text.length = 45 then
    if text.take 9 = textBytes "urn:uuid:" then undashed 45 (text.drop 9) else none
  else none

def uuidOf (text : Bytes) : Option Uuid := do
  let digits ← uuidDigits text
  let bytes ← hexPairs digits
  if length : bytes.length = 16 then some ⟨bytes.toArray, by simpa using length⟩ else none

def wireExtractors : Extractors where
  json shape request :=
    if request.body.length > bodyLimit then .error payloadTooLarge
    else
      match readDocument shape.codec request.body with
      | some value => .ok value
      | none => .error 400
  path request :=
    match fromUtf8 request.segments.1, uuidOf request.segments.2 with
    | some tenant, some transaction => some (tenant, transaction)
    | _, _ => none

theorem wire_json_print (request : HttpRequest) (shape : Shape) (value : shape.Value)
    (short : ¬(shape.codec.print value).length > bodyLimit) (body : request.body = shape.codec.print value) :
    jsonBody wireExtractors shape request = .ok value := by
  simp only [jsonBody, wireExtractors, body, if_neg short, read_document_print]

end Secrets
