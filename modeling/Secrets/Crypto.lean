import Secrets.Core
import Secrets.Lib.IdealAead

set_option autoImplicit false

namespace Secrets

open Framing (Bytes bigEndian prefixed)
open IdealAead (encrypt decrypt)

abbrev Key := Vector UInt8 32
abbrev Nonce := Vector UInt8 12
abbrev Blob := IdealAead.Blob Key Nonce Bytes

structure Envelope where
  ciphertext : Blob
  valueNonce : Nonce
  wrappedKey : Blob
  wrapNonce : Nonce
  keyId : String
deriving DecidableEq, Repr

inductive CryptoError where
  | invalidKeyring
  | failed
  | keyNotFound
deriving DecidableEq, Repr

structure Draw where
  uuid : Uuid
  dek : Key
  valueNonce : Nonce
  wrapNonce : Nonce

structure Keyring where
  active : String
  keys : List (String × Key)
  holdsActive : (keys.lookup active).isSome

namespace Keyring

def get (keyring : Keyring) (id : String) : Option Key := keyring.keys.lookup id

def keyIds (keyring : Keyring) : List String := keyring.keys.map Prod.fst

def activeKey (keyring : Keyring) : Key := (keyring.keys.lookup keyring.active).get keyring.holdsActive

@[simp] theorem get_active (keyring : Keyring) : keyring.get keyring.active = some keyring.activeKey := by
  simp [get, activeKey]

theorem get_mem (keyring : Keyring) (id : String) (key : Key) (held : keyring.get id = some key) :
    (id, key) ∈ keyring.keys := by
  obtain ⟨before, after, split, _⟩ := List.lookup_eq_some_iff.mp held
  rw [split]
  simp

end Keyring

def newFromSlice (bytes : Bytes) : Except CryptoError Key :=
  if length : bytes.length = 32 then .ok ⟨bytes.toArray, by simpa using length⟩ else .error .failed

theorem new_from_slice_ok (bytes : Bytes) (key : Key) : newFromSlice bytes = .ok key ↔ bytes = key.toList := by
  unfold newFromSlice
  split
  · rename_i length
    rw [Except.ok.injEq, ← Vector.toList_inj]
    simp
  · rename_i length
    simp only [reduceCtorEq, false_iff]
    rintro rfl
    simp at length

namespace Keyring

def sealEnvelope (keyring : Keyring) (draw : Draw) (aad plaintext : Bytes) : Except CryptoError Envelope :=
  match keyring.get keyring.active with
  | none => .error .keyNotFound
  | some key => .ok {
      ciphertext := encrypt draw.dek draw.valueNonce aad plaintext
      valueNonce := draw.valueNonce
      wrappedKey := encrypt key draw.wrapNonce aad draw.dek.toList
      wrapNonce := draw.wrapNonce
      keyId := keyring.active }

def openEnvelope (keyring : Keyring) (aad : Bytes) (envelope : Envelope) : Except CryptoError Bytes :=
  match keyring.get envelope.keyId with
  | none => .error .keyNotFound
  | some key =>
      match decrypt key envelope.wrapNonce aad envelope.wrappedKey with
      | none => .error .failed
      | some dek =>
          match newFromSlice dek with
          | .error error => .error error
          | .ok dek =>
              match decrypt dek envelope.valueNonce aad envelope.ciphertext with
              | none => .error .failed
              | some plaintext => .ok plaintext

end Keyring

-- Both layers of an envelope were made with one data key over the same
-- associated data, the outer one under `key`.
def SealedUnder (key : Key) (aad plaintext : Bytes) (envelope : Envelope) : Prop :=
  ∃ dek : Key, envelope.wrappedKey = encrypt key envelope.wrapNonce aad dek.toList ∧
    envelope.ciphertext = encrypt dek envelope.valueNonce aad plaintext

theorem open_ok (keyring : Keyring) (aad plaintext : Bytes) (envelope : Envelope) :
    keyring.openEnvelope aad envelope = .ok plaintext ↔
      ∃ key, keyring.get envelope.keyId = some key ∧ SealedUnder key aad plaintext envelope := by
  constructor
  · intro opened
    unfold Keyring.openEnvelope at opened
    cases held : keyring.get envelope.keyId with
    | none => simp [held] at opened
    | some key =>
        cases unwrapped : decrypt key envelope.wrapNonce aad envelope.wrappedKey with
        | none => simp [held, unwrapped] at opened
        | some bytes =>
            cases sized : newFromSlice bytes with
            | error error => simp [held, unwrapped, sized] at opened
            | ok dek =>
                cases inner : decrypt dek envelope.valueNonce aad envelope.ciphertext with
                | none => simp [held, unwrapped, sized, inner] at opened
                | some text =>
                    have same : text = plaintext := by simpa [held, unwrapped, sized, inner] using opened
                    refine ⟨key, rfl, dek, ?_, ?_⟩
                    · rw [← (new_from_slice_ok bytes dek).mp sized]
                      exact (IdealAead.decrypt_some _ _ _ _ _).mp unwrapped
                    · rw [← same]
                      exact (IdealAead.decrypt_some _ _ _ _ _).mp inner
  · rintro ⟨key, held, dek, wrapped, cipher⟩
    have sized : newFromSlice dek.toList = .ok dek := (new_from_slice_ok _ _).mpr rfl
    simp [Keyring.openEnvelope, held, wrapped, cipher, sized]

theorem sealed_under_unique (first second : Key) (aad other plaintext text : Bytes) (envelope : Envelope)
    (left : SealedUnder first aad plaintext envelope) (right : SealedUnder second other text envelope) :
    first = second ∧ aad = other ∧ plaintext = text := by
  obtain ⟨dek, wrapped, cipher⟩ := left
  obtain ⟨key, rewrapped, recipher⟩ := right
  rw [wrapped] at rewrapped
  rw [cipher] at recipher
  simp only [encrypt, IdealAead.Blob.sealed.injEq] at rewrapped recipher
  exact ⟨rewrapped.1, rewrapped.2.2.1, recipher.2.2.2⟩

theorem seal_total (keyring : Keyring) (draw : Draw) (aad plaintext : Bytes) :
    ∃ envelope, keyring.sealEnvelope draw aad plaintext = .ok envelope := by
  simp [Keyring.sealEnvelope]

theorem seal_sealed_under (keyring : Keyring) (draw : Draw) (aad plaintext : Bytes) (envelope : Envelope)
    (made : keyring.sealEnvelope draw aad plaintext = .ok envelope) :
    envelope.keyId = keyring.active ∧ SealedUnder keyring.activeKey aad plaintext envelope := by
  rw [Keyring.sealEnvelope, Keyring.get_active] at made
  cases made
  exact ⟨rfl, draw.dek, rfl, rfl⟩

def Keyring.envelopeOf (keyring : Keyring) (draw : Draw) (aad plaintext : Bytes) : Envelope :=
  { ciphertext := encrypt draw.dek draw.valueNonce aad plaintext
    valueNonce := draw.valueNonce
    wrappedKey := encrypt keyring.activeKey draw.wrapNonce aad draw.dek.toList
    wrapNonce := draw.wrapNonce
    keyId := keyring.active }

@[simp] theorem seal_envelope_of (keyring : Keyring) (draw : Draw) (aad plaintext : Bytes) :
    keyring.sealEnvelope draw aad plaintext = .ok (keyring.envelopeOf draw aad plaintext) := by
  rw [Keyring.sealEnvelope, Keyring.get_active]
  rfl

theorem envelope_of_sealed (keyring : Keyring) (draw : Draw) (aad plaintext : Bytes) :
    SealedUnder keyring.activeKey aad plaintext (keyring.envelopeOf draw aad plaintext) :=
  ⟨draw.dek, rfl, rfl⟩

theorem open_seal (keyring reader : Keyring) (draw : Draw) (aad plaintext : Bytes) (envelope : Envelope)
    (made : keyring.sealEnvelope draw aad plaintext = .ok envelope)
    (held : reader.get keyring.active = some keyring.activeKey) :
    reader.openEnvelope aad envelope = .ok plaintext := by
  obtain ⟨named, under⟩ := seal_sealed_under keyring draw aad plaintext envelope made
  exact (open_ok reader aad plaintext envelope).mpr ⟨keyring.activeKey, by rw [named, held], under⟩

def separator : String := String.singleton nul

def disclosureName : Disclosure → String
  | .workloadOnly => "WorkloadOnly"
  | .userRevealable => "UserRevealable"

def associatedText (reference : SecretRef) (version : Int) (disclosure : Disclosure) : String :=
  "secrets/v1" ++ (separator ++ (reference.tenant ++ (separator ++ (reference.nameSpace ++ (separator ++
    (reference.key ++ (separator ++ (version.repr ++ (separator ++ disclosureName disclosure)))))))))

def associatedData (reference : SecretRef) (version : Int) (disclosure : Disclosure) : Bytes :=
  textBytes (associatedText reference version disclosure)

def batchAssociatedData (tenant : String) (transaction : Uuid) (actor : String) : Bytes :=
  textBytes ("secrets/prepared-batch/v1" ++ separator) ++ prefixed 8 (textBytes tenant) ++
    transaction.toList ++ prefixed 8 (textBytes actor)

namespace Keyring

def encryptValue (keyring : Keyring) (draw : Draw) (reference : SecretRef) (version : Int)
    (disclosure : Disclosure) (value : Bytes) : Except CryptoError Envelope :=
  keyring.sealEnvelope draw (associatedData reference version disclosure) value

def decryptValue (keyring : Keyring) (reference : SecretRef) (version : Int)
    (disclosure : Disclosure) (envelope : Envelope) : Except CryptoError Bytes :=
  keyring.openEnvelope (associatedData reference version disclosure) envelope

def sealBatch (keyring : Keyring) (draw : Draw) (tenant : String) (transaction : Uuid) (actor : String)
    (batch : Bytes) : Except CryptoError Envelope :=
  keyring.sealEnvelope draw (batchAssociatedData tenant transaction actor) batch

def openBatch (keyring : Keyring) (tenant : String) (transaction : Uuid) (actor : String)
    (envelope : Envelope) : Except CryptoError Bytes :=
  keyring.openEnvelope (batchAssociatedData tenant transaction actor) envelope

def resealBatch (keyring : Keyring) (draw : Draw) (tenant : String) (transaction : Uuid) (actor : String)
    (envelope : Envelope) : Except CryptoError Envelope :=
  match keyring.openEnvelope (batchAssociatedData tenant transaction actor) envelope with
  | .error error => .error error
  | .ok batch => keyring.sealEnvelope draw (batchAssociatedData tenant transaction actor) batch

end Keyring
end Secrets
