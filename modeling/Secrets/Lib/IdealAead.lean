import Mathlib.Logic.Basic

set_option autoImplicit false

namespace IdealAead

-- An ideal authenticated cipher. A ciphertext is the record of the encryption
-- that made it, so none opens under another key, nonce or associated data and
-- none can be made without the key. `raw` is any other byte string.
inductive Blob (Key Nonce Plain : Type) where
  | sealed (key : Key) (nonce : Nonce) (aad : Plain) (message : Plain)
  | raw (bytes : Plain)
deriving DecidableEq, Repr

variable {Key Nonce Plain : Type}

def Blob.madeUnder (key : Key) : Blob Key Nonce Plain → Prop
  | .sealed used _ _ _ => used = key
  | .raw _ => False

instance [DecidableEq Key] (key : Key) (blob : Blob Key Nonce Plain) : Decidable (blob.madeUnder key) :=
  match blob with
  | .sealed used _ _ _ => inferInstanceAs (Decidable (used = key))
  | .raw _ => .isFalse id

def encrypt (key : Key) (nonce : Nonce) (aad message : Plain) : Blob Key Nonce Plain :=
  .sealed key nonce aad message

variable [DecidableEq Key] [DecidableEq Nonce] [DecidableEq Plain]

def decrypt (key : Key) (nonce : Nonce) (aad : Plain) : Blob Key Nonce Plain → Option Plain
  | .sealed usedKey usedNonce usedAad message =>
      if usedKey = key ∧ usedNonce = nonce ∧ usedAad = aad then some message else none
  | .raw _ => none

@[simp] theorem decrypt_encrypt (key : Key) (nonce : Nonce) (aad message : Plain) :
    decrypt key nonce aad (encrypt key nonce aad message) = some message := by
  simp [decrypt, encrypt]

theorem decrypt_some (key : Key) (nonce : Nonce) (aad message : Plain) (blob : Blob Key Nonce Plain) :
    decrypt key nonce aad blob = some message ↔ blob = encrypt key nonce aad message := by
  cases blob with
  | sealed usedKey usedNonce usedAad text =>
      by_cases same : usedKey = key ∧ usedNonce = nonce ∧ usedAad = aad
      · obtain ⟨rfl, rfl, rfl⟩ := same
        simp [decrypt, encrypt]
      · simp only [decrypt, if_neg same, reduceCtorEq, encrypt, Blob.sealed.injEq, false_iff]
        rintro ⟨keys, nonces, aads, _⟩
        exact same ⟨keys, nonces, aads⟩
  | raw bytes => simp [decrypt, encrypt]

end IdealAead
