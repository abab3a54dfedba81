import Secrets.AssociatedData

set_option autoImplicit false

namespace Secrets

open Framing (Bytes)
open IdealAead (encrypt)

inductive Sealing where
  | secret (reference : SecretRef) (version : Int) (disclosure : Disclosure) (value : Bytes)
  | batch (tenant : String) (transaction : Uuid) (actor : String) (payload : Bytes)
deriving DecidableEq

namespace Sealing

def aad : Sealing → Bytes
  | .secret reference version disclosure _ => associatedData reference version disclosure
  | .batch tenant transaction actor _ => batchAssociatedData tenant transaction actor

def plaintext : Sealing → Bytes
  | .secret _ _ _ value => value
  | .batch _ _ _ payload => payload

def WellFormed : Sealing → Prop
  | .secret reference _ _ _ => validateRef reference = .ok ()
  | .batch tenant _ actor _ => FitsU64 tenant ∧ FitsU64 actor

def run (keyring : Keyring) (draw : Draw) : Sealing → Except CryptoError Envelope
  | .secret reference version disclosure value => keyring.encryptValue draw reference version disclosure value
  | .batch tenant transaction actor payload => keyring.sealBatch draw tenant transaction actor payload

theorem run_seal (keyring : Keyring) (draw : Draw) (input : Sealing) :
    input.run keyring draw = keyring.sealEnvelope draw input.aad input.plaintext := by
  cases input <;> rfl

theorem aad_unique (first second : Sealing) (firstWell : first.WellFormed) (secondWell : second.WellFormed)
    (aads : first.aad = second.aad) (plaintexts : first.plaintext = second.plaintext) : first = second := by
  cases first with
  | secret reference version disclosure value =>
      cases second with
      | secret other revision choice text =>
          obtain ⟨rfl, rfl, rfl⟩ := associated_data_unique _ _ _ _ _ _ firstWell secondWell aads
          cases plaintexts
          rfl
      | batch tenant transaction actor payload => exact absurd aads (batch_data_separated _ _ _ _ _ _)
  | batch tenant transaction actor payload =>
      cases second with
      | secret other revision choice text => exact absurd aads.symm (batch_data_separated _ _ _ _ _ _)
      | batch other id person load =>
          obtain ⟨rfl, rfl, rfl⟩ := batch_associated_data_unique _ _ _ _ _ _ firstWell.1 secondWell.1 aads
          cases plaintexts
          rfl

end Sealing

structure SealEvent where
  keyring : Keyring
  draw : Draw
  input : Sealing
  wellFormed : input.WellFormed
  envelope : Envelope
  made : input.run keyring draw = .ok envelope

namespace SealEvent

theorem shape (event : SealEvent) :
    event.envelope =
      { ciphertext := encrypt event.draw.dek event.draw.valueNonce event.input.aad event.input.plaintext
        valueNonce := event.draw.valueNonce
        wrappedKey := encrypt event.keyring.activeKey event.draw.wrapNonce event.input.aad event.draw.dek.toList
        wrapNonce := event.draw.wrapNonce
        keyId := event.keyring.active } := by
  have made := event.made
  rw [Sealing.run_seal, Keyring.sealEnvelope, Keyring.get_active] at made
  exact (Except.ok.inj made).symm

theorem sealed (event : SealEvent) :
    SealedUnder event.keyring.activeKey event.input.aad event.input.plaintext event.envelope := by
  rw [event.shape]
  exact ⟨event.draw.dek, rfl, rfl⟩

end SealEvent

def SameSealed (left right : Envelope) : Prop :=
  left = { right with keyId := left.keyId }

structure Seal where
  keyring : Keyring
  draw : Draw
  aad : Bytes
  plaintext : Bytes

def Seal.envelope (sealing : Seal) : Envelope := sealing.keyring.envelopeOf sealing.draw sealing.aad sealing.plaintext

def ColumnOf (made : Seal → Prop) (blob : Blob) : Prop :=
  ∃ sealing, made sealing ∧ (blob = sealing.envelope.ciphertext ∨ blob = sealing.envelope.wrappedKey)

structure FreshSeals (made : Seal → Prop) (reader : Keyring) : Prop where
  distinct : ∀ first second, made first → made second → first.draw.dek = second.draw.dek → first = second
  notReader : ∀ sealing, made sealing → ∀ id, reader.get id ≠ some sealing.draw.dek
  notActive : ∀ sealing, made sealing → ∀ other, made other → other.keyring.activeKey ≠ sealing.draw.dek

theorem opened_made (made : Seal → Prop) (reader : Keyring) (envelope : Envelope) (key : Key) (aad plaintext : Bytes)
    (fresh : FreshSeals made reader) (outer : ColumnOf made envelope.wrappedKey)
    (inner : ∀ sealing, made sealing → envelope.ciphertext.madeUnder sealing.draw.dek → ColumnOf made envelope.ciphertext)
    (held : reader.get envelope.keyId = some key) (under : SealedUnder key aad plaintext envelope) :
    ∃ sealing, made sealing ∧ sealing.aad = aad ∧ sealing.plaintext = plaintext ∧ sealing.keyring.activeKey = key ∧
      SameSealed envelope sealing.envelope := by
  obtain ⟨dek, wrapped, cipher⟩ := under
  obtain ⟨sealing, known, column⟩ := outer
  rw [wrapped] at column
  simp only [Seal.envelope, Keyring.envelopeOf, encrypt, IdealAead.Blob.sealed.injEq] at column
  -- A data key is no keyring key, so neither column holds the other's blob.
  rcases column with swapped | ⟨keys, wrapNonces, aads, deks⟩
  · exact absurd (swapped.1 ▸ held) (fresh.notReader sealing known _)
  have dekSame : dek = sealing.draw.dek := Vector.toList_inj.mp deks
  obtain ⟨other, knownToo, column⟩ := inner sealing known (by rw [cipher, ← dekSame]; rfl)
  rw [cipher] at column
  simp only [Seal.envelope, Keyring.envelopeOf, encrypt, IdealAead.Blob.sealed.injEq] at column
  rcases column with ⟨innerDek, valueNonces, _, plaintexts⟩ | swapped
  · have same : other = sealing := fresh.distinct _ _ knownToo known (innerDek.symm.trans dekSame)
    subst same
    refine ⟨other, known, aads.symm, plaintexts.symm, keys.symm, ?_⟩
    cases envelope
    rw [SameSealed]
    simp only at wrapped cipher wrapNonces valueNonces
    simp only [wrapped, cipher, wrapNonces, valueNonces, keys, aads, innerDek, plaintexts, encrypt, Seal.envelope,
      Keyring.envelopeOf]
  · exact absurd (swapped.1.symm.trans dekSame) (fresh.notActive sealing known other knownToo)

def SealEvent.toSeal (event : SealEvent) : Seal := ⟨event.keyring, event.draw, event.input.aad, event.input.plaintext⟩

theorem SealEvent.to_seal_envelope (event : SealEvent) : event.toSeal.envelope = event.envelope := event.shape.symm

def SealedIn (history : List SealEvent) (sealing : Seal) : Prop := ∃ event ∈ history, event.toSeal = sealing

def FreshKeys (history : List SealEvent) (reader : Keyring) : Prop := FreshSeals (SealedIn history) reader

-- Both byte columns come from sealed envelopes, of any two of them and in
-- either column; nonces and key id are unconstrained.
structure Assembled (history : List SealEvent) (envelope : Envelope) : Prop where
  ciphertext : ColumnOf (SealedIn history) envelope.ciphertext
  wrappedKey : ColumnOf (SealedIn history) envelope.wrappedKey

theorem assembled_under (history : List SealEvent) (reader : Keyring) (envelope : Envelope) (key : Key)
    (aad plaintext : Bytes) (fresh : FreshKeys history reader) (assembled : Assembled history envelope)
    (held : reader.get envelope.keyId = some key) (under : SealedUnder key aad plaintext envelope) :
    ∃ event ∈ history, event.input.aad = aad ∧ event.input.plaintext = plaintext ∧
      event.keyring.activeKey = key ∧ SameSealed envelope event.envelope := by
  obtain ⟨_, ⟨event, member, rfl⟩, aads, plaintexts, keys, same⟩ := opened_made _ reader envelope key aad plaintext fresh
    assembled.wrappedKey (fun _ _ _ => assembled.ciphertext) held under
  exact ⟨event, member, aads, plaintexts, keys, by rwa [event.to_seal_envelope] at same⟩

theorem same_sealed_under (envelope other : Envelope) (key : Key) (aad plaintext : Bytes)
    (same : SameSealed envelope other) (under : SealedUnder key aad plaintext other) :
    SealedUnder key aad plaintext envelope := by
  rw [same]
  exact under

theorem assembled_opens (history : List SealEvent) (reader : Keyring) (envelope : Envelope) (input : Sealing)
    (fresh : FreshKeys history reader) (assembled : Assembled history envelope) (wellFormed : input.WellFormed) :
    reader.openEnvelope input.aad envelope = .ok input.plaintext ↔
      ∃ event ∈ history, event.input = input ∧ SameSealed envelope event.envelope ∧
        reader.get envelope.keyId = some event.keyring.activeKey := by
  rw [open_ok]
  constructor
  · rintro ⟨key, held, under⟩
    obtain ⟨event, member, aads, plaintexts, keys, same⟩ :=
      assembled_under history reader envelope key _ _ fresh assembled held under
    exact ⟨event, member, Sealing.aad_unique _ _ event.wellFormed wellFormed aads plaintexts, same, keys ▸ held⟩
  · rintro ⟨event, _, rfl, same, held⟩
    exact ⟨event.keyring.activeKey, held, same_sealed_under _ _ _ _ _ same event.sealed⟩

theorem foreign_kind_fails (event : SealEvent) (reader : Keyring) (aad : Bytes) (different : event.input.aad ≠ aad) :
    ∀ plaintext, reader.openEnvelope aad event.envelope ≠ .ok plaintext := by
  intro plaintext opened
  obtain ⟨key, _, under⟩ := (open_ok _ _ _ _).mp opened
  exact different (sealed_under_unique _ _ _ _ _ _ _ event.sealed under).2.1

/-- What opens was sealed for just this use, by the very seal whose columns it has; only the
key id is not bound. -/
theorem envelope_binding (history : List SealEvent) (reader : Keyring) (envelope : Envelope)
    (fresh : FreshKeys history reader) (assembled : Assembled history envelope) :
    (∀ reference version disclosure value, validateRef reference = .ok () →
      (reader.decryptValue reference version disclosure envelope = .ok value ↔
        ∃ event ∈ history, event.input = .secret reference version disclosure value ∧
          SameSealed envelope event.envelope ∧ reader.get envelope.keyId = some event.keyring.activeKey)) ∧
    (∀ tenant transaction actor payload, FitsU64 tenant → FitsU64 actor →
      (reader.openBatch tenant transaction actor envelope = .ok payload ↔
        ∃ event ∈ history, event.input = .batch tenant transaction actor payload ∧
          SameSealed envelope event.envelope ∧ reader.get envelope.keyId = some event.keyring.activeKey)) ∧
    (∀ event ∈ history, ∀ keyring : Keyring,
      match event.input with
      | .secret _ _ _ _ => ∀ tenant transaction actor payload,
          keyring.openBatch tenant transaction actor event.envelope ≠ .ok payload
      | .batch _ _ _ _ => ∀ reference version disclosure value,
          keyring.decryptValue reference version disclosure event.envelope ≠ .ok value) ∧
    (∀ event ∈ history, SameSealed envelope event.envelope →
      reader.get envelope.keyId = some event.keyring.activeKey →
      (∀ id, reader.get id = some event.keyring.activeKey → id = event.keyring.active) →
      envelope = event.envelope) := by
  refine ⟨?_, ?_, ?_, ?_⟩
  · intro reference version disclosure value valid
    exact assembled_opens history reader envelope (.secret reference version disclosure value) fresh assembled valid
  · intro tenant transaction actor payload tenantFits actorFits
    exact assembled_opens history reader envelope (.batch tenant transaction actor payload) fresh assembled
      ⟨tenantFits, actorFits⟩
  · intro event _ keyring
    cases kind : event.input with
    | secret reference version disclosure value =>
        intro tenant transaction actor payload
        exact foreign_kind_fails event keyring _ (by rw [kind]; exact batch_data_separated _ _ _ _ _ _) payload
    | batch tenant transaction actor payload =>
        intro reference version disclosure value
        exact foreign_kind_fails event keyring _ (by rw [kind]; exact (batch_data_separated _ _ _ _ _ _).symm) value
  · intro event _ same held onlyId
    have named : event.envelope.keyId = envelope.keyId := by
      rw [onlyId _ held, event.shape]
    rw [same, ← named]

namespace KeyIdSwap

def sharedKey : Key := Vector.replicate 32 7

def ring (active : String) (present : (List.lookup active [("v1", sharedKey), ("v2", sharedKey)]).isSome) : Keyring :=
  ⟨active, [("v1", sharedKey), ("v2", sharedKey)], present⟩

def draw (byte : UInt8) : Draw :=
  ⟨Vector.replicate 16 byte, Vector.replicate 32 byte, Vector.replicate 12 byte, Vector.replicate 12 byte⟩

def reference : SecretRef := ⟨"t", "n", "k"⟩

def sealedAs (keyring : Keyring) (byte : UInt8) (version : Int) : SealEvent where
  keyring := keyring
  draw := draw byte
  input := .secret reference version .workloadOnly [byte]
  wellFormed := show validateRef reference = .ok () by decide
  envelope := {
    ciphertext := encrypt (draw byte).dek (draw byte).valueNonce (associatedData reference version .workloadOnly) [byte]
    valueNonce := (draw byte).valueNonce
    wrappedKey := encrypt keyring.activeKey (draw byte).wrapNonce (associatedData reference version .workloadOnly)
      (draw byte).dek.toList
    wrapNonce := (draw byte).wrapNonce
    keyId := keyring.active }
  made := by
    rw [Sealing.run_seal, Keyring.sealEnvelope, Keyring.get_active]
    rfl

def first : SealEvent := sealedAs (ring "v1" (by decide)) 1 1
def second : SealEvent := sealedAs (ring "v2" (by decide)) 2 2

theorem fresh : FreshKeys [first, second] (ring "v1" (by decide)) where
  distinct := by
    rintro _ _ ⟨event, member, rfl⟩ ⟨other, there, rfl⟩ same
    rcases List.mem_pair.mp member with rfl | rfl <;> rcases List.mem_pair.mp there with rfl | rfl
    · rfl
    · exact absurd same (by decide)
    · exact absurd same (by decide)
    · rfl
  notReader := by
    rintro _ ⟨event, member, rfl⟩ id held
    have shared : event.draw.dek = sharedKey := by
      have listed := Keyring.get_mem _ _ _ held
      simp only [ring, List.mem_cons, Prod.mk.injEq, List.not_mem_nil, or_false] at listed
      exact listed.elim And.right And.right
    rcases List.mem_pair.mp member with rfl | rfl
    · exact absurd shared (by decide)
    · exact absurd shared (by decide)
  notActive := by
    rintro _ ⟨event, member, rfl⟩ _ ⟨other, there, rfl⟩
    rcases List.mem_pair.mp member with rfl | rfl <;> rcases List.mem_pair.mp there with rfl | rfl <;> decide

end KeyIdSwap

theorem key_id_not_bound : ¬ ∀ (history : List SealEvent) (reader : Keyring) (envelope : Envelope),
    FreshKeys history reader →
    (∃ event ∈ history, envelope.ciphertext = event.envelope.ciphertext) →
    (∃ event ∈ history, envelope.valueNonce = event.envelope.valueNonce) →
    (∃ event ∈ history, envelope.wrappedKey = event.envelope.wrappedKey) →
    (∃ event ∈ history, envelope.wrapNonce = event.envelope.wrapNonce) →
    (∃ event ∈ history, envelope.keyId = event.envelope.keyId) →
    ∀ reference version disclosure value, validateRef reference = .ok () →
      (reader.decryptValue reference version disclosure envelope = .ok value ↔
        ∃ event ∈ history, event.input = .secret reference version disclosure value ∧
          envelope = event.envelope ∧ reader.get envelope.keyId = some event.keyring.activeKey) := by
  intro claim
  have opened := (claim [KeyIdSwap.first, KeyIdSwap.second] (KeyIdSwap.ring "v1" (by decide))
    { KeyIdSwap.first.envelope with keyId := "v2" } KeyIdSwap.fresh
    ⟨KeyIdSwap.first, by simp, rfl⟩ ⟨KeyIdSwap.first, by simp, rfl⟩ ⟨KeyIdSwap.first, by simp, rfl⟩
    ⟨KeyIdSwap.first, by simp, rfl⟩ ⟨KeyIdSwap.second, by simp, rfl⟩
    KeyIdSwap.reference 1 .workloadOnly [1] (by decide)).mp
    ((open_ok _ _ _ _).mpr ⟨KeyIdSwap.sharedKey, by decide, same_sealed_under _ _ _ _ _ rfl KeyIdSwap.first.sealed⟩)
  obtain ⟨event, member, _, same, _⟩ := opened
  have ids := congrArg Envelope.keyId same
  have ciphers := congrArg Envelope.ciphertext same
  rcases List.mem_pair.mp member with rfl | rfl
  · exact absurd ids (by decide)
  · exact absurd ciphers (by decide)

theorem envelope_binding_swapped :
    Assembled [KeyIdSwap.first, KeyIdSwap.second] { KeyIdSwap.first.envelope with keyId := "v2" } ∧
    ∃ event ∈ [KeyIdSwap.first, KeyIdSwap.second],
      event.input = .secret KeyIdSwap.reference 1 .workloadOnly [1] ∧
        SameSealed { KeyIdSwap.first.envelope with keyId := "v2" } event.envelope ∧
        (KeyIdSwap.ring "v1" (by decide)).get "v2" = some event.keyring.activeKey := by
  have assembled : Assembled [KeyIdSwap.first, KeyIdSwap.second] { KeyIdSwap.first.envelope with keyId := "v2" } :=
    ⟨⟨_, ⟨KeyIdSwap.first, by simp, rfl⟩, .inl rfl⟩, ⟨_, ⟨KeyIdSwap.first, by simp, rfl⟩, .inr rfl⟩⟩
  have binding := envelope_binding _ _ _ KeyIdSwap.fresh assembled
  refine ⟨assembled, (binding.1 KeyIdSwap.reference 1 .workloadOnly [1] (by decide)).mp ?_⟩
  exact (open_ok _ _ _ _).mpr
    ⟨KeyIdSwap.sharedKey, by decide, same_sealed_under _ _ _ _ _ rfl KeyIdSwap.first.sealed⟩

end Secrets
