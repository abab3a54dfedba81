import Mathlib.Data.Set.Image
import Secrets.KeychainMap
import Secrets.Remote

set_option autoImplicit false

namespace Secrets

-- The keychain's users and the custody service's references name an address
-- each, and nothing else does.
structure KeysExact : Prop where
  user : ∀ (user : String) (address : Address), Keychain.decodeUser user = some address ↔ Keychain.entryUser address = user
  users : Function.Injective Keychain.entryUser
  accepted : ∀ user, (Keychain.decodeUser user).isSome = true ↔ user ∈ Set.range Keychain.entryUser
  written : ∀ (scope : Scope) (address : Address),
    Remote.address scope (Remote.reference address) = if address.scope = scope then some address else none
  reference : ∀ (scope : Scope) (reference : SecretRef) (address : Address),
    Remote.address scope reference = some address ↔ Remote.reference address = reference ∧ address.scope = scope

theorem decode_user_exact (user : String) (address : Address) :
    Keychain.decodeUser user = some address ↔ Keychain.entryUser address = user := by
  constructor
  · intro decoded
    exact (Keychain.decode_user_some user address decoded).symm
  · intro written
    rw [← written]
    exact Keychain.decode_entry_user address

theorem entry_user_injective : Function.Injective Keychain.entryUser := by
  intro first second same
  have decoded := Keychain.decode_entry_user second
  rw [← same, Keychain.decode_entry_user first] at decoded
  exact Option.some.inj decoded

theorem decode_user_accepts (user : String) : (Keychain.decodeUser user).isSome = true ↔ user ∈ Set.range Keychain.entryUser := by
  rw [Option.isSome_iff_exists]
  exact exists_congr fun address => decode_user_exact user address

theorem address_exact (scope : Scope) (reference : SecretRef) (address : Address) :
    Remote.address scope reference = some address ↔ Remote.reference address = reference ∧ address.scope = scope := by
  constructor
  · intro found
    exact (address_some scope reference address found).symm
  · intro ⟨written, within⟩
    rw [← written]
    exact (address_reference scope address).mpr within

theorem address_written (scope : Scope) (address : Address) :
    Remote.address scope (Remote.reference address) = if address.scope = scope then some address else none := by
  by_cases within : address.scope = scope
  · rw [if_pos within]
    exact (address_reference scope address).mpr within
  · rw [if_neg within]
    cases found : Remote.address scope (Remote.reference address) with
    | none => rfl
    | some other =>
        obtain ⟨same, there⟩ := (address_exact scope _ other).mp found
        rw [reference_injective other address same] at there
        exact absurd there within

theorem keys_exact : KeysExact where
  user := decode_user_exact
  users := entry_user_injective
  accepted := decode_user_accepts
  written := address_written
  reference := address_exact

end Secrets
