import Secrets.Storage

set_option autoImplicit false

namespace Secrets

open Codecs

section Digits

theorem decimal_injective (first second : Nat) (same : first.repr = second.repr) : first = second := by
  have digits := congrArg String.toList same
  rw [Nat.toList_repr, Nat.toList_repr] at digits
  rw [← Nat.ofDigitChars_ten_toDigits (n := first), digits, Nat.ofDigitChars_ten_toDigits]

theorem hex_char_injective (first second : Fin 16) (same : Char.ofNat (hexDigit first).toNat = Char.ofNat (hexDigit second).toNat) :
    first = second := by
  revert first second
  decide

theorem hex_pairs_injective (first second : List UInt8)
    (same : (first.flatMap fun byte => [Char.ofNat (hexDigit (byte.toNat / 16)).toNat, Char.ofNat (hexDigit (byte.toNat % 16)).toNat]) =
      second.flatMap fun byte => [Char.ofNat (hexDigit (byte.toNat / 16)).toNat, Char.ofNat (hexDigit (byte.toNat % 16)).toNat]) :
    first = second := by
  induction first generalizing second with
  | nil =>
      cases second with
      | nil => rfl
      | cons byte rest => cases same
  | cons byte rest ih =>
      cases second with
      | nil => cases same
      | cons other others =>
          simp only [List.flatMap_cons, List.cons_append, List.nil_append, List.cons.injEq] at same
          obtain ⟨high, low, tail⟩ := same
          have small := byte.toNat_lt
          have little := other.toNat_lt
          have upper := hex_char_injective ⟨byte.toNat / 16, by omega⟩ ⟨other.toNat / 16, by omega⟩ high
          have lower := hex_char_injective ⟨byte.toNat % 16, by omega⟩ ⟨other.toNat % 16, by omega⟩ low
          simp only [Fin.mk.injEq] at upper lower
          rw [UInt8.toNat_inj.mp (show byte.toNat = other.toNat by omega), ih others tail]

theorem simple_injective (first second : Uuid) (same : simple first = simple second) : first = second := by
  have bytes := hex_pairs_injective first.toList second.toList (String.ofList_injective same)
  exact Vector.toList_inj.mp bytes

theorem simple_length (id : Uuid) : (simple id).toList.length = 32 := by
  simp [simple, List.length_flatMap]

end Digits

def hyphenated (id : Uuid) : String := String.ofList (dashed '-' (simple id).toList)

theorem hyphenated_injective (first second : Uuid) (same : hyphenated first = hyphenated second) : first = second :=
  simple_injective first second (String.toList_injective
    (dashed_injective _ _ _ (simple_length first) (simple_length second) (String.ofList_injective same)))

end Secrets
