import Mathlib.Tactic.IntervalCases
import Secrets.Lib.Framing

set_option autoImplicit false

namespace Base64

open Framing (Bytes)

def digit (value : Nat) : UInt8 :=
  if value < 26 then UInt8.ofNat (65 + value)
  else if value < 52 then UInt8.ofNat (71 + value)
  else if value < 62 then UInt8.ofNat (value - 4)
  else if value = 62 then 43 else 47

def undigit (byte : UInt8) : Option Nat :=
  if 65 ≤ byte ∧ byte ≤ 90 then some (byte.toNat - 65)
  else if 97 ≤ byte ∧ byte ≤ 122 then some (byte.toNat - 71)
  else if 48 ≤ byte ∧ byte ≤ 57 then some (byte.toNat + 4)
  else if byte = 43 then some 62
  else if byte = 47 then some 63
  else none

theorem undigit_digit (value : Nat) (small : value < 64) : undigit (digit value) = some value := by
  interval_cases value <;> decide

theorem digit_not_pad (value : Nat) (small : value < 64) : digit value ≠ 61 := by
  interval_cases value <;> decide

-- Three bytes make four digits; one or two left over are padded with `=`.
def encode : Bytes → Bytes
  | [] => []
  | [first] => [digit (first.toNat / 4), digit (first.toNat % 4 * 16), 61, 61]
  | [first, second] =>
      [digit (first.toNat / 4), digit (first.toNat % 4 * 16 + second.toNat / 16), digit (second.toNat % 16 * 4), 61]
  | first :: second :: third :: rest =>
      digit (first.toNat / 4) :: digit (first.toNat % 4 * 16 + second.toNat / 16) ::
        digit (second.toNat % 16 * 4 + third.toNat / 64) :: digit (third.toNat % 64) :: encode rest

def decodeLast (first second third : UInt8) : Option Bytes := do
  let high ← undigit first
  let middle ← undigit second
  if third = 61 then
    if middle % 16 = 0 then some [UInt8.ofNat (high * 4 + middle / 16)] else none
  else
    let low ← undigit third
    if low % 4 = 0 then some [UInt8.ofNat (high * 4 + middle / 16), UInt8.ofNat (middle % 16 * 16 + low / 4)] else none

def decode : Bytes → Option Bytes
  | [] => some []
  | first :: second :: third :: fourth :: rest =>
      if fourth = 61 then if rest = [] then decodeLast first second third else none
      else do
        let high ← undigit first
        let middle ← undigit second
        let low ← undigit third
        let last ← undigit fourth
        let tail ← decode rest
        some (UInt8.ofNat (high * 4 + middle / 16) :: UInt8.ofNat (middle % 16 * 16 + low / 4) ::
          UInt8.ofNat (low % 4 * 64 + last) :: tail)
  | _ => none

theorem byte_of (byte : UInt8) (value : Nat) (same : value = byte.toNat) : UInt8.ofNat value = byte := by
  rw [same, UInt8.ofNat_toNat]

theorem decode_encode (bytes : Bytes) : decode (encode bytes) = some bytes := by
  induction bytes using encode.induct with
  | case1 => rfl
  | case2 first =>
      have bound := first.toNat_lt
      rw [encode, decode, if_pos rfl, if_pos rfl, decodeLast, undigit_digit _ (by omega), undigit_digit _ (by omega)]
      simp only [Option.bind_eq_bind, Option.bind_some, if_true]
      rw [if_pos (by omega), byte_of first _ (by omega)]
  | case3 first second =>
      have bound := first.toNat_lt
      have other := second.toNat_lt
      rw [encode, decode, if_pos rfl, if_pos rfl, decodeLast, undigit_digit _ (by omega), undigit_digit _ (by omega)]
      simp only [Option.bind_eq_bind, Option.bind_some, if_neg (digit_not_pad (second.toNat % 16 * 4) (by omega))]
      rw [undigit_digit _ (by omega)]
      simp only [Option.bind_some]
      rw [if_pos (by omega), byte_of first _ (by omega), byte_of second _ (by omega)]
  | case4 first second third rest ih =>
      have bound := first.toNat_lt
      have other := second.toNat_lt
      have final := third.toNat_lt
      rw [encode, decode, if_neg (digit_not_pad _ (by omega)), undigit_digit _ (by omega), undigit_digit _ (by omega),
        undigit_digit _ (by omega), undigit_digit _ (by omega), ih]
      simp only [Option.bind_eq_bind, Option.bind_some]
      rw [byte_of first _ (by omega), byte_of second _ (by omega), byte_of third _ (by omega)]

theorem encode_length (bytes : Bytes) : (encode bytes).length = 4 * ((bytes.length + 2) / 3) := by
  induction bytes using encode.induct with
  | case1 => rfl
  | case2 first => simp [encode]
  | case3 first second => simp [encode]
  | case4 first second third rest ih =>
      simp only [encode, List.length_cons, ih]
      omega

theorem encode_digits (bytes : Bytes) : ∀ byte ∈ encode bytes, byte = 61 ∨ ∃ value, value < 64 ∧ byte = digit value := by
  induction bytes using encode.induct with
  | case1 => simp [encode]
  | case2 first =>
      have bound := first.toNat_lt
      simp only [encode, List.forall_mem_cons, List.not_mem_nil, false_imp_iff, implies_true, and_true, true_or]
      exact ⟨.inr ⟨_, by omega, rfl⟩, .inr ⟨_, by omega, rfl⟩⟩
  | case3 first second =>
      have bound := first.toNat_lt
      have other := second.toNat_lt
      simp only [encode, List.forall_mem_cons, List.not_mem_nil, false_imp_iff, implies_true, and_true, true_or]
      exact ⟨.inr ⟨_, by omega, rfl⟩, .inr ⟨_, by omega, rfl⟩, .inr ⟨_, by omega, rfl⟩⟩
  | case4 first second third rest ih =>
      have bound := first.toNat_lt
      have other := second.toNat_lt
      have final := third.toNat_lt
      simp only [encode, List.forall_mem_cons]
      exact ⟨.inr ⟨_, by omega, rfl⟩, .inr ⟨_, by omega, rfl⟩, .inr ⟨_, by omega, rfl⟩, .inr ⟨_, by omega, rfl⟩, ih⟩

end Base64
