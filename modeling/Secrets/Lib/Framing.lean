import Mathlib.Data.List.Basic
import Mathlib.Tactic.Ring

set_option autoImplicit false

namespace Framing

abbrev Bytes := List UInt8

-- Two layouts are unambiguous for different reasons: a separator no field
-- contains, and a length written before the field.
theorem separated_unique {Symbol : Type} (separator : Symbol) (left right leftRest rightRest : List Symbol)
    (leftClean : separator ∉ left) (rightClean : separator ∉ right)
    (same : left ++ separator :: leftRest = right ++ separator :: rightRest) :
    left = right ∧ leftRest = rightRest := by
  induction left generalizing right with
  | nil =>
      cases right with
      | nil => exact ⟨rfl, by simpa using same⟩
      | cons first tail =>
          have head : separator = first := by simpa using congrArg List.head? same
          exact absurd (by simp [head]) rightClean
  | cons first tail ih =>
      cases right with
      | nil =>
          have head : first = separator := by simpa using congrArg List.head? same
          exact absurd (by simp [head]) leftClean
      | cons other rest =>
          obtain ⟨head, tails⟩ := List.cons.inj same
          obtain ⟨fields, rests⟩ := ih rest (fun member => leftClean (List.mem_cons_of_mem first member))
            (fun member => rightClean (List.mem_cons_of_mem other member)) tails
          exact ⟨by rw [head, fields], rests⟩

def bigEndian : Nat → Nat → Bytes
  | 0, _ => []
  | width + 1, value => bigEndian width (value / 256) ++ [UInt8.ofNat value]

def ofBigEndian (bytes : Bytes) : Nat := bytes.foldl (fun value byte => value * 256 + byte.toNat) 0

@[simp] theorem big_endian_length (width value : Nat) : (bigEndian width value).length = width := by
  induction width generalizing value with
  | zero => rfl
  | succ width ih => simp [bigEndian, ih]

theorem of_big_endian_big_endian (width value : Nat) (bound : value < 256 ^ width) :
    ofBigEndian (bigEndian width value) = value := by
  induction width generalizing value with
  | zero =>
      have zero : value = 0 := by simpa using bound
      simp [bigEndian, ofBigEndian, zero]
  | succ width ih =>
      have high : value / 256 < 256 ^ width := by
        rw [Nat.div_lt_iff_lt_mul (by decide)]
        simpa only [Nat.pow_succ] using bound
      have step : ofBigEndian (bigEndian (width + 1) value) =
          ofBigEndian (bigEndian width (value / 256)) * 256 + (UInt8.ofNat value).toNat := by
        simp [ofBigEndian, bigEndian]
      rw [step, ih _ high, UInt8.toNat_ofNat']
      omega

theorem big_endian_unique (width first second : Nat) (firstBound : first < 256 ^ width)
    (secondBound : second < 256 ^ width) (same : bigEndian width first = bigEndian width second) :
    first = second := by
  have decoded := congrArg ofBigEndian same
  rwa [of_big_endian_big_endian width first firstBound, of_big_endian_big_endian width second secondBound] at decoded

def prefixed (width : Nat) (field : Bytes) : Bytes := bigEndian width field.length ++ field

theorem prefixed_unique (width : Nat) (left right leftRest rightRest : Bytes)
    (leftBound : left.length < 256 ^ width) (rightBound : right.length < 256 ^ width)
    (same : prefixed width left ++ leftRest = prefixed width right ++ rightRest) :
    left = right ∧ leftRest = rightRest := by
  rw [prefixed, prefixed, List.append_assoc, List.append_assoc] at same
  obtain ⟨lengths, fields⟩ := List.append_inj same (by simp)
  exact List.append_inj fields (big_endian_unique width _ _ leftBound rightBound lengths)

end Framing
