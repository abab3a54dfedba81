import Mathlib.Tactic.IntervalCases
import Secrets.Lib.Framing

set_option autoImplicit false

namespace Codecs

open Framing (Bytes)

-- A printer with a reader that takes back exactly what was printed and leaves
-- the rest of the input alone. The law is a field, so a codec put together from
-- others needs no proof of its own.
structure Codec (Value : Type) where
  print : Value → Bytes
  parse : Bytes → Option (Value × Bytes)
  readsBack : ∀ value rest, parse (print value ++ rest) = some (value, rest)

variable {Value Other : Type}

def stripPrefix : Bytes → Bytes → Option Bytes
  | [], input => some input
  | _ :: _, [] => none
  | byte :: text, head :: tail => if byte = head then stripPrefix text tail else none

theorem strip_prefix_append (text rest : Bytes) : stripPrefix text (text ++ rest) = some rest := by
  induction text with
  | nil => rfl
  | cons byte text ih => simp [stripPrefix, ih]

namespace Codec

def literal (text : Bytes) : Codec Unit where
  print _ := text
  parse input := (stripPrefix text input).map fun rest => ((), rest)
  readsBack value rest := by rw [strip_prefix_append, Option.map_some]

def pair (first : Codec Value) (second : Codec Other) : Codec (Value × Other) where
  print values := first.print values.1 ++ second.print values.2
  parse input := do
    let (value, rest) ← first.parse input
    let (other, rest) ← second.parse rest
    some ((value, other), rest)
  readsBack values rest := by
    rw [List.append_assoc]
    simp only [first.readsBack, Option.bind_eq_bind, Option.bind_some, second.readsBack]

def convert (inner : Codec Value) (into : Other → Value) (back : Value → Option Other)
    (inverse : ∀ other, back (into other) = some other) : Codec Other where
  print other := inner.print (into other)
  parse input := do
    let (value, rest) ← inner.parse input
    let other ← back value
    some (other, rest)
  readsBack other rest := by
    simp only [inner.readsBack, Option.bind_eq_bind, Option.bind_some, inverse]

def after (text : Bytes) (inner : Codec Value) : Codec Value :=
  (pair (literal text) inner).convert (fun value => ((), value)) (fun values => some values.2) fun _ => rfl

def before (inner : Codec Value) (text : Bytes) : Codec Value :=
  (pair inner (literal text)).convert (fun value => (value, ())) (fun values => some values.1) fun _ => rfl

def choice (left right : Bytes) (first : Codec Value) (second : Codec Other)
    (apart : ∀ rest, stripPrefix left (right ++ rest) = none) : Codec (Value ⊕ Other) where
  print
    | .inl value => left ++ first.print value
    | .inr other => right ++ second.print other
  parse input :=
    match stripPrefix left input with
    | some rest => (first.parse rest).map fun answer => (.inl answer.1, answer.2)
    | none =>
        match stripPrefix right input with
        | some rest => (second.parse rest).map fun answer => (.inr answer.1, answer.2)
        | none => none
  readsBack value rest := by
    cases value with
    | inl value => simp only [List.append_assoc, strip_prefix_append, first.readsBack, Option.map_some]
    | inr other => simp only [List.append_assoc, apart, strip_prefix_append, second.readsBack, Option.map_some]

section Sequences
variable (item : Codec Value) (comma close : UInt8)

def printTail : List Value → Bytes
  | [] => [close]
  | value :: rest => comma :: (item.print value ++ printTail rest)

def parseTail : Nat → Bytes → Option (List Value × Bytes)
  | 0, _ => none
  | _ + 1, [] => none
  | fuel + 1, byte :: input =>
      if byte = close then some ([], input)
      else if byte = comma then do
        let (value, rest) ← item.parse input
        let (values, rest) ← parseTail fuel rest
        some (value :: values, rest)
      else none

theorem print_tail_length (values : List Value) : values.length < (printTail item comma close values).length := by
  induction values with
  | nil => simp [printTail]
  | cons value rest ih =>
      simp only [printTail, List.length_cons, List.length_append]
      omega

theorem parse_print_tail (distinct : comma ≠ close) (values : List Value) (rest : Bytes) (fuel : Nat)
    (enough : values.length < fuel) :
    parseTail item comma close fuel (printTail item comma close values ++ rest) = some (values, rest) := by
  induction values generalizing fuel with
  | nil =>
      cases fuel with
      | zero => simp at enough
      | succ fuel => simp [printTail, parseTail]
  | cons value values ih =>
      cases fuel with
      | zero => simp at enough
      | succ fuel =>
          have less : values.length < fuel := by simpa using enough
          simp only [printTail, List.cons_append, List.append_assoc, parseTail, if_neg distinct, if_true, item.readsBack,
            Option.bind_eq_bind, Option.bind_some, ih fuel less]

def printItems : List Value → Bytes
  | [] => [close]
  | value :: rest => item.print value ++ printTail item comma close rest

def parseItems (input : Bytes) : Option (List Value × Bytes) :=
  if input.head? = some close then some ([], input.drop 1)
  else do
    let (value, rest) ← item.parse input
    let (values, rest) ← parseTail item comma close (rest.length + 1) rest
    some (value :: values, rest)

def items (opening : UInt8) (distinct : comma ≠ close)
    (starts : ∀ value rest, (item.print value ++ rest).head? ≠ some close) : Codec (List Value) where
  print values := opening :: printItems item comma close values
  parse
    | [] => none
    | byte :: input => if byte = opening then parseItems item comma close input else none
  readsBack values rest := by
    rw [List.cons_append]
    simp only [if_true]
    cases values with
    | nil => simp [printItems, parseItems]
    | cons value values =>
        rw [printItems, List.append_assoc, parseItems, if_neg (starts value _), item.readsBack]
        simp only [Option.bind_eq_bind, Option.bind_some]
        rw [parse_print_tail item comma close distinct]
        · rfl
        · have counted := print_tail_length item comma close values
          rw [List.length_append]
          omega

end Sequences
end Codec

def hexDigit (value : Nat) : UInt8 := if value < 10 then UInt8.ofNat (48 + value) else UInt8.ofNat (87 + value)

def escapeByte (byte : UInt8) : Bytes :=
  if byte = 34 then [92, 34]
  else if byte = 92 then [92, 92]
  else if byte = 8 then [92, 98]
  else if byte = 9 then [92, 116]
  else if byte = 10 then [92, 110]
  else if byte = 12 then [92, 102]
  else if byte = 13 then [92, 114]
  else if byte < 32 then [92, 117, 48, 48, hexDigit (byte.toNat / 16), hexDigit (byte.toNat % 16)]
  else [byte]

def unhex (byte : UInt8) : Option Nat :=
  if 48 ≤ byte ∧ byte ≤ 57 then some (byte.toNat - 48)
  else if 65 ≤ byte ∧ byte ≤ 70 then some (byte.toNat - 55)
  else if 97 ≤ byte ∧ byte ≤ 102 then some (byte.toNat - 87)
  else none

def unescape (byte : UInt8) : Option UInt8 :=
  if byte = 34 then some 34
  else if byte = 92 then some 92
  else if byte = 98 then some 8
  else if byte = 116 then some 9
  else if byte = 110 then some 10
  else if byte = 102 then some 12
  else if byte = 114 then some 13
  else none

def ahead (byte : UInt8) (answer : Bytes × Bytes) : Bytes × Bytes := (byte :: answer.1, answer.2)

def parseQuoted : Bytes → Option (Bytes × Bytes)
  | [] => none
  | 34 :: rest => some ([], rest)
  | 92 :: 117 :: 48 :: 48 :: high :: low :: rest =>
      match unhex high, unhex low with
      | some first, some second => (parseQuoted rest).map (ahead (UInt8.ofNat (first * 16 + second)))
      | _, _ => none
  | 92 :: byte :: rest =>
      match unescape byte with
      | some plain => (parseQuoted rest).map (ahead plain)
      | none => none
  | byte :: rest => (parseQuoted rest).map (ahead byte)

def printQuoted (text : Bytes) : Bytes := text.flatMap escapeByte ++ [34]

theorem unhex_hex_digit (value : Nat) (small : value < 16) : unhex (hexDigit value) = some value := by
  interval_cases value <;> decide

theorem parse_plain (byte : UInt8) (rest : Bytes) (quote : byte ≠ 34) (slash : byte ≠ 92) :
    parseQuoted (byte :: rest) = (parseQuoted rest).map (ahead byte) := by
  rw [parseQuoted]
  · exact fun same => quote same
  · exact fun _ _ _ same => absurd same slash
  · exact fun _ _ same => absurd same slash

theorem parse_short (byte plain : UInt8) (rest : Bytes) (unicode : byte ≠ 117) (known : unescape byte = some plain) :
    parseQuoted (92 :: byte :: rest) = (parseQuoted rest).map (ahead plain) := by
  rw [parseQuoted]
  · simp only [known]
  · exact fun _ _ _ same => absurd same unicode

theorem parse_long (high low : UInt8) (first second : Nat) (rest : Bytes) (upper : unhex high = some first)
    (lower : unhex low = some second) :
    parseQuoted (92 :: 117 :: 48 :: 48 :: high :: low :: rest) =
      (parseQuoted rest).map (ahead (UInt8.ofNat (first * 16 + second))) := by
  rw [parseQuoted]
  simp only [upper, lower]

theorem parse_escape_byte (byte : UInt8) (rest : Bytes) :
    parseQuoted (escapeByte byte ++ rest) = (parseQuoted rest).map (ahead byte) := by
  unfold escapeByte
  split_ifs with quote slash backspace tab newline feed carriage control
  · exact quote ▸ parse_short 34 34 rest (by decide) (by decide)
  · exact slash ▸ parse_short 92 92 rest (by decide) (by decide)
  · exact backspace ▸ parse_short 98 8 rest (by decide) (by decide)
  · exact tab ▸ parse_short 116 9 rest (by decide) (by decide)
  · exact newline ▸ parse_short 110 10 rest (by decide) (by decide)
  · exact feed ▸ parse_short 102 12 rest (by decide) (by decide)
  · exact carriage ▸ parse_short 114 13 rest (by decide) (by decide)
  · have bound : byte.toNat < 32 := by simpa [UInt8.lt_iff_toNat_lt] using control
    have joined : byte.toNat / 16 * 16 + byte.toNat % 16 = byte.toNat := by omega
    have read := parse_long _ _ _ _ rest (unhex_hex_digit (byte.toNat / 16) (by omega))
      (unhex_hex_digit (byte.toNat % 16) (by omega))
    rwa [joined, UInt8.ofNat_toNat] at read
  · exact parse_plain byte rest quote slash

theorem parse_print_quoted (text rest : Bytes) : parseQuoted (printQuoted text ++ rest) = some (text, rest) := by
  unfold printQuoted
  rw [List.append_assoc]
  induction text with
  | nil => simp [parseQuoted]
  | cons byte text ih =>
      rw [List.flatMap_cons, List.append_assoc, parse_escape_byte, ih]
      rfl

def Codec.quoted : Codec Bytes where
  print text := 34 :: printQuoted text
  parse
    | 34 :: rest => parseQuoted rest
    | _ => none
  readsBack text rest := parse_print_quoted text rest

def Plain (text : Bytes) : Prop := ∀ byte ∈ text, escapeByte byte = [byte]

theorem print_quoted_plain (text : Bytes) (plain : Plain text) : printQuoted text = text ++ [34] := by
  unfold printQuoted
  congr 1
  induction text with
  | nil => rfl
  | cons byte rest ih =>
      rw [List.flatMap_cons, plain byte (List.mem_cons_self ..), ih fun other member => plain other (List.mem_cons_of_mem _ member)]
      rfl

section Groups
variable {Item : Type} (dash : Item)

def dashed (digits : List Item) : List Item :=
  let group (start count : Nat) := (digits.drop start).take count
  group 0 8 ++ dash :: group 8 4 ++ dash :: group 12 4 ++ dash :: group 16 4 ++ dash :: group 20 12

variable (digits : List Item) (long : digits.length = 32)
include long

theorem group_length (start count : Nat) (fits : start + count ≤ 32) : ((digits.drop start).take count).length = count := by
  rw [List.length_take, List.length_drop, long]
  omega

theorem grouped :
    (digits.drop 0).take 8 ++ ((digits.drop 8).take 4 ++ ((digits.drop 12).take 4 ++ ((digits.drop 16).take 4 ++ (digits.drop 20).take 12))) =
      digits := by
  have split : ∀ start count : Nat, (digits.drop start).take count ++ digits.drop (start + count) = digits.drop start := by
    intro start count
    rw [← List.drop_drop, List.take_append_drop]
  have last : (digits.drop 20).take 12 = digits.drop 20 := List.take_of_length_le (by rw [List.length_drop, long])
  rw [last, split 16 4, split 12 4, split 8 4, split 0 8, List.drop_zero]

theorem dashed_length : (dashed dash digits).length = 36 := by
  simp [dashed, long]

end Groups

def undashed {Item : Type} [DecidableEq Item] (dash : Item) (text : List Item) : Option (List Item) :=
  let part (start count : Nat) := (text.drop start).take count
  let digits := part 0 8 ++ (part 9 4 ++ (part 14 4 ++ (part 19 4 ++ part 24 12)))
  if text = dashed dash digits then some digits else none

theorem undashed_dashed {Item : Type} [DecidableEq Item] (dash : Item) (digits : List Item) (long : digits.length = 32) :
    undashed dash (dashed dash digits) = some digits := by
  have first := group_length digits long 0 8 (by omega)
  have second := group_length digits long 8 4 (by omega)
  have third := group_length digits long 12 4 (by omega)
  have fourth := group_length digits long 16 4 (by omega)
  have fifth := group_length digits long 20 12 (by omega)
  have parts : ((dashed dash digits).drop 0).take 8 ++ (((dashed dash digits).drop 9).take 4 ++ (((dashed dash digits).drop 14).take 4 ++
      (((dashed dash digits).drop 19).take 4 ++ ((dashed dash digits).drop 24).take 12))) = digits := by
    refine Eq.trans ?_ (grouped digits long)
    unfold dashed
    dsimp only
    generalize (digits.drop 0).take 8 = one at first ⊢
    generalize (digits.drop 8).take 4 = two at second ⊢
    generalize (digits.drop 12).take 4 = three at third ⊢
    generalize (digits.drop 16).take 4 = four at fourth ⊢
    generalize (digits.drop 20).take 12 = five at fifth ⊢
    simp [List.drop_append, List.drop_eq_nil_of_le, List.take_of_length_le, first, second, third, fourth, fifth]
  unfold undashed
  dsimp only
  rw [parts, if_pos rfl]

theorem dashed_injective {Item : Type} [DecidableEq Item] (dash : Item) (first second : List Item) (long : first.length = 32)
    (other : second.length = 32) (same : dashed dash first = dashed dash second) : first = second := by
  have read := undashed_dashed dash first long
  rw [same, undashed_dashed dash second other] at read
  exact (Option.some.inj read).symm

end Codecs
