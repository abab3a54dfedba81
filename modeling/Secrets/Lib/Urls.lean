import Mathlib.Data.List.DropRight
import Mathlib.Tactic.IntervalCases
import Secrets.Lib.Codec

set_option autoImplicit false

namespace Urls

open Codecs (unhex)
open Framing (Bytes)

section PercentEncoding

def upperDigit (value : Nat) : UInt8 := if value < 10 then UInt8.ofNat (48 + value) else UInt8.ofNat (55 + value)

def isUnreserved (byte : UInt8) : Bool :=
  decide (48 ≤ byte ∧ byte ≤ 57) || decide (65 ≤ byte ∧ byte ≤ 90) || decide (97 ≤ byte ∧ byte ≤ 122) ||
    decide (byte = 45) || decide (byte = 46) || decide (byte = 95) || decide (byte = 126)

-- What is escaped in a path; a percent sign stays as it is written.
structure PathSet where
  escapes : UInt8 → Bool
  percent : escapes 37 = false
  unreserved : ∀ byte, isUnreserved byte = true → escapes byte = false

variable (set : PathSet)

def encodeByte (byte : UInt8) : Bytes :=
  if set.escapes byte then [37, upperDigit (byte.toNat / 16), upperDigit (byte.toNat % 16)] else [byte]

def encode (text : Bytes) : Bytes := text.flatMap (encodeByte set)

def percentDecode : Bytes → Bytes
  | 37 :: high :: low :: rest =>
      match unhex high, unhex low with
      | some first, some second => UInt8.ofNat (first * 16 + second) :: percentDecode rest
      | _, _ => 37 :: percentDecode (high :: low :: rest)
  | byte :: rest => byte :: percentDecode rest
  | [] => []

def escape : Bytes → Option UInt8
  | high :: low :: _ =>
      match unhex high, unhex low with
      | some first, some second => some (UInt8.ofNat (first * 16 + second))
      | _, _ => none
  | _ => none

def EscapeFree (text : Bytes) : Prop := ∀ before after, text = before ++ 37 :: after → escape after = none

theorem hex_unreserved (byte : UInt8) (value : Nat) (hex : unhex byte = some value) : isUnreserved byte = true := by
  unfold unhex at hex
  split at hex
  · rename_i digit
    simp [isUnreserved, digit.1, digit.2]
  · split at hex
    · rename_i upper
      have high : byte ≤ 90 := UInt8.le_trans upper.2 (by decide)
      simp [isUnreserved, upper.1, high]
    · split at hex
      · rename_i lower
        have high : byte ≤ 122 := UInt8.le_trans lower.2 (by decide)
        simp [isUnreserved, lower.1, high]
      · cases hex

theorem hex_plain (byte : UInt8) (value : Nat) (hex : unhex byte = some value) : encodeByte set byte = [byte] := by
  rw [encodeByte, set.unreserved byte (hex_unreserved byte value hex)]
  rfl

theorem hex_upper_digit (value : Nat) (small : value < 16) : unhex (upperDigit value) = some value := by
  interval_cases value <;> decide

theorem encode_cons (byte : UInt8) (rest : Bytes) : encode set (byte :: rest) = encodeByte set byte ++ encode set rest :=
  List.flatMap_cons

theorem decode_plain (byte : UInt8) (rest : Bytes) (plain : byte ≠ 37) :
    percentDecode (byte :: rest) = byte :: percentDecode rest := by
  rw [percentDecode]
  exact fun _ _ _ same => absurd same plain

theorem decode_escape (high low : UInt8) (rest : Bytes) (first second : Nat) (upper : unhex high = some first)
    (lower : unhex low = some second) :
    percentDecode (37 :: high :: low :: rest) = UInt8.ofNat (first * 16 + second) :: percentDecode rest := by
  simp only [percentDecode, upper, lower]

theorem decode_percent (rest : Bytes) (none : escape rest = none) : percentDecode (37 :: rest) = 37 :: percentDecode rest := by
  cases rest with
  | nil => simp [percentDecode]
  | cons high rest =>
      cases rest with
      | nil => simp [percentDecode]
      | cons low rest =>
          rw [escape] at none
          cases upper : unhex high with
          | none => simp only [percentDecode, upper]
          | some first =>
              cases lower : unhex low with
              | none => simp only [percentDecode, upper, lower]
              | some second => simp [upper, lower] at none

theorem decode_encode_byte (byte : UInt8) (rest : Bytes) (plain : byte ≠ 37) :
    percentDecode (encodeByte set byte ++ rest) = byte :: percentDecode rest := by
  by_cases escapes : set.escapes byte = true
  · have bound := byte.toNat_lt
    have joined : byte.toNat / 16 * 16 + byte.toNat % 16 = byte.toNat := by omega
    rw [encodeByte, if_pos escapes, List.cons_append, List.cons_append, List.cons_append, List.nil_append,
      decode_escape _ _ _ _ _ (hex_upper_digit _ (by omega)) (hex_upper_digit _ (by omega)), joined, UInt8.ofNat_toNat]
  · rw [encodeByte, if_neg escapes, List.singleton_append, decode_plain byte rest plain]

theorem hex_encode (byte : UInt8) (escapes : set.escapes byte = true) : unhex byte = none := by
  cases hex : unhex byte with
  | none => rfl
  | some value =>
      rw [set.unreserved byte (hex_unreserved byte value hex)] at escapes
      cases escapes

theorem escape_encode (text : Bytes) : escape (encode set text) = escape text := by
  have percent : unhex 37 = none := by decide
  cases text with
  | nil => rfl
  | cons high rest =>
      rw [encode_cons]
      by_cases upper : set.escapes high = true
      · rw [encodeByte, if_pos upper, List.cons_append, List.cons_append, escape, percent]
        cases rest with
        | nil => rfl
        | cons low rest => rw [escape, hex_encode set high upper]
      · rw [encodeByte, if_neg upper, List.singleton_append]
        cases rest with
        | nil => rfl
        | cons low rest =>
            rw [encode_cons]
            by_cases lower : set.escapes low = true
            · rw [encodeByte, if_pos lower, List.cons_append, escape, percent, escape, hex_encode set low lower]
            · rw [encodeByte, if_neg lower, List.singleton_append, escape, escape]

theorem decode_encode (text : Bytes) : percentDecode (encode set text) = percentDecode text := by
  induction text using percentDecode.induct with
  | case1 high low rest first second lower upper ih =>
      rw [encode_cons, encodeByte, set.percent, encode_cons, hex_plain set high first upper, encode_cons,
        hex_plain set low second lower]
      exact (decode_escape high low _ first second upper lower).trans
        ((congrArg _ ih).trans (decode_escape high low rest first second upper lower).symm)
  | case2 high low rest missing ih =>
      have none : escape (high :: low :: rest) = none := by
        rw [escape]
        split
        · rename_i first second upper lower
          exact absurd lower (missing first second upper)
        · rfl
      rw [encode_cons, encodeByte, set.percent, decode_percent (high :: low :: rest) none, ← ih]
      exact decode_percent _ ((escape_encode set _).trans none)
  | case3 byte rest short ih =>
      by_cases percent : byte = 37
      · subst percent
        have none : escape rest = none := by
          cases rest with
          | nil => rfl
          | cons high rest =>
              cases rest with
              | nil => rfl
              | cons low rest => exact absurd rfl (short high low rest rfl)
        rw [encode_cons, encodeByte, set.percent, decode_percent rest none, ← ih]
        exact decode_percent _ ((escape_encode set _).trans none)
      · rw [encode_cons, decode_encode_byte set byte _ percent, decode_plain byte rest percent, ih]
  | case4 => rfl

theorem decode_length (text : Bytes) : (percentDecode text).length ≤ text.length := by
  induction text using percentDecode.induct with
  | case1 high low rest first second lower upper ih =>
      rw [decode_escape high low rest first second upper lower, List.length_cons, List.length_cons, List.length_cons,
        List.length_cons]
      omega
  | case2 high low rest missing ih =>
      have none : escape (high :: low :: rest) = none := by
        rw [escape]
        split
        · rename_i first second upper lower
          exact absurd lower (missing first second upper)
        · rfl
      rw [decode_percent (high :: low :: rest) none, List.length_cons]
      simp only [List.length_cons] at ih ⊢
      omega
  | case3 byte rest short ih =>
      rw [percentDecode.eq_2 byte rest short, List.length_cons, List.length_cons]
      omega
  | case4 => simp [percentDecode]

theorem decode_some (text : Bytes) (some : text ≠ []) : percentDecode text ≠ [] := by
  cases text with
  | nil => exact absurd rfl some
  | cons byte rest =>
      by_cases percent : byte = 37
      · subst percent
        unfold percentDecode
        split
        · split <;> simp
        · simp
        · rename_i none
          cases none
      · rw [decode_plain byte rest percent]
        simp

theorem escape_free_cons (byte : UInt8) (rest : Bytes) :
    EscapeFree (byte :: rest) ↔ (byte = 37 → escape rest = none) ∧ EscapeFree rest := by
  constructor
  · intro free
    refine ⟨fun percent => free [] rest (by rw [percent]; rfl), fun before after same => free (byte :: before) after ?_⟩
    rw [same, List.cons_append]
  · intro both before after same
    cases before with
    | nil =>
        obtain ⟨first, last⟩ := List.cons.inj same
        exact last ▸ both.1 first
    | cons first before =>
        obtain ⟨_, last⟩ := List.cons.inj same
        exact both.2 before after last

theorem escape_some (text : Bytes) (plain : UInt8) (found : escape text = some plain) :
    ∃ high low rest first second, text = high :: low :: rest ∧ unhex high = some first ∧ unhex low = some second := by
  cases text with
  | nil => cases found
  | cons high rest =>
      cases rest with
      | nil => cases found
      | cons low rest =>
          cases upper : unhex high with
          | none => simp [escape, upper] at found
          | some first =>
              cases lower : unhex low with
              | none => simp [escape, upper, lower] at found
              | some second => exact ⟨high, low, rest, first, second, rfl, upper, lower⟩

theorem decode_same (text : Bytes) : percentDecode text = text ↔ EscapeFree text := by
  induction text with
  | nil =>
      refine ⟨fun _ before after same => ?_, fun _ => rfl⟩
      cases before <;> cases same
  | cons byte rest ih =>
      rw [escape_free_cons]
      by_cases percent : byte = 37
      · subst percent
        cases found : escape rest with
        | none =>
            rw [decode_percent rest found, List.cons.injEq, ih]
            simp
        | some plain =>
            obtain ⟨high, low, tail, first, second, rfl, upper, lower⟩ := escape_some rest plain found
            have bound := decode_length tail
            constructor
            · intro same
              have lengths := congrArg List.length same
              rw [decode_escape high low tail first second upper lower] at lengths
              simp only [List.length_cons] at lengths
              omega
            · intro both
              exact absurd (both.1 rfl) (by simp)
      · rw [decode_plain byte rest percent, List.cons.injEq, ih]
        simp [percent]

theorem encode_free (text : Bytes) (byte : UInt8) (reserved : isUnreserved byte = false) (percent : byte ≠ 37)
    (absent : byte ∉ text) : byte ∉ encode set text := by
  have digits : ∀ value < 16, isUnreserved (upperDigit value) = true := by decide
  intro member
  obtain ⟨letter, inside, made⟩ := List.mem_flatMap.mp member
  by_cases escapes : set.escapes letter = true
  · have bound := letter.toNat_lt
    have upper := digits (letter.toNat / 16) (by omega)
    have lower := digits (letter.toNat % 16) (by omega)
    rw [encodeByte, if_pos escapes] at made
    rcases List.mem_cons.mp made with here | later
    · exact percent here
    · rcases List.mem_cons.mp later with here | last
      · rw [← here, reserved] at upper
        cases upper
      · rw [← List.mem_singleton.mp last, reserved] at lower
        cases lower
  · rw [encodeByte, if_neg escapes] at made
    exact absent (List.mem_singleton.mp made ▸ inside)

theorem encode_unreserved (text : Bytes) (plain : ∀ byte ∈ text, isUnreserved byte = true) : encode set text = text := by
  induction text with
  | nil => rfl
  | cons byte rest ih =>
      rw [encode_cons, encodeByte, set.unreserved byte (plain byte (List.mem_cons_self ..)),
        ih fun other member => plain other (List.mem_cons_of_mem _ member)]
      rfl

end PercentEncoding

section Segments

-- A dot, as it is or escaped.
def dots : List Bytes := [[46], [37, 50, 101], [37, 50, 69]]

def singleDot (segment : Bytes) : Bool := decide (segment ∈ dots)

def doubleDot (segment : Bytes) : Bool := decide (segment ∈ dots.flatMap fun first => dots.map fun second => first ++ second)

def pushed (kept : List Bytes) (segment : Bytes) (last : Bool) : List Bytes :=
  if doubleDot segment then kept.dropLast ++ (if last then [[]] else [])
  else if singleDot segment then kept ++ (if last then [[]] else [])
  else kept ++ [segment]

def resolve : List Bytes → List Bytes → List Bytes
  | kept, [] => kept
  | kept, segment :: rest => resolve (pushed kept segment rest.isEmpty) rest

theorem pushed_mem (kept : List Bytes) (segment : Bytes) (last : Bool) (piece : Bytes) (member : piece ∈ pushed kept segment last) :
    piece = [] ∨ piece ∈ kept ∨ piece = segment := by
  have ending : ∀ other, other ∈ (if last then [[]] else [] : List Bytes) → other = [] := by
    cases last <;> simp
  unfold pushed at member
  split at member
  · rcases List.mem_append.mp member with before | here
    · exact .inr (.inl (List.dropLast_subset kept before))
    · exact .inl (ending piece here)
  · split at member
    · rcases List.mem_append.mp member with before | here
      · exact .inr (.inl before)
      · exact .inl (ending piece here)
    · rcases List.mem_append.mp member with before | here
      · exact .inr (.inl before)
      · exact .inr (.inr (List.mem_singleton.mp here))

theorem resolve_mem (segments kept : List Bytes) (piece : Bytes) (member : piece ∈ resolve kept segments) :
    piece = [] ∨ piece ∈ kept ∨ piece ∈ segments := by
  induction segments generalizing kept with
  | nil => exact .inr (.inl member)
  | cons segment rest ih =>
      rcases ih (pushed kept segment rest.isEmpty) member with empty | before | later
      · exact .inl empty
      · rcases pushed_mem kept segment _ piece before with empty | inside | here
        · exact .inl empty
        · exact .inr (.inl inside)
        · exact .inr (.inr (here ▸ List.mem_cons_self ..))
      · exact .inr (.inr (List.mem_cons_of_mem _ later))

def Dotless (segment : Bytes) : Prop := doubleDot segment = false ∧ singleDot segment = false

theorem resolve_dotless (segments kept : List Bytes) (dotless : ∀ segment ∈ segments, Dotless segment) :
    resolve kept segments = kept ++ segments := by
  induction segments generalizing kept with
  | nil => simp [resolve]
  | cons segment rest ih =>
      obtain ⟨double, single⟩ := dotless segment (List.mem_cons_self ..)
      rw [resolve, ih _ fun other member => dotless other (List.mem_cons_of_mem _ member), pushed, double, single]
      simp

theorem resolve_append (first second kept : List Bytes) (dotless : ∀ segment ∈ first, Dotless segment) :
    resolve kept (first ++ second) = resolve (kept ++ first) second := by
  induction first generalizing kept with
  | nil => rw [List.nil_append, List.append_nil]
  | cons segment rest ih =>
      obtain ⟨double, single⟩ := dotless segment (List.mem_cons_self ..)
      rw [List.cons_append, resolve, ih _ fun other member => dotless other (List.mem_cons_of_mem _ member), pushed, double, single]
      simp

theorem resolve_double (kept rest : List Bytes) (segment : Bytes) (double : doubleDot segment = true) (some : rest ≠ []) :
    resolve kept (segment :: rest) = resolve kept.dropLast rest := by
  have more : rest.isEmpty = false := by simpa using some
  rw [resolve, pushed, if_pos double, more]
  simp

theorem resolve_single (kept rest : List Bytes) (segment : Bytes) (double : doubleDot segment = false)
    (single : singleDot segment = true) (some : rest ≠ []) : resolve kept (segment :: rest) = resolve kept rest := by
  have more : rest.isEmpty = false := by simpa using some
  rw [resolve, pushed, double, if_neg (by decide), if_pos single, more]
  simp

theorem dots_decode : ∀ segment, (doubleDot segment = true → percentDecode segment = [46, 46]) ∧
    (singleDot segment = true → percentDecode segment = [46]) := by
  have doubles : ∀ segment ∈ dots.flatMap fun first => dots.map fun second => first ++ second,
    percentDecode segment = [46, 46] := by decide
  have singles : ∀ segment ∈ dots, percentDecode segment = [46] := by decide
  exact fun segment => ⟨fun double => doubles segment (of_decide_eq_true double), fun single => singles segment (of_decide_eq_true single)⟩

end Segments

section References

-- C0 controls and space go at both ends, tab and newlines anywhere.
def isMargin (byte : UInt8) : Bool := decide (byte ≤ 32)

def isDropped (byte : UInt8) : Bool := decide (byte = 9) || decide (byte = 10) || decide (byte = 13)

def isEnd (byte : UInt8) : Bool := decide (byte = 63) || decide (byte = 35)

def isSlash (byte : UInt8) : Bool := decide (byte = 47) || decide (byte = 92)

def cleaned (input : Bytes) : Bytes := ((input.dropWhile isMargin).rdropWhile isMargin).filter fun byte => !isDropped byte

def beforeEnd (input : Bytes) : Bytes := input.takeWhile fun byte => !isEnd byte

def pieces (reference : Bytes) : List Bytes := (beforeEnd (cleaned reference)).splitOnP isSlash

variable (set : PathSet)

def joinPath (reference : Bytes) : Bytes := 47 :: [47].intercalate (resolve [] ((pieces reference).map (encode set)))

def Plain (byte : UInt8) : Prop := isMargin byte = false ∧ isDropped byte = false ∧ isEnd byte = false

def Special (byte : UInt8) : Prop := isSlash byte = true ∨ isEnd byte = true ∨ isDropped byte = true

def remains (text : Bytes) : Bytes := beforeEnd (text.filter fun byte => !isDropped byte)

theorem plain_slash_behind (text : Bytes) (plain : ∀ byte ∈ text, Plain byte) : ∀ byte ∈ text ++ [47], Plain byte := by
  intro byte member
  rcases List.mem_append.mp member with before | here
  · exact plain byte before
  · exact List.mem_singleton.mp here ▸ ⟨rfl, rfl, rfl⟩

theorem plain_slash_before (text : Bytes) (plain : ∀ byte ∈ text, Plain byte) : ∀ byte ∈ 47 :: text, Plain byte := by
  intro byte member
  rcases List.mem_cons.mp member with here | later
  · exact here ▸ ⟨rfl, rfl, rfl⟩
  · exact plain byte later

theorem filter_plain (text : Bytes) (plain : ∀ byte ∈ text, Plain byte) : text.filter (fun byte => !isDropped byte) = text := by
  apply List.filter_eq_self.mpr
  intro byte member
  simp [(plain byte member).2.1]

theorem cleaned_around (front text back : Bytes) (plainFront : ∀ byte ∈ front, Plain byte) (plainBack : ∀ byte ∈ back, Plain byte)
    (starts : front ≠ []) (ends : back ≠ []) :
    cleaned (front ++ text ++ back) = front ++ text.filter (fun byte => !isDropped byte) ++ back := by
  have head : (front ++ text ++ back).dropWhile isMargin = front ++ text ++ back := by
    cases front with
    | nil => exact absurd rfl starts
    | cons byte rest =>
        rw [List.cons_append, List.cons_append, List.dropWhile_cons_of_neg]
        simp [(plainFront byte (List.mem_cons_self ..)).1]
  have last : (front ++ text ++ back).rdropWhile isMargin = front ++ text ++ back := by
    rw [List.rdropWhile_eq_self_iff]
    intro some
    have found : (front ++ text ++ back).getLast some ∈ back := by
      rw [List.getLast_append_of_ne_nil some ends]
      exact List.getLast_mem ends
    rw [(plainBack _ found).1]
    simp
  rw [cleaned, head, last, List.filter_append, List.filter_append, filter_plain front plainFront, filter_plain back plainBack]

theorem before_end_plain (text rest : Bytes) (plain : ∀ byte ∈ text, isEnd byte = false) :
    beforeEnd (text ++ rest) = text ++ beforeEnd rest := by
  rw [beforeEnd, List.takeWhile_append_of_pos]
  · rfl
  · intro byte member
    simp [plain byte member]

theorem before_end_self (text : Bytes) (plain : ∀ byte ∈ text, isEnd byte = false) : beforeEnd text = text := by
  have whole := before_end_plain text [] plain
  rwa [List.append_nil, show beforeEnd [] = [] from rfl, List.append_nil] at whole

theorem split_slash (first second : Bytes) :
    (first ++ 47 :: second).splitOnP isSlash = first.splitOnP isSlash ++ second.splitOnP isSlash :=
  List.splitOnP_append_cons first second rfl

theorem pieces_around (front text back : Bytes) (plainFront : ∀ byte ∈ front, Plain byte) (plainBack : ∀ byte ∈ back, Plain byte)
    (piece : Bytes) (member : piece ∈ pieces ((front ++ [47]) ++ text ++ (47 :: back))) :
    piece ∈ front.splitOnP isSlash ∨ piece ∈ (remains text).splitOnP isSlash ∨ piece ∈ back.splitOnP isSlash := by
  have plainHead := plain_slash_behind front plainFront
  have plainTail := plain_slash_before back plainBack
  rw [pieces, cleaned_around _ _ _ plainHead plainTail (by simp) (by simp), List.append_assoc,
    before_end_plain _ _ fun byte inside => (plainHead byte inside).2.2, List.append_assoc, List.singleton_append, split_slash,
    List.mem_append] at member
  rcases member with before | later
  · exact .inl before
  · right
    by_cases cut : ∃ byte ∈ text.filter (fun byte => !isDropped byte), isEnd byte = true
    · have short : beforeEnd (text.filter (fun byte => !isDropped byte) ++ 47 :: back) = remains text := by
        rw [beforeEnd, List.takeWhile_append, if_neg]
        · rfl
        · intro whole
          obtain ⟨byte, inside, stops⟩ := cut
          have same := List.takeWhile_eq_self_iff.mp ((List.takeWhile_prefix _).eq_of_length whole) byte inside
          simp [stops] at same
      rw [short] at later
      exact .inl later
    · have plain : ∀ byte ∈ text.filter (fun byte => !isDropped byte), isEnd byte = false := by
        intro byte inside
        cases stops : isEnd byte with
        | false => rfl
        | true => exact absurd ⟨byte, inside, stops⟩ cut
      have left : remains text = text.filter fun byte => !isDropped byte := before_end_self _ plain
      rw [before_end_plain _ _ plain, before_end_self _ fun byte inside => (plainTail byte inside).2.2, split_slash, ← left,
        List.mem_append] at later
      exact later

theorem split_cases (separates : UInt8 → Bool) (text : Bytes) :
    ((∀ byte ∈ text, separates byte = false) ∧ text.splitOnP separates = [text]) ∨
      ∃ before byte after, text = before ++ byte :: after ∧ separates byte = true ∧
        text.splitOnP separates = before.splitOnP separates ++ after.splitOnP separates := by
  by_cases found : ∃ byte ∈ text, separates byte = true
  · obtain ⟨byte, member, true⟩ := found
    obtain ⟨before, after, rfl⟩ := List.append_of_mem member
    exact .inr ⟨before, byte, after, rfl, true, List.splitOnP_append_cons before after true⟩
  · have none : ∀ byte ∈ text, separates byte = false := by
      intro byte member
      cases here : separates byte with
      | false => rfl
      | true => exact absurd ⟨byte, member, here⟩ found
    exact .inl ⟨none, List.splitOnP_eq_singleton none⟩

theorem piece_parts (separates : UInt8 → Bool) (text : Bytes) : ∀ piece ∈ text.splitOnP separates,
    (∀ byte ∈ piece, separates byte = false ∧ byte ∈ text) ∧ piece.length ≤ text.length ∧
      (text.length ≤ piece.length → ∀ byte ∈ text, separates byte = false) := by
  generalize size : text.length = length
  induction length using Nat.strong_induction_on generalizing text with
  | _ length ih =>
      intro piece member
      rcases split_cases separates text with ⟨none, single⟩ | ⟨before, byte, after, rfl, _, parts⟩
      · rw [single] at member
        obtain rfl := List.mem_singleton.mp member
        exact ⟨fun byte inside => ⟨none byte inside, inside⟩, Nat.le_of_eq size, fun _ => none⟩
      · rw [parts] at member
        rw [List.length_append, List.length_cons] at size
        rcases List.mem_append.mp member with first | second
        · obtain ⟨clean, short, _⟩ := ih before.length (by omega) before rfl piece first
          exact ⟨fun byte inside => ⟨(clean byte inside).1, List.mem_append_left _ (clean byte inside).2⟩, by omega, fun long => by omega⟩
        · obtain ⟨clean, short, _⟩ := ih after.length (by omega) after rfl piece second
          exact ⟨fun byte inside => ⟨(clean byte inside).1, List.mem_append_right _ (List.mem_cons_of_mem _ (clean byte inside).2)⟩,
            by omega, fun long => by omega⟩

theorem remains_parts (text : Bytes) : (remains text).length ≤ text.length ∧
    (text.length ≤ (remains text).length → remains text = text ∧ ∀ byte ∈ text, isDropped byte = false ∧ isEnd byte = false) := by
  have fewer := List.length_filter_le (fun byte => !isDropped byte) text
  have first := (List.takeWhile_prefix (l := text.filter fun byte => !isDropped byte) fun byte => !isEnd byte).length_le
  have known : (remains text).length ≤ (text.filter fun byte => !isDropped byte).length := first
  refine ⟨by omega, fun long => ?_⟩
  have kept : text.filter (fun byte => !isDropped byte) = text :=
    List.filter_sublist.eq_of_length (by omega)
  have whole : remains text = text.filter fun byte => !isDropped byte :=
    (List.takeWhile_prefix _).eq_of_length (show (remains text).length = _ by omega)
  refine ⟨whole.trans kept, fun byte member => ?_⟩
  have undropped := List.filter_eq_self.mp kept byte member
  rw [kept] at whole
  have unended := List.takeWhile_eq_self_iff.mp (show text.takeWhile (fun byte => !isEnd byte) = text by
    rw [remains, kept] at whole
    exact whole) byte member
  simpa using And.intro undropped unended

theorem whole_piece (text piece : Bytes) (member : piece ∈ (remains text).splitOnP isSlash) (long : text.length ≤ piece.length) :
    ∀ byte ∈ text, ¬Special byte := by
  obtain ⟨_, short, clean⟩ := piece_parts isSlash (remains text) piece member
  obtain ⟨shorter, whole⟩ := remains_parts text
  obtain ⟨same, plain⟩ := whole (by omega)
  rw [same] at clean
  intro byte inside special
  rcases special with slash | ends | dropped
  · rw [clean long byte inside] at slash
    cases slash
  · rw [(plain byte inside).2] at ends
    cases ends
  · rw [(plain byte inside).1] at dropped
    cases dropped

theorem pieces_whole (front text back : Bytes) (plainFront : ∀ byte ∈ front, Plain byte) (plainBack : ∀ byte ∈ back, Plain byte)
    (plain : ∀ byte ∈ text, ¬Special byte) :
    pieces ((front ++ [47]) ++ text ++ (47 :: back)) = front.splitOnP isSlash ++ text :: back.splitOnP isSlash := by
  have head := plain_slash_behind front plainFront
  have tail := plain_slash_before back plainBack
  have kept : text.filter (fun byte => !isDropped byte) = text := by
    apply List.filter_eq_self.mpr
    intro byte member
    cases dropped : isDropped byte with
    | false => rfl
    | true => exact absurd (.inr (.inr dropped)) (plain byte member)
  have unended : ∀ byte ∈ text, isEnd byte = false := by
    intro byte member
    cases ends : isEnd byte with
    | false => rfl
    | true => exact absurd (.inr (.inl ends)) (plain byte member)
  have unslashed : ∀ byte ∈ text, isSlash byte = false := by
    intro byte member
    cases slashed : isSlash byte with
    | false => rfl
    | true => exact absurd (.inl slashed) (plain byte member)
  have whole : beforeEnd (front ++ [47] ++ text ++ 47 :: back) = front ++ [47] ++ text ++ 47 :: back := by
    apply before_end_self
    intro byte member
    rcases List.mem_append.mp member with before | later
    · rcases List.mem_append.mp before with first | inside
      · exact (head byte first).2.2
      · exact unended byte inside
    · exact (tail byte later).2.2
  rw [pieces, cleaned_around _ _ _ head tail (by simp) (by simp), kept, whole, List.append_assoc, List.append_assoc,
    List.singleton_append, split_slash, split_slash, List.splitOnP_eq_singleton unslashed]
  rfl

theorem pushed_last (kept : List Bytes) (segment : Bytes) : pushed kept segment true ≠ [] := by
  unfold pushed
  split
  · simp
  · split <;> simp

theorem resolve_some (segments kept : List Bytes) (some : segments ≠ []) : resolve kept segments ≠ [] := by
  induction segments generalizing kept with
  | nil => exact absurd rfl some
  | cons segment rest ih =>
      cases rest with
      | nil => exact pushed_last kept segment
      | cons next rest => exact ih _ (by simp)

theorem split_join (reference : Bytes) :
    (joinPath set reference).splitOn 47 = [] :: resolve [] ((pieces reference).map (encode set)) := by
  have some : resolve [] ((pieces reference).map (encode set)) ≠ [] :=
    resolve_some _ _ (by simp [pieces, List.splitOnP_ne_nil])
  have clean : ∀ segment ∈ resolve [] ((pieces reference).map (encode set)), (47 : UInt8) ∉ segment := by
    intro segment member
    rcases resolve_mem _ _ segment member with rfl | none | inside
    · exact List.not_mem_nil
    · cases none
    · obtain ⟨piece, among, rfl⟩ := List.mem_map.mp inside
      apply encode_free set piece 47 (by decide) (by decide)
      intro slash
      have separated := ((piece_parts isSlash _ piece among).1 47 slash).1
      cases separated
  rw [joinPath]
  have bare : (47 : UInt8) ∉ ([] : List UInt8) := List.not_mem_nil
  have split := List.splitOn_append_cons_self_of_not_mem bare ([47].intercalate (resolve [] ((pieces reference).map (encode set))))
  rw [List.nil_append] at split
  rw [split, List.splitOn_intercalate 47 clean some]

end References

end Urls
