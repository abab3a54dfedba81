import Secrets.Lib.Codec

set_option autoImplicit false

namespace Codecs

open Framing (Bytes)

-- A document of strings, arrays and objects, its text of any type that has a
-- quoted form.
inductive JsonTree (Text : Type) where
  | text (value : Text)
  | array (elements : List (JsonTree Text))
  | object (members : List (Text × JsonTree Text))

variable {Text Value : Type}

def following (close : UInt8) : List Bytes → Bytes
  | [] => [close]
  | piece :: rest => 44 :: (piece ++ following close rest)

def joined (close : UInt8) : List Bytes → Bytes
  | [] => [close]
  | piece :: rest => piece ++ following close rest

mutual
def JsonTree.write (quoted : Codec Text) : JsonTree Text → Bytes
  | .text value => quoted.print value
  | .array elements => 91 :: joined 93 (writeElements quoted elements)
  | .object members => 123 :: joined 125 (writeMembers quoted members)
def writeElements (quoted : Codec Text) : List (JsonTree Text) → List Bytes
  | [] => []
  | element :: rest => element.write quoted :: writeElements quoted rest
def writeMembers (quoted : Codec Text) : List (Text × JsonTree Text) → List Bytes
  | [] => []
  | (name, value) :: rest => (quoted.print name ++ 58 :: value.write quoted) :: writeMembers quoted rest
end

def readFollowing (item : Bytes → Option (Value × Bytes)) (close : UInt8) : Nat → Bytes → Option (List Value × Bytes)
  | 0, _ => none
  | _ + 1, [] => none
  | fuel + 1, byte :: input =>
      if byte = close then some ([], input)
      else if byte = 44 then do
        let (value, rest) ← item input
        let (values, rest) ← readFollowing item close fuel rest
        some (value :: values, rest)
      else none

def readJoined (item : Bytes → Option (Value × Bytes)) (close : UInt8) (input : Bytes) : Option (List Value × Bytes) :=
  if input.head? = some close then some ([], input.drop 1)
  else do
    let (value, rest) ← item input
    let (values, rest) ← readFollowing item close (rest.length + 1) rest
    some (value :: values, rest)

def readMember (quoted : Codec Text) (item : Bytes → Option (JsonTree Text × Bytes)) (input : Bytes) :
    Option ((Text × JsonTree Text) × Bytes) := do
  let (name, rest) ← quoted.parse input
  let rest ← stripPrefix [58] rest
  let (value, rest) ← item rest
  some ((name, value), rest)

def JsonTree.read (quoted : Codec Text) : Nat → Bytes → Option (JsonTree Text × Bytes)
  | 0, _ => none
  | _ + 1, [] => none
  | depth + 1, byte :: input =>
      if byte = 91 then (readJoined (JsonTree.read quoted depth) 93 input).map fun answer => (.array answer.1, answer.2)
      else if byte = 123 then
        (readJoined (readMember quoted (JsonTree.read quoted depth)) 125 input).map fun answer => (.object answer.1, answer.2)
      else (quoted.parse (byte :: input)).map fun answer => (.text answer.1, answer.2)

def JsonTree.Within : Nat → JsonTree Text → Prop
  | 0, _ => False
  | _ + 1, .text _ => True
  | depth + 1, .array elements => ∀ element ∈ elements, Within depth element
  | depth + 1, .object members => ∀ member ∈ members, Within depth member.2

theorem write_elements_map (quoted : Codec Text) (elements : List (JsonTree Text)) :
    writeElements quoted elements = elements.map (JsonTree.write quoted) := by
  induction elements with
  | nil => rfl
  | cons element rest ih => rw [writeElements, ih, List.map_cons]

def writeMember (quoted : Codec Text) (member : Text × JsonTree Text) : Bytes :=
  quoted.print member.1 ++ 58 :: member.2.write quoted

theorem write_members_map (quoted : Codec Text) (members : List (Text × JsonTree Text)) :
    writeMembers quoted members = members.map (writeMember quoted) := by
  induction members with
  | nil => rfl
  | cons member rest ih => rw [writeMembers, ih, List.map_cons, writeMember]

theorem print_tail_following (item : Codec Value) (close : UInt8) (values : List Value) :
    Codec.printTail item 44 close values = following close (values.map item.print) := by
  induction values with
  | nil => rfl
  | cons value rest ih => rw [Codec.printTail, ih, List.map_cons, following]

theorem print_items_joined (item : Codec Value) (close : UInt8) (values : List Value) :
    Codec.printItems item 44 close values = joined close (values.map item.print) := by
  cases values with
  | nil => rfl
  | cons value rest => rw [Codec.printItems, print_tail_following, List.map_cons, joined]

section Sequences
variable (item : Bytes → Option (Value × Bytes)) (piece : Value → Bytes) (close : UInt8)

theorem following_length (pieces : List Bytes) : pieces.length < (following close pieces).length := by
  induction pieces with
  | nil => simp [following]
  | cons piece rest ih =>
      simp only [following, List.length_cons, List.length_append]
      omega

theorem read_following (distinct : close ≠ 44) (values : List Value) (rest : Bytes) (fuel : Nat)
    (reads : ∀ value ∈ values, ∀ rest, item (piece value ++ rest) = some (value, rest))
    (enough : values.length < fuel) :
    readFollowing item close fuel (following close (values.map piece) ++ rest) = some (values, rest) := by
  induction values generalizing fuel with
  | nil =>
      cases fuel with
      | zero => simp at enough
      | succ fuel => simp [following, readFollowing]
  | cons value values ih =>
      cases fuel with
      | zero => simp at enough
      | succ fuel =>
          have less : values.length < fuel := by simpa using enough
          have later := ih fuel (fun other member => reads other (List.mem_cons_of_mem _ member)) less
          simp only [List.map_cons, following, List.cons_append, List.append_assoc, readFollowing, if_neg distinct.symm, if_true,
            reads value (List.mem_cons_self ..), Option.bind_eq_bind, Option.bind_some, later]

theorem read_joined (distinct : close ≠ 44) (values : List Value) (rest : Bytes)
    (reads : ∀ value ∈ values, ∀ rest, item (piece value ++ rest) = some (value, rest))
    (starts : ∀ value ∈ values, ∀ rest, (piece value ++ rest).head? ≠ some close) :
    readJoined item close (joined close (values.map piece) ++ rest) = some (values, rest) := by
  cases values with
  | nil => simp [joined, readJoined]
  | cons value values =>
      have counted := following_length close (values.map piece)
      rw [List.length_map] at counted
      have later := read_following item piece close distinct values rest _
        (fun other member => reads other (List.mem_cons_of_mem _ member))
        (Nat.lt_succ_of_lt (Nat.lt_of_lt_of_le counted (Nat.le_add_right _ rest.length)))
      rw [List.map_cons, joined, List.append_assoc, readJoined, if_neg (starts value (List.mem_cons_self ..) _),
        reads value (List.mem_cons_self ..)]
      simp only [Option.bind_eq_bind, Option.bind_some, List.length_append, later]

end Sequences

theorem read_member (quoted : Codec Text) (item : Bytes → Option (JsonTree Text × Bytes)) (member : Text × JsonTree Text)
    (rest : Bytes)     (reads : ∀ rest, item (member.2.write quoted ++ rest) = some (member.2, rest)) :
    readMember quoted item (writeMember quoted member ++ rest) = some (member, rest) := by
  have colon (tail : Bytes) : stripPrefix [58] (58 :: tail) = some tail := strip_prefix_append [58] tail
  simp only [readMember, writeMember, List.append_assoc, List.cons_append, quoted.readsBack, Option.bind_eq_bind,
    Option.bind_some, colon, reads]

section Documents
variable (quoted : Codec Text) (marked : ∀ value rest, (quoted.print value ++ rest).head? = some 34)
include marked

theorem quoted_starts (value : Text) (rest : Bytes) : ∃ tail, quoted.print value ++ rest = 34 :: tail := by
  have start := marked value rest
  cases found : quoted.print value ++ rest with
  | nil => simp [found] at start
  | cons byte tail =>
      rw [found, List.head?_cons, Option.some.injEq] at start
      exact ⟨tail, start ▸ rfl⟩

theorem write_starts (json : JsonTree Text) (rest : Bytes) :
    (json.write quoted ++ rest).head? = some 34 ∨ (json.write quoted ++ rest).head? = some 91 ∨
      (json.write quoted ++ rest).head? = some 123 := by
  cases json with
  | text value => exact .inl (marked value rest)
  | array elements => exact .inr (.inl rfl)
  | object members => exact .inr (.inr rfl)

theorem read_write (depth : Nat) (json : JsonTree Text) (rest : Bytes) (within : json.Within depth) :
    JsonTree.read quoted depth (json.write quoted ++ rest) = some (json, rest) := by
  induction depth generalizing json rest with
  | zero => exact absurd within id
  | succ depth ih =>
      cases json with
      | text value =>
          obtain ⟨tail, written⟩ := quoted_starts quoted marked value rest
          have back := quoted.readsBack value rest
          rw [written] at back
          rw [JsonTree.write, written, JsonTree.read, if_neg (by decide), if_neg (by decide), back]
          rfl
      | array elements =>
          have apart (element : JsonTree Text) (_ : element ∈ elements) (rest : Bytes) :
              (element.write quoted ++ rest).head? ≠ some 93 := by
            rcases write_starts quoted marked element rest with start | start | start <;> simp [start]
          have back := read_joined (JsonTree.read quoted depth) (JsonTree.write quoted) 93 (by decide) elements rest
            (fun element member rest => ih element rest (within element member)) apart
          rw [JsonTree.write, write_elements_map, List.cons_append, JsonTree.read, if_pos rfl, back]
          rfl
      | object members =>
          have apart (member : Text × JsonTree Text) (_ : member ∈ members) (rest : Bytes) :
              (writeMember quoted member ++ rest).head? ≠ some 125 := by
            rw [writeMember, List.append_assoc, marked]
            simp
          have back := read_joined (readMember quoted (JsonTree.read quoted depth)) (writeMember quoted) 125 (by decide) members rest
            (fun member inside rest => read_member quoted _ member rest fun rest => ih member.2 rest (within member inside)) apart
          rw [JsonTree.write, write_members_map, List.cons_append, JsonTree.read, if_neg (by decide), if_pos rfl, back]
          rfl

end Documents
end Codecs
