import Secrets.Client
import Secrets.Lib.Urls
import Secrets.RequestSizes

set_option autoImplicit false

namespace Secrets

open Codecs Urls
open Framing (Bytes)

inductive BatchCall where
  | prepare
  | commit
  | abort
deriving DecidableEq

inductive Method where
  | put
  | post
deriving DecidableEq

namespace BatchCall

def route : BatchCall → Route
  | .prepare => .workloadPrepare
  | .commit => .workloadCommit
  | .abort => .workloadAbort

def method : BatchCall → Method
  | .prepare => .put
  | .commit => .post
  | .abort => .post

def verb : BatchCall → String
  | .prepare => ""
  | .commit => "/commit"
  | .abort => "/abort"

def reference (call : BatchCall) (tenant : String) (transaction : Uuid) : Bytes :=
  textBytes "v1/workload/tenants/" ++ textBytes tenant ++ textBytes "/transactions/" ++ Client.hyphenated transaction ++
    textBytes call.verb

def path (set : PathSet) (call : BatchCall) (tenant : String) (transaction : Uuid) : Bytes :=
  joinPath set (call.reference tenant transaction)

end BatchCall

namespace BatchPath

section Router

inductive Piece where
  | fixed (text : String)
  | param

def matched : List Piece → List Bytes → Option (List Bytes)
  | [], [] => some []
  | .fixed text :: rest, segment :: segments => if segment = textBytes text then matched rest segments else none
  | .param :: rest, segment :: segments => if segment = [] then none else (matched rest segments).map fun found => segment :: found
  | _, _ => none

def transactionPattern : List Piece :=
  [.fixed "v1", .fixed "workload", .fixed "tenants", .param, .fixed "transactions", .param]

def pattern : BatchCall → List Piece
  | .prepare => transactionPattern
  | .commit => transactionPattern ++ [.fixed "commit"]
  | .abort => transactionPattern ++ [.fixed "abort"]

def tried (method : Method) (segments : List Bytes) (call : BatchCall) : Option (BatchCall × Bytes × Bytes) :=
  match matched (pattern call) segments with
  | some [tenant, transaction] => if call.method = method then some (call, tenant, transaction) else none
  | _ => none

def routeOf (method : Method) (path : Bytes) : Option (BatchCall × Bytes × Bytes) :=
  [BatchCall.prepare, .commit, .abort].findSome? (tried method ((path.splitOn 47).drop 1))

def extracted (raw : Bytes × Bytes) : Option (String × Uuid) :=
  match fromUtf8 (percentDecode raw.1), uuidOf (percentDecode raw.2) with
  | some tenant, some transaction => some (tenant, transaction)
  | _, _ => none

def delivered (set : PathSet) (call : BatchCall) (tenant : String) (transaction : Uuid) : Option (Route × String × Uuid) :=
  match routeOf call.method (call.path set tenant transaction) with
  | some (found, raw) => (extracted raw).map fun params => (found.route, params)
  | none => none

end Router

-- A tenant that goes through a path unescaped.
structure PathSafe (tenant : String) : Prop where
  some : tenant ≠ ""
  plain : ∀ byte ∈ textBytes tenant, ¬Special byte
  dotless : tenant ≠ "." ∧ tenant ≠ ".."
  escapeFree : EscapeFree (textBytes tenant)

section Parts
variable (call : BatchCall) (tenant : String) (transaction : Uuid)

def front : Bytes := textBytes "v1/workload/tenants"

def back : Bytes := textBytes "transactions" ++ 47 :: (Client.hyphenated transaction ++ textBytes call.verb)

theorem reference_parts : call.reference tenant transaction = (front ++ [47]) ++ textBytes tenant ++ (47 :: back call transaction) := by
  have head : textBytes "v1/workload/tenants/" = front ++ [47] := by decide
  have middle : textBytes "/transactions/" = 47 :: (textBytes "transactions" ++ [47]) := by decide
  rw [BatchCall.reference, head, middle, back]
  simp

theorem hyphenated_unreserved : ∀ byte ∈ Client.hyphenated transaction, isUnreserved byte = true := by
  have digits : ∀ value < 16, isUnreserved (hexDigit value) = true := by decide
  have group : ∀ start count : Nat, ∀ byte ∈ (((transaction.toList.flatMap fun byte =>
      [hexDigit (byte.toNat / 16), hexDigit (byte.toNat % 16)]).drop start).take count), isUnreserved byte = true := by
    intro start count byte member
    obtain ⟨source, _, inside⟩ := List.mem_flatMap.mp (List.mem_of_mem_drop (List.mem_of_mem_take member))
    have small := source.toNat_lt
    simp only [List.mem_cons, List.not_mem_nil, or_false] at inside
    rcases inside with rfl | rfl
    · exact digits _ (by omega)
    · exact digits _ (by omega)
  intro byte member
  simp only [Client.hyphenated, dashed, List.mem_append, List.mem_cons, or_assoc] at member
  rcases member with first | rfl | second | rfl | third | rfl | fourth | rfl | last
  · exact group 0 8 byte first
  · rfl
  · exact group 8 4 byte second
  · rfl
  · exact group 12 4 byte third
  · rfl
  · exact group 16 4 byte fourth
  · rfl
  · exact group 20 12 byte last

theorem unreserved_plain (byte : UInt8) (unreserved : isUnreserved byte = true) :
    Plain byte ∧ isSlash byte = false ∧ byte ≠ 37 := by
  have all : ∀ code < 256, isUnreserved (UInt8.ofNat code) = true → (isMargin (UInt8.ofNat code) = false ∧
      isDropped (UInt8.ofNat code) = false ∧ isEnd (UInt8.ofNat code) = false) ∧ isSlash (UInt8.ofNat code) = false ∧
        UInt8.ofNat code ≠ 37 := by decide +kernel
  have known := all byte.toNat byte.toNat_lt
  rw [UInt8.ofNat_toNat] at known
  exact known unreserved

theorem word_unreserved : ∀ text ∈ ["v1", "workload", "tenants", "transactions", "commit", "abort"], ∀ byte ∈ textBytes text,
    isUnreserved byte = true := by decide +kernel

theorem verb_bytes : textBytes call.verb = [] ∨ ∃ word ∈ ["commit", "abort"], textBytes call.verb = 47 :: textBytes word := by
  cases call with
  | prepare => exact .inl (by decide)
  | commit => exact .inr ⟨"commit", by simp, by decide⟩
  | abort => exact .inr ⟨"abort", by simp, by decide⟩

theorem part_bytes (byte : UInt8) (member : byte ∈ front ∨ byte ∈ back call transaction) : isUnreserved byte = true ∨ byte = 47 := by
  have word (text : String) (known : text ∈ ["v1", "workload", "tenants", "transactions", "commit", "abort"]) :
      ∀ byte ∈ textBytes text, isUnreserved byte = true ∨ byte = 47 := fun byte member => .inl (word_unreserved text known byte member)
  rcases member with first | last
  · have parted : front = textBytes "v1" ++ 47 :: (textBytes "workload" ++ 47 :: textBytes "tenants") := by decide
    simp only [parted, List.mem_append, List.mem_cons] at first
    rcases first with version | slash | workload | slash | tenants
    · exact word "v1" (by simp) byte version
    · exact .inr slash
    · exact word "workload" (by simp) byte workload
    · exact .inr slash
    · exact word "tenants" (by simp) byte tenants
  · rcases List.mem_append.mp last with before | later
    · exact word "transactions" (by simp) byte before
    · rcases List.mem_cons.mp later with slash | rest
      · exact .inr slash
      · rcases List.mem_append.mp rest with id | ending
        · exact .inl (hyphenated_unreserved transaction byte id)
        · rcases verb_bytes call with none | ⟨text, known, verb⟩
          · rw [none] at ending
            cases ending
          · rw [verb] at ending
            rcases List.mem_cons.mp ending with slash | inside
            · exact .inr slash
            · have listed : ∀ text ∈ ["commit", "abort"], text ∈ ["v1", "workload", "tenants", "transactions", "commit", "abort"] := by
                simp
              exact word text (listed text known) byte inside

theorem part_plain (byte : UInt8) (member : byte ∈ front ∨ byte ∈ back call transaction) : Plain byte ∧ byte ≠ 37 := by
  rcases part_bytes call transaction byte member with unreserved | rfl
  · obtain ⟨plain, _, other⟩ := unreserved_plain byte unreserved
    exact ⟨plain, other⟩
  · exact ⟨⟨rfl, rfl, rfl⟩, by decide⟩

theorem part_piece (part piece : Bytes) (within : ∀ byte ∈ part, Plain byte ∧ byte ≠ 37) (member : piece ∈ part.splitOnP isSlash) :
    percentDecode piece = piece ∧ ∀ byte ∈ piece, ¬Special byte := by
  obtain ⟨inside, _, _⟩ := piece_parts isSlash part piece member
  constructor
  · rw [decode_same]
    intro before after same
    have percent : (37 : UInt8) ∈ piece := by simp [same]
    exact absurd rfl (within 37 (inside 37 percent).2).2
  · intro byte among special
    obtain ⟨slashless, here⟩ := inside byte among
    obtain ⟨⟨_, undropped, unended⟩, _⟩ := within byte here
    rcases special with slash | ends | dropped
    · rw [slashless] at slash
      cases slash
    · rw [unended] at ends
      cases ends
    · rw [undropped] at dropped
      cases dropped

end Parts

section Routes
variable (set : PathSet) (call : BatchCall) (tenant : String) (transaction : Uuid)

def ending : BatchCall → List Bytes
  | .prepare => []
  | .commit => [textBytes "commit"]
  | .abort => [textBytes "abort"]

theorem hyphenated_slashless : ∀ byte ∈ Client.hyphenated transaction, isSlash byte = false :=
  fun byte member => (unreserved_plain byte (hyphenated_unreserved transaction byte member)).2.1

theorem front_split : front.splitOnP isSlash = [textBytes "v1", textBytes "workload", textBytes "tenants"] := by decide

theorem back_split : (back call transaction).splitOnP isSlash =
    textBytes "transactions" :: Client.hyphenated transaction :: ending call := by
  have name : (textBytes "transactions").splitOnP isSlash = [textBytes "transactions"] := by decide
  rw [back, split_slash, name, List.singleton_append]
  cases call with
  | prepare =>
      have none : textBytes BatchCall.prepare.verb = [] := by decide
      rw [none, List.append_nil, List.splitOnP_eq_singleton (hyphenated_slashless transaction)]
      rfl
  | commit =>
      have verb : textBytes BatchCall.commit.verb = 47 :: textBytes "commit" := by decide
      have single : (textBytes "commit").splitOnP isSlash = [textBytes "commit"] := by decide
      rw [verb, split_slash, List.splitOnP_eq_singleton (hyphenated_slashless transaction), single]
      rfl
  | abort =>
      have verb : textBytes BatchCall.abort.verb = 47 :: textBytes "abort" := by decide
      have single : (textBytes "abort").splitOnP isSlash = [textBytes "abort"] := by decide
      rw [verb, split_slash, List.splitOnP_eq_singleton (hyphenated_slashless transaction), single]
      rfl

def around (middle : List Bytes) : List Bytes :=
  [textBytes "v1", textBytes "workload", textBytes "tenants"] ++ middle ++
    textBytes "transactions" :: Client.hyphenated transaction :: ending call

theorem encoded_pieces (plain : ∀ byte ∈ textBytes tenant, ¬Special byte) :
    (pieces (call.reference tenant transaction)).map (encode set) = around call transaction [encode set (textBytes tenant)] := by
  have id := encode_unreserved set _ (hyphenated_unreserved transaction)
  have name (text : String) (member : text ∈ ["v1", "workload", "tenants", "transactions", "commit", "abort"]) :
      encode set (textBytes text) = textBytes text := encode_unreserved set _ (word_unreserved text member)
  have last : (ending call).map (encode set) = ending call := by
    cases call with
    | prepare => rfl
    | commit => rw [ending, List.map_singleton, name "commit" (by simp)]
    | abort => rw [ending, List.map_singleton, name "abort" (by simp)]
  rw [reference_parts, pieces_whole front _ _ (fun byte member => (part_plain call transaction byte (.inl member)).1)
    (fun byte member => (part_plain call transaction byte (.inr member)).1) plain, front_split, back_split, around]
  simp only [List.map_cons, last, id, name "v1" (by simp), name "workload" (by simp),
    name "tenants" (by simp), name "transactions" (by simp), List.cons_append, List.nil_append]

theorem fixed_dotless : ∀ segment ∈ [textBytes "v1", textBytes "workload", textBytes "tenants", textBytes "transactions",
    textBytes "commit", textBytes "abort"], Dotless segment := by
  unfold Dotless
  decide

theorem id_dotless : Dotless (Client.hyphenated transaction) := by
  have doubles : ∀ segment, doubleDot segment = true → segment.length < 36 := by
    have all : ∀ segment ∈ dots.flatMap fun first => dots.map fun second => first ++ second, segment.length < 36 := by decide
    exact fun segment double => all segment (of_decide_eq_true double)
  have singles : ∀ segment, singleDot segment = true → segment.length < 36 := by
    have all : ∀ segment ∈ dots, segment.length < 36 := by decide
    exact fun segment single => all segment (of_decide_eq_true single)
  have length := hyphenated_length transaction
  constructor
  · cases double : doubleDot (Client.hyphenated transaction) with
    | false => rfl
    | true =>
        have short := doubles _ double
        omega
  · cases single : singleDot (Client.hyphenated transaction) with
    | false => rfl
    | true =>
        have short := singles _ single
        omega

theorem behind_dotless : ∀ segment ∈ textBytes "transactions" :: Client.hyphenated transaction :: ending call, Dotless segment := by
  intro segment member
  rcases List.mem_cons.mp member with rfl | later
  · exact fixed_dotless _ (by simp)
  · rcases List.mem_cons.mp later with rfl | last
    · exact id_dotless transaction
    · cases call with
      | prepare => cases last
      | commit =>
          obtain rfl := List.mem_singleton.mp last
          exact fixed_dotless _ (by simp)
      | abort =>
          obtain rfl := List.mem_singleton.mp last
          exact fixed_dotless _ (by simp)

theorem before_dotless : ∀ segment ∈ [textBytes "v1", textBytes "workload", textBytes "tenants"], Dotless segment :=
  fun segment member => fixed_dotless segment (by
    simp only [List.mem_cons, List.not_mem_nil, or_false] at member ⊢
    rcases member with rfl | rfl | rfl <;> simp)

theorem resolve_around (segment : Bytes) : resolve [] (around call transaction [segment]) =
    if doubleDot segment then
      [textBytes "v1", textBytes "workload"] ++ textBytes "transactions" :: Client.hyphenated transaction :: ending call
    else if singleDot segment then around call transaction []
    else around call transaction [segment] := by
  rw [around, List.append_assoc, resolve_append _ _ _ before_dotless, List.nil_append, List.singleton_append]
  by_cases double : doubleDot segment = true
  · rw [if_pos double, resolve_double _ _ segment double (by simp), resolve_dotless _ _ (behind_dotless call transaction)]
    rfl
  · rw [if_neg double]
    rw [Bool.not_eq_true] at double
    by_cases single : singleDot segment = true
    · rw [if_pos single, resolve_single _ _ segment double single (by simp), resolve_dotless _ _ (behind_dotless call transaction)]
      rfl
    · rw [if_neg single]
      rw [Bool.not_eq_true] at single
      have dotless : ∀ other ∈ segment :: textBytes "transactions" :: Client.hyphenated transaction :: ending call, Dotless other := by
        intro other member
        rcases List.mem_cons.mp member with rfl | later
        · exact ⟨double, single⟩
        · exact behind_dotless call transaction other later
      rw [resolve_dotless _ _ dotless]

theorem text_bytes_eq (first second : String) : textBytes first = textBytes second ↔ first = second :=
  ⟨text_bytes_injective first second, fun same => same ▸ rfl⟩

theorem id_some : Client.hyphenated transaction ≠ [] := by
  intro empty
  have length := hyphenated_length transaction
  rw [empty] at length
  cases length

theorem id_not_transactions : Client.hyphenated transaction ≠ textBytes "transactions" := by
  intro same
  have length := hyphenated_length transaction
  have short : (textBytes "transactions").length = 12 := by decide
  rw [same, short] at length
  cases length

theorem tried_around (other : BatchCall) (method : Method) (segment : Bytes) (some : segment ≠ []) :
    tried method (around call transaction [segment]) other =
      if other = call ∧ call.method = method then .some (call, segment, Client.hyphenated transaction) else none := by
  have id := id_some transaction
  cases call <;> cases other <;>
    simp [tried, matched, pattern, transactionPattern, around, ending, text_bytes_eq, some, id]

theorem routed_around (segment : Bytes) (some : segment ≠ []) :
    [BatchCall.prepare, .commit, .abort].findSome? (tried call.method (around call transaction [segment])) =
      .some (call, segment, Client.hyphenated transaction) := by
  cases call <;> simp [tried_around, some]

theorem tried_dots (other : BatchCall) (method : Method) : tried method (around call transaction []) other = none ∧
    tried method ([textBytes "v1", textBytes "workload"] ++ textBytes "transactions" :: Client.hyphenated transaction :: ending call)
      other = none := by
  have id := id_not_transactions transaction
  cases call <;> cases other <;>
    simp [tried, matched, pattern, transactionPattern, around, ending, text_bytes_eq, id]

theorem routed_dots : [BatchCall.prepare, .commit, .abort].findSome? (tried call.method (around call transaction [])) = none ∧
    [BatchCall.prepare, .commit, .abort].findSome? (tried call.method
      ([textBytes "v1", textBytes "workload"] ++ textBytes "transactions" :: Client.hyphenated transaction :: ending call)) = none := by
  constructor
  · rw [List.findSome?_eq_none_iff]
    exact fun other _ => (tried_dots call transaction other call.method).1
  · rw [List.findSome?_eq_none_iff]
    exact fun other _ => (tried_dots call transaction other call.method).2

theorem routed_path : routeOf call.method (call.path set tenant transaction) =
    [BatchCall.prepare, .commit, .abort].findSome? (tried call.method
      (resolve [] ((pieces (call.reference tenant transaction)).map (encode set)))) := by
  rw [routeOf, BatchCall.path, split_join]
  rfl

theorem id_decodes : uuidOf (percentDecode (Client.hyphenated transaction)) = some transaction := by
  have plain : percentDecode (Client.hyphenated transaction) = Client.hyphenated transaction := by
    rw [decode_same]
    intro before after same
    have percent : (37 : UInt8) ∈ Client.hyphenated transaction := by simp [same]
    exact absurd rfl (unreserved_plain 37 (hyphenated_unreserved transaction 37 percent)).2.2
  rw [plain, uuid_of_hyphenated]

theorem from_utf8_some (bytes : Bytes) (text : String) (read : fromUtf8 bytes = some text) : textBytes text = bytes := by
  rw [fromUtf8, String.fromUTF8?] at read
  split at read
  · obtain rfl := Option.some.inj read
    simp [textBytes, String.fromUTF8]
  · cases read

theorem matched_params (patterns : List Piece) (segments found : List Bytes) (hit : matched patterns segments = some found) :
    ∀ segment ∈ found, segment ∈ segments ∧ segment ≠ [] := by
  induction patterns generalizing segments found with
  | nil =>
      cases segments with
      | nil =>
          obtain rfl := Option.some.inj hit
          simp
      | cons first rest => cases hit
  | cons piece rest ih =>
      cases segments with
      | nil => cases piece <;> cases hit
      | cons first others =>
          cases piece with
          | fixed text =>
              rw [matched] at hit
              split at hit
              · exact fun segment member => ⟨List.mem_cons_of_mem _ (ih others found hit segment member).1, (ih others found hit segment member).2⟩
              · cases hit
          | param =>
              rw [matched] at hit
              split at hit
              · cases hit
              · rename_i some
                obtain ⟨later, tail, rfl⟩ := Option.map_eq_some_iff.mp hit
                intro segment member
                rcases List.mem_cons.mp member with rfl | inside
                · exact ⟨List.mem_cons_self .., some⟩
                · exact ⟨List.mem_cons_of_mem _ (ih others later tail segment inside).1, (ih others later tail segment inside).2⟩

theorem tried_segment (method : Method) (segments : List Bytes) (candidate other : BatchCall) (raw : Bytes × Bytes)
    (hit : tried method segments candidate = some (other, raw)) : raw.1 ∈ segments ∧ raw.1 ≠ [] := by
  rw [tried] at hit
  split at hit
  · rename_i first second found
    split at hit
    · obtain ⟨_, rfl⟩ := Prod.mk.inj (Option.some.inj hit)
      exact matched_params _ segments _ found first (List.mem_cons_self ..)
    · cases hit
  · cases hit

theorem delivered_segment (route : Route) (given : String) (id : Uuid)
    (found : delivered set call tenant transaction = some (route, given, id)) :
    ∃ segment ∈ resolve [] ((pieces (call.reference tenant transaction)).map (encode set)),
      segment ≠ [] ∧ percentDecode segment = textBytes given := by
  rw [delivered, routed_path] at found
  split at found
  · rename_i other raw routed
    obtain ⟨params, read, same⟩ := Option.map_eq_some_iff.mp found
    obtain ⟨_, rfl⟩ := Prod.mk.inj same
    obtain ⟨candidate, _, hit⟩ := List.exists_of_findSome?_eq_some routed
    obtain ⟨member, some⟩ := tried_segment call.method _ candidate other raw hit
    rw [extracted] at read
    split at read
    · rename_i decoded transaction text _
      obtain ⟨rfl, _⟩ := Prod.mk.inj (Option.some.inj read)
      exact ⟨raw.1, member, some, (from_utf8_some _ _ text).symm⟩
    · cases read
  · cases found

theorem delivered_plain (found : delivered set call tenant transaction = some (call.route, tenant, transaction)) :
    ∀ byte ∈ textBytes tenant, ¬Special byte := by
  obtain ⟨segment, member, some, decoded⟩ := delivered_segment set call tenant transaction _ _ _ found
  rcases resolve_mem _ _ segment member with empty | none | inside
  · exact absurd empty some
  · cases none
  · obtain ⟨piece, among, rfl⟩ := List.mem_map.mp inside
    rw [decode_encode] at decoded
    rw [reference_parts] at among
    have within : ∀ part, part = front ∨ part = back call transaction → ∀ byte ∈ part, Plain byte ∧ byte ≠ 37 := by
      intro part which byte here
      rcases which with rfl | rfl
      · exact part_plain call transaction byte (.inl here)
      · exact part_plain call transaction byte (.inr here)
    have fixed : ∀ part, part = front ∨ part = back call transaction → piece ∈ part.splitOnP isSlash →
        ∀ byte ∈ textBytes tenant, ¬Special byte := by
      intro part which split
      obtain ⟨same, plain⟩ := part_piece part piece (within part which) split
      rw [← decoded, same]
      exact plain
    rcases pieces_around front _ _ (fun byte here => (within front (.inl rfl) byte here).1)
      (fun byte here => (within (back call transaction) (.inr rfl) byte here).1) piece among with before | middle | behind
    · exact fixed front (.inl rfl) before
    · apply whole_piece (textBytes tenant) piece middle
      have shorter := decode_length piece
      rwa [decoded] at shorter
    · exact fixed (back call transaction) (.inr rfl) behind

theorem tenant_bytes (text : String) (bytes : Bytes) (same : textBytes text = bytes) (known : textBytes tenant = bytes) : tenant = text :=
  text_bytes_injective tenant text (known.trans same.symm)

theorem encoded_dotless (safe : PathSafe tenant) : Dotless (encode set (textBytes tenant)) := by
  have back : percentDecode (encode set (textBytes tenant)) = textBytes tenant := by
    rw [decode_encode, decode_same]
    exact safe.escapeFree
  obtain ⟨double, single⟩ := dots_decode (encode set (textBytes tenant))
  rw [back] at double single
  constructor
  · cases found : doubleDot (encode set (textBytes tenant)) with
    | false => rfl
    | true => exact absurd (tenant_bytes tenant ".." _ (by decide) (double found)) safe.dotless.2
  · cases found : singleDot (encode set (textBytes tenant)) with
    | false => rfl
    | true => exact absurd (tenant_bytes tenant "." _ (by decide) (single found)) safe.dotless.1

theorem encoded_some (some : tenant ≠ "") : encode set (textBytes tenant) ≠ [] := by
  intro empty
  have none : textBytes tenant = [] := by
    cases bytes : textBytes tenant with
    | nil => rfl
    | cons byte rest =>
        rw [bytes, encode_cons, encodeByte] at empty
        split at empty <;> simp at empty
  exact some (tenant_bytes tenant "" [] (by decide) none)

theorem delivered_dotless (plain : ∀ byte ∈ textBytes tenant, ¬Special byte) (params : Route × String × Uuid)
    (found : delivered set call tenant transaction = some params) : Dotless (encode set (textBytes tenant)) := by
  obtain ⟨single, double⟩ := routed_dots call transaction
  rw [delivered, routed_path, encoded_pieces set call tenant transaction plain, resolve_around] at found
  by_cases two : doubleDot (encode set (textBytes tenant)) = true
  · rw [if_pos two, double] at found
    cases found
  · by_cases one : singleDot (encode set (textBytes tenant)) = true
    · rw [if_neg two, if_pos one, single] at found
      cases found
    · exact ⟨Bool.not_eq_true _ ▸ two, Bool.not_eq_true _ ▸ one⟩

theorem not_dots (dotless : Dotless (encode set (textBytes tenant))) : tenant ≠ "." ∧ tenant ≠ ".." := by
  have one : textBytes "." = [46] := by decide
  have two : textBytes ".." = [46, 46] := by decide
  have dot : isUnreserved 46 = true := by decide
  obtain ⟨double, single⟩ := dotless
  constructor
  · intro same
    rw [same, one, encode_unreserved set [46] (by simp [dot])] at single
    cases single
  · intro same
    rw [same, two, encode_unreserved set [46, 46] (by simp [dot])] at double
    cases double

theorem delivered_plainly (plain : ∀ byte ∈ textBytes tenant, ¬Special byte) (dotless : Dotless (encode set (textBytes tenant)))
    (some : encode set (textBytes tenant) ≠ []) : delivered set call tenant transaction =
      (extracted (encode set (textBytes tenant), Client.hyphenated transaction)).map fun params => (call.route, params) := by
  rw [delivered, routed_path, encoded_pieces set call tenant transaction plain, resolve_around, dotless.1, dotless.2,
    if_neg (by decide), if_neg (by decide), routed_around call transaction _ some]

end Routes

end BatchPath

/-- A batch call reaches the handler of its own tenant and transaction exactly for a tenant
that goes through a path unescaped. -/
theorem batch_path_reaches (set : PathSet) (call : BatchCall) (tenant : String) (transaction : Uuid) :
    BatchPath.delivered set call tenant transaction = some (call.route, tenant, transaction) ↔ BatchPath.PathSafe tenant := by
  constructor
  · intro found
    have plain := BatchPath.delivered_plain set call tenant transaction found
    have dotless := BatchPath.delivered_dotless set call tenant transaction plain _ found
    obtain ⟨segment, _, some, decoded⟩ := BatchPath.delivered_segment set call tenant transaction _ _ _ found
    have named : tenant ≠ "" := by
      intro empty
      have none : textBytes "" = [] := by decide
      rw [empty, none] at decoded
      exact decode_some segment some decoded
    refine ⟨named, plain, BatchPath.not_dots set tenant dotless, ?_⟩
    rw [BatchPath.delivered_plainly set call tenant transaction plain dotless (BatchPath.encoded_some set tenant named)] at found
    obtain ⟨params, read, same⟩ := Option.map_eq_some_iff.mp found
    obtain ⟨_, rfl⟩ := Prod.mk.inj same
    rw [BatchPath.extracted, decode_encode] at read
    split at read
    · rename_i text id utf8 _
      obtain ⟨rfl, _⟩ := Prod.mk.inj (Option.some.inj read)
      rw [← decode_same]
      exact (BatchPath.from_utf8_some _ _ utf8).symm
    · cases read
  · intro safe
    have back : percentDecode (encode set (textBytes tenant)) = textBytes tenant := by
      rw [decode_encode, decode_same]
      exact safe.escapeFree
    rw [BatchPath.delivered_plainly set call tenant transaction safe.plain (BatchPath.encoded_dotless set tenant safe)
      (BatchPath.encoded_some set tenant safe.some), BatchPath.extracted, back, from_utf8_text_bytes, BatchPath.id_decodes]
    rfl

def urlPath : PathSet where
  escapes byte := decide (byte ≤ 32) || decide (127 ≤ byte) ||
    decide (byte ∈ ([34, 35, 60, 62, 63, 96, 123, 125] : Bytes))
  percent := by decide
  unreserved byte unreserved := by
    have all : ∀ code < 256, isUnreserved (UInt8.ofNat code) = true → (decide (UInt8.ofNat code ≤ 32) ||
        decide (127 ≤ UInt8.ofNat code) || decide (UInt8.ofNat code ∈ ([34, 35, 60, 62, 63, 96, 123, 125] : Bytes))) = false := by
      decide +kernel
    have known := all byte.toNat byte.toNat_lt
    rw [UInt8.ofNat_toNat] at known
    exact known unreserved

theorem slashed_tenant_unreached : validateRef ⟨"a/b", "n", "k"⟩ = .ok () ∧
    ∀ call, BatchPath.delivered urlPath call "a/b" Sample.transaction ≠ some (call.route, "a/b", Sample.transaction) := by
  have slash : (47 : UInt8) ∈ textBytes "a/b" := by decide
  refine ⟨by decide +kernel, fun call found => ?_⟩
  exact BatchPath.delivered_plain urlPath call "a/b" Sample.transaction found 47 slash (.inl rfl)

end Secrets
