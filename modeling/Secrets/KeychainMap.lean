import Secrets.Keychain
import Secrets.SecretMap

set_option autoImplicit false

namespace Secrets

open Std (ExtTreeMap)
open Effects Programs Storage Separated
open Framing (Bytes)

namespace Keychain

section Users

theorem entry_user_joined (address : Address) : (entryUser address).toList =
    joined '/' [address.scope.tenant.text.toList, address.scope.nameSpace.text.toList, address.scope.user.text.toList,
      address.name.text.toList] := by
  simp [entryUser, joined]

theorem parsed_scope_name (name : ScopeName) : (ScopeName.parse (String.ofList name.text.toList)).toOption = some name := by
  rw [String.ofList_toList, (scope_name_parse name _).mpr rfl]
  rfl

theorem parsed_secret_name (name : SecretName) : (SecretName.parse (String.ofList name.text.toList)).toOption = some name := by
  rw [String.ofList_toList, (secret_name_parse name _).mpr rfl]
  rfl

theorem decode_entry_user (address : Address) : decodeUser (entryUser address) = some address := by
  have split := splitn_joined '/' [address.scope.tenant.text.toList, address.scope.nameSpace.text.toList,
    address.scope.user.text.toList, address.name.text.toList]
    ⟨scope_name_no_slash _, scope_name_no_slash _, scope_name_no_slash _, trivial⟩ (List.cons_ne_nil _ _)
  rw [decodeUser, entry_user_joined]
  simp only [List.length_cons, List.length_nil, Nat.zero_add, Nat.reduceAdd] at split
  simp only [split, parsed_scope_name, parsed_secret_name]
  rfl

theorem scope_name_text (piece : List Char) (name : ScopeName) (parsed : (ScopeName.parse (String.ofList piece)).toOption = some name) :
    piece = name.text.toList := by
  cases checked : ScopeName.parse (String.ofList piece) with
  | error reason =>
      rw [checked] at parsed
      cases parsed
  | ok found =>
      rw [checked] at parsed
      cases parsed
      rw [← (scope_name_parse name _).mp checked, String.toList_ofList]

theorem secret_name_text (piece : List Char) (name : SecretName) (parsed : (SecretName.parse (String.ofList piece)).toOption = some name) :
    piece = name.text.toList := by
  cases checked : SecretName.parse (String.ofList piece) with
  | error reason =>
      rw [checked] at parsed
      cases parsed
  | ok found =>
      rw [checked] at parsed
      cases parsed
      rw [← (secret_name_parse name _).mp checked, String.toList_ofList]

theorem decode_user_some (user : String) (address : Address) (decoded : decodeUser user = some address) :
    user = entryUser address := by
  have whole := joined_splitn '/' 3 user.toList
  rw [decodeUser] at decoded
  split at decoded
  · rename_i tenant nameSpace self name pieces
    simp only [Option.bind_eq_bind, Option.bind_eq_some_iff, Option.some.injEq] at decoded
    obtain ⟨first, one, second, two, third, three, fourth, four, made⟩ := decoded
    rw [pieces, scope_name_text tenant first one, scope_name_text nameSpace second two, scope_name_text self third three,
      secret_name_text name fourth four] at whole
    apply String.toList_injective
    rw [entry_user_joined, ← made, ← whole]
  · cases decoded

theorem place_injective (service : String) (first second : Address) (same : place service first = place service second) :
    first = second := by
  have users : entryUser first = entryUser second := congrArg Entry.user same
  have decoded := decode_entry_user first
  rw [users, decode_entry_user second] at decoded
  cases decoded
  rfl

theorem place_compare (service : String) (first second : Address) :
    compare (place service first) (place service second) = .eq ↔ compare first second = .eq := by
  constructor
  · intro same
    rw [place_injective service first second (Std.LawfulEqOrd.eq_of_compare same)]
    exact Std.ReflOrd.compare_self
  · intro same
    rw [Std.LawfulEqOrd.eq_of_compare same]
    exact Std.ReflOrd.compare_self

end Users

section Blobs

theorem open_blob (version : Uuid) (value : Bytes) : openBlob (blobOf version value) = .ok (versionOf version, value) := by
  have length : version.toList.length = 16 := by simp
  have long : ¬((blobOf version value).length < HEADER ∨ (blobOf version value).head? ≠ some FORMAT) := by
    simp [blobOf, HEADER]
  have header : ((blobOf version value).take HEADER).drop 1 = version.toList := by
    simp [blobOf, HEADER, length]
  have rest : (blobOf version value).drop HEADER = value := by
    simp [blobOf, HEADER, length]
  have back : uuidFromSlice version.toList = some version := by
    rw [uuidFromSlice, dif_pos length]
    rfl
  rw [openBlob, if_neg long, header, back, rest]

end Blobs

def Exact (search : Search) : Prop :=
  ∀ (ring : Ring) (service user : String), ring.contains ⟨service, user⟩ = true →
    (search ring service).count (some ⟨service, user⟩) = 1

def Written (service : String) (ring : Ring) : Prop :=
  ∀ address blob, ring[place service address]? = some blob → ∃ (version : Uuid) (value : SecretValue), blob = blobOf version value.bytes

-- The entries of a service, read as a map, and every other entry as it was.
structure Represents (service : String) (start ring : Ring) (map : SecretMap) : Prop where
  held : ∀ address held, map[address]? = some held →
    ∃ version, ring[place service address]? = some (blobOf version held.value.bytes) ∧ held.version = versionOf version
  absent : ∀ address, map[address]? = none → ring[place service address]? = none
  elsewhere : ∀ entry, (∀ address, entry ≠ place service address) → ring[entry]? = start[entry]?

section Kept
variable (service : String) (start ring : Ring) (map : SecretMap) (represents : Represents service start ring map)
include represents

theorem represents_insert (address : Address) (version : Uuid) (value : SecretValue) :
    Represents service start (ring.insert (place service address) (blobOf version value.bytes))
      (map.insert address ⟨versionOf version, value⟩) := by
  constructor
  · intro other held found
    rw [ExtTreeMap.getElem?_insert] at found ⊢
    by_cases here : compare address other = .eq
    · rw [if_pos here] at found
      obtain rfl := Option.some.inj found
      cases Std.LawfulEqOrd.eq_of_compare here
      rw [if_pos Std.ReflOrd.compare_self]
      exact ⟨version, rfl, rfl⟩
    · rw [if_neg here] at found
      rw [if_neg fun same => here ((place_compare service address other).mp same)]
      exact represents.held other held found
  · intro other missing
    rw [ExtTreeMap.getElem?_insert] at missing ⊢
    by_cases here : compare address other = .eq
    · rw [if_pos here] at missing
      cases missing
    · rw [if_neg here] at missing
      rw [if_neg fun same => here ((place_compare service address other).mp same)]
      exact represents.absent other missing
  · intro entry foreign
    rw [ExtTreeMap.getElem?_insert, if_neg fun same => foreign address (Std.LawfulEqOrd.eq_of_compare same).symm]
    exact represents.elsewhere entry foreign

theorem represents_erase (address : Address) :
    Represents service start (ring.erase (place service address)) (map.erase address) := by
  constructor
  · intro other held found
    rw [ExtTreeMap.getElem?_erase] at found ⊢
    by_cases here : compare address other = .eq
    · rw [if_pos here] at found
      cases found
    · rw [if_neg here] at found
      rw [if_neg fun same => here ((place_compare service address other).mp same)]
      exact represents.held other held found
  · intro other missing
    rw [ExtTreeMap.getElem?_erase] at missing ⊢
    by_cases here : compare address other = .eq
    · cases Std.LawfulEqOrd.eq_of_compare here
      rw [if_pos Std.ReflOrd.compare_self]
    · rw [if_neg here] at missing
      rw [if_neg fun same => here ((place_compare service address other).mp same)]
      exact represents.absent other missing
  · intro entry foreign
    rw [ExtTreeMap.getElem?_erase, if_neg fun same => foreign address (Std.LawfulEqOrd.eq_of_compare same).symm]
    exact represents.elsewhere entry foreign

theorem represents_cases (address : Address) :
    (map[address]? = none ∧ ring[place service address]? = none) ∨
    ∃ held version, map[address]? = some held ∧ held.version = versionOf version ∧
      ring[place service address]? = some (blobOf version held.value.bytes) := by
  cases found : map[address]? with
  | none => exact .inl ⟨rfl, represents.absent address found⟩
  | some held =>
      obtain ⟨version, stored, versioned⟩ := represents.held address held found
      exact .inr ⟨held, version, rfl, versioned, stored⟩

end Kept

section Running
variable (search : Search) (version : Uuid) (service : String) (ring : Ring)

theorem run_entry {Value : Type} (address : Address) (next : Entry → Operation Value) :
    run (answer search version) (entry service address >>= next) ring = run (answer search version) (next (place service address)) ring := rfl

theorem run_get {Value : Type} (entry : Entry) (next : Bytes → Operation Value) :
    run (answer search version) (asked (.getSecret entry) id >>= next) ring =
      ring[entry]?.elim (.error .notFound, ring) fun blob => run (answer search version) (next blob) ring := by
  rw [asked, Prog.ask_bind, run_ask, answer]
  cases ring[entry]? <;> rfl

theorem run_set {Value : Type} (entry : Entry) (blob : Bytes) (next : Unit → Operation Value) :
    run (answer search version) (asked (.setSecret entry blob) id >>= next) ring =
      run (answer search version) (next ()) (ring.insert entry blob) := rfl

theorem run_stored {Value : Type} (entry : Entry) (next : Option Bytes → Operation Value) :
    run (answer search version) (stored entry >>= next) ring = run (answer search version) (next ring[entry]?) ring := by
  rw [stored, Prog.ask_bind, run_ask, answer]
  cases ring[entry]? <;> rfl

end Running

def operate (search : Search) (service : String) (command : Command) (version : Uuid) (ring : Ring) :
    Except StorageError command.Answer × Ring :=
  run (answer search version) (perform service command) ring

section Operations
variable (search : Search) (version : Uuid) (service : String) (start ring : Ring) (map : SecretMap)
  (represents : Represents service start ring map)
include represents

theorem read_in_step (target : Target) :
    Alike (Represents service start) (operate search service (.read target) version ring)
      (SecretMap.answer (versionOf version) (.read target) map) := by
  have ran : operate search service (.read target) version ring = _ :=
    (run_entry search version service ring target.address _).trans (run_get search version ring _ _)
  rcases represents_cases service start ring map represents target.address with ⟨missing, absent⟩ | ⟨held, id, found, versioned, stored⟩
  · rw [absent] at ran
    rw [ran, SecretMap.answer, missing]
    exact ⟨rfl, represents⟩
  · rw [stored, Option.elim_some, open_blob, Prog.lift, Prog.done_bind] at ran
    dsimp only at ran
    rw [(secret_value_new held.value _).mpr rfl] at ran
    rw [ran, SecretMap.answer, found, Option.elim_some, versioned]
    exact ⟨rfl, represents⟩

theorem write_in_step (target : Target) (value : SecretValue) :
    Alike (Represents service start) (operate search service (.write target value) version ring)
      (SecretMap.answer (versionOf version) (.write target value) map) := by
  have ran : operate search service (.write target value) version ring = _ :=
    (run_entry search version service ring target.address _).trans (run_stored search version ring _ _)
  have after := represents_insert service start ring map represents target.address version value
  rw [ran]
  rcases represents_cases service start ring map represents target.address with ⟨missing, absent⟩ | ⟨held, id, found, versioned, stored⟩
  · rw [absent, SecretMap.answer, missing]
    exact ⟨rfl, after⟩
  · rw [stored, SecretMap.answer, found]
    exact ⟨rfl, after⟩

theorem delete_in_step (target : Target) :
    Alike (Represents service start) (operate search service (.delete target) version ring)
      (SecretMap.answer (versionOf version) (.delete target) map) := by
  have ran : operate search service (.delete target) version ring = run (answer search version)
    (asked (.deleteCredential (place service target.address)) id) ring := rfl
  rw [ran, asked, run_ask, answer, SecretMap.answer, ExtTreeMap.contains_eq_isSome_getElem?, ExtTreeMap.contains_eq_isSome_getElem?]
  rcases represents_cases service start ring map represents target.address with ⟨missing, absent⟩ | ⟨held, id, found, versioned, stored⟩
  · rw [absent, missing]
    exact ⟨rfl, represents⟩
  · rw [stored, found]
    exact ⟨rfl, represents_erase service start ring map represents target.address⟩

def shown (service : String) (scope : Scope) (map : SecretMap) (found : Option Entry) : Option Storage.SecretMetadata := do
  let place ← listable service scope found
  let held ← map[place.2]?
  some ⟨place.2, some held.version⟩

omit represents in
theorem listable_some (scope : Scope) (found : Option Entry) (entry : Entry) (address : Address)
    (listed : listable service scope found = some (entry, address)) :
    found = some (place service address) ∧ entry = place service address ∧ address.scope = scope := by
  rw [listable] at listed
  cases found with
  | none => cases listed
  | some other =>
      rw [Option.bind_eq_bind, Option.bind_some] at listed
      by_cases within : other.service = service
      · rw [if_neg (not_not.mpr within)] at listed
        obtain ⟨decoded, read, kept⟩ := Option.bind_eq_some_iff.mp listed
        by_cases same : decoded.scope = scope
        · rw [if_neg (not_not.mpr same)] at kept
          cases kept
          have placed : entry = place service address := by
            rw [place, ← decode_user_some entry.user address read, ← within]
          exact ⟨congrArg some placed, placed, same⟩
        · rw [if_pos same] at kept
          cases kept
      · rw [if_pos within] at listed
        cases listed

omit represents in
theorem listable_place (address : Address) :
    listable service address.scope (some (place service address)) = some (place service address, address) := by
  rw [listable, Option.bind_eq_bind, Option.bind_some, if_neg (not_not.mpr (show (place service address).service = service from rfl))]
  change (decodeUser (entryUser address)).bind _ = _
  rw [decode_entry_user, Option.bind_some, if_neg (not_not.mpr rfl)]

theorem run_rows (scope : Scope) (found : List (Option Entry)) :
    run (answer search version) (rowsOf service scope found) ring = (.ok (found.filterMap (shown service scope map)), ring) := by
  induction found with
  | nil => rfl
  | cons first rest ih =>
      rw [rowsOf, List.filterMap_cons, shown]
      cases listed : listable service scope first with
      | none => exact ih
      | some looked =>
          obtain ⟨entry, address⟩ := looked
          obtain ⟨_, rfl, _⟩ := listable_some service scope first entry address listed
          dsimp only
          rw [run_stored]
          rcases represents_cases service start ring map represents address with ⟨missing, absent⟩ | ⟨held, id, found, versioned, stored⟩
          · rw [absent, rowOf, Prog.lift, Prog.done_bind, run_bind, Tx.bind_run, ih, Option.bind_eq_bind, Option.bind_some, missing]
            rfl
          · rw [stored, rowOf, open_blob, Except.map, Prog.lift, Prog.done_bind, run_bind, Tx.bind_run, ih, Option.bind_eq_bind,
              Option.bind_some, found, ← versioned]
            rfl

theorem rename_in_step (target : Target) (newName : SecretName) :
    Alike (Represents service start) (operate search service (.rename target newName) version ring)
      (SecretMap.answer (versionOf version) (.rename target newName) map) := by
  have ran : operate search service (.rename target newName) version ring = _ :=
    (run_entry search version service ring target.address _).trans (run_get search version ring _ _)
  rw [SecretMap.answer, SecretMap.rename]
  rcases represents_cases service start ring map represents target.address with ⟨missing, absent⟩ | ⟨held, id, found, versioned, stored⟩
  · rw [absent] at ran
    rw [ran, missing]
    exact ⟨rfl, represents⟩
  rw [stored, Option.elim_some, run_entry, run_stored] at ran
  rw [ran, found]
  dsimp only
  rw [ExtTreeMap.contains_eq_isSome_getElem?]
  rcases represents_cases service start ring map represents (target.address.renamed newName) with
    ⟨free, nothing⟩ | ⟨other, another, taken, _, there⟩
  · rw [nothing, free, Option.isSome_none, if_neg Bool.false_ne_true, Option.isNone_none, Prog.ensure, if_pos rfl, Prog.done_bind,
      run_set]
    have copied := represents_insert service start ring map represents (target.address.renamed newName) id held.value
    rw [← versioned] at copied
    have apart : compare (place service (target.address.renamed newName)) (place service target.address) ≠ .eq := by
      intro same
      rw [(place_injective service _ _ (Std.LawfulEqOrd.eq_of_compare same)), found] at free
      cases free
    have source : ring.insert (place service (target.address.renamed newName)) (blobOf id held.value.bytes) |>.contains
        (place service target.address) := by
      rw [ExtTreeMap.contains_eq_isSome_getElem?, ExtTreeMap.getElem?_insert, if_neg apart, stored]
      rfl
    rw [moved, run_ask, answer, if_pos source]
    exact ⟨rfl, represents_erase service start _ _ copied target.address⟩
  · rw [there, taken]
    exact ⟨rfl, represents⟩

theorem shown_rows (exact : Exact search) (scope : Scope) :
    ((search ring service).filterMap (shown service scope map)).Perm (map.rows scope) := by
  have row_of : ∀ found row, shown service scope map found = some row →
      found = some (place service row.address) ∧ row ∈ map.rows scope := by
    intro found row seen
    simp only [shown, Option.bind_eq_bind, Option.bind_eq_some_iff, Option.some.injEq] at seen
    obtain ⟨⟨entry, address⟩, listed, held, stored, rfl⟩ := seen
    obtain ⟨placed, _, within⟩ := listable_some service scope found entry address listed
    exact ⟨placed, (mem_rows map scope _).mpr ⟨within, held, stored, rfl⟩⟩
  have contained : ∀ row, row ∈ map.rows scope → ring.contains (place service row.address) = true := by
    intro row member
    obtain ⟨_, held, found, _⟩ := (mem_rows map scope row).mp member
    obtain ⟨version, stored, _⟩ := represents.held row.address held found
    rw [ExtTreeMap.contains_eq_isSome_getElem?, stored]
    rfl
  have once : ((search ring service).filterMap (shown service scope map)).Nodup := by
    apply List.nodup_iff_count_le_one.mpr
    intro row
    by_cases member : row ∈ map.rows scope
    · rw [List.count_filterMap, ← exact ring service _ (contained row member)]
      apply List.countP_mono_left
      intro found _ seen
      exact beq_iff_eq.mpr (row_of found row (beq_iff_eq.mp seen)).1
    · rw [List.count_eq_zero.mpr]
      · exact Nat.zero_le 1
      · intro inside
        obtain ⟨found, _, seen⟩ := List.mem_filterMap.mp inside
        exact member (row_of found row seen).2
  apply (List.perm_ext_iff_of_nodup once (List.Nodup.of_map _ (rows_once map scope))).mpr
  intro row
  constructor
  · intro inside
    obtain ⟨found, _, seen⟩ := List.mem_filterMap.mp inside
    exact (row_of found row seen).2
  · intro member
    have found : some (place service row.address) ∈ search ring service := by
      apply List.count_pos_iff.mp
      rw [place, exact ring service _ (contained row member)]
      exact Nat.one_pos
    obtain ⟨rfl, held, stored, versioned⟩ := (mem_rows map scope row).mp member
    have seen : shown service row.address.scope map (some (place service row.address)) = some ⟨row.address, some held.version⟩ := by
      rw [shown, listable_place, Option.bind_eq_bind, Option.bind_some, stored]
      rfl
    rw [← versioned] at seen
    exact List.mem_filterMap.mpr ⟨_, found, seen⟩

theorem list_in_step (exact : Exact search) (scope : Scope) :
    Alike (Represents service start) (operate search service (.list scope) version ring)
      (SecretMap.answer (versionOf version) (.list scope) map) := by
  have ran : operate search service (.list scope) version ring =
      run (answer search version) (rowsOf service scope (search ring service) >>= fun rows => .done (sort rows)) ring := rfl
  rw [ran, run_bind, Tx.bind_run, run_rows search version service start ring map represents, SecretMap.answer,
    ← sort_congr _ _ (shown_rows search service start ring map represents exact scope)]
  exact ⟨rfl, represents⟩

theorem operate_in_step (exact : Exact search) (command : Command) :
    Alike (Represents service start) (operate search service command version ring) (SecretMap.answer (versionOf version) command map) := by
  cases command with
  | read target => exact read_in_step search version service start ring map represents target
  | write target value => exact write_in_step search version service start ring map represents target value
  | delete target => exact delete_in_step search version service start ring map represents target
  | rename target newName => exact rename_in_step search version service start ring map represents target newName
  | list scope => exact list_in_step search version service start ring map represents exact scope

end Operations

section Contents
variable (service : String) (ring : Ring)

def heldOf (blob : Bytes) : Option Held :=
  match openBlob blob with
  | .error _ => none
  | .ok (version, value) => (SecretValue.new value).toOption.map fun value => ⟨version, value⟩

def entryOf (entry : Entry × Bytes) : Option (Address × Held) :=
  if entry.1.service = service then do
    let address ← decodeUser entry.1.user
    let held ← heldOf entry.2
    some (address, held)
  else none

def contents : SecretMap := ExtTreeMap.ofList (ring.toList.filterMap (entryOf service))

theorem held_of_blob (version : Uuid) (value : SecretValue) : heldOf (blobOf version value.bytes) = some ⟨versionOf version, value⟩ := by
  rw [heldOf, open_blob]
  dsimp only
  rw [(secret_value_new value _).mpr rfl]
  rfl

theorem entry_of_some (entry : Entry × Bytes) (address : Address) (held : Held) :
    entryOf service entry = some (address, held) ↔ entry.1 = place service address ∧ heldOf entry.2 = some held := by
  obtain ⟨⟨name, user⟩, blob⟩ := entry
  rw [entryOf]
  by_cases within : name = service
  · rw [if_pos within]
    simp only [Option.bind_eq_bind, Option.bind_eq_some_iff, Option.some.injEq, Prod.mk.injEq]
    constructor
    · intro ⟨found, decoded, kept, opened, same, here⟩
      cases same
      cases here
      rw [place, ← decode_user_some user address decoded, within]
      exact ⟨rfl, opened⟩
    · intro ⟨placed, opened⟩
      cases placed
      exact ⟨address, decode_entry_user address, held, opened, rfl, rfl⟩
  · rw [if_neg within]
    constructor
    · intro none
      cases none
    · intro ⟨placed, _⟩
      exact absurd (congrArg Entry.service placed) within

theorem contents_some (address : Address) (held : Held) :
    (contents service ring)[address]? = some held ↔ ∃ blob, ring[place service address]? = some blob ∧ heldOf blob = some held := by
  have distinct : (ring.toList.filterMap (entryOf service)).Pairwise fun first second => ¬compare first.1 second.1 = .eq := by
    apply List.Pairwise.filterMap (entryOf service) _ ExtTreeMap.distinct_keys_toList
    intro first second apart one read other also same
    obtain ⟨address, held⟩ := one
    obtain ⟨another, kept⟩ := other
    cases Std.LawfulEqOrd.eq_of_compare same
    rw [((entry_of_some service first _ _).mp read).1, ((entry_of_some service second _ _).mp also).1] at apart
    exact apart Std.ReflOrd.compare_self
  have member : ∀ held, (address, held) ∈ ring.toList.filterMap (entryOf service) ↔
      ∃ blob, ring[place service address]? = some blob ∧ heldOf blob = some held := by
    intro held
    simp only [List.mem_filterMap, entry_of_some]
    constructor
    · intro ⟨⟨entry, blob⟩, inside, placed, opened⟩
      cases placed
      exact ⟨blob, ExtTreeMap.mem_toList_iff_getElem?_eq_some.mp inside, opened⟩
    · intro ⟨blob, stored, opened⟩
      exact ⟨(place service address, blob), ExtTreeMap.mem_toList_iff_getElem?_eq_some.mpr stored, rfl, opened⟩
  constructor
  · intro found
    have there : address ∈ contents service ring := by
      rw [← ExtTreeMap.contains_iff_mem, ExtTreeMap.contains_eq_isSome_getElem?, found]
      rfl
    rw [contents, ExtTreeMap.mem_ofList, List.contains_iff_mem, List.mem_map] at there
    obtain ⟨⟨same, other⟩, inside, rfl⟩ := there
    rw [contents, ExtTreeMap.getElem?_ofList_of_mem Std.ReflOrd.compare_self distinct inside] at found
    cases found
    exact (member held).mp inside
  · intro stored
    exact ExtTreeMap.getElem?_ofList_of_mem Std.ReflOrd.compare_self distinct ((member held).mpr stored)

theorem represents_contents (written : Written service ring) : Represents service ring ring (contents service ring) := by
  constructor
  · intro address held found
    obtain ⟨blob, stored, opened⟩ := (contents_some service ring address held).mp found
    obtain ⟨version, value, rfl⟩ := written address blob stored
    rw [held_of_blob] at opened
    obtain rfl := Option.some.inj opened
    exact ⟨version, stored, rfl⟩
  · intro address missing
    cases stored : ring[place service address]? with
    | none => rfl
    | some blob =>
        obtain ⟨version, value, rfl⟩ := written address blob stored
        rw [(contents_some service ring address _).mpr ⟨_, stored, held_of_blob version value⟩] at missing
        cases missing
  · intro entry _
    rfl

end Contents

def mapped (command : Command) (version : Uuid) (map : SecretMap) : Except StorageError command.Answer × SecretMap :=
  SecretMap.answer (versionOf version) command map

-- No version is generated twice, and none that the map holds.
structure Fresh (map : SecretMap) (versions : List Uuid) : Prop where
  distinct : versions.Nodup
  unused : ∀ (address : Address) (held : Held), map[address]? = some held → ∀ version ∈ versions, held.version ≠ versionOf version

-- Over every run the backend answers as the map does, represents it, touches no
-- foreign entry, and gives a write another version than the one it replaces.
structure Refines (search : Search) (service : String) (ring : Ring) (map : SecretMap) : Prop where
  answers : ∀ steps, (serveAll (operate search service) steps ring).1 = (serveAll mapped steps map).1
  represents : ∀ steps, Represents service ring (serveAll (operate search service) steps ring).2 (serveAll mapped steps map).2
  renewed : ∀ (steps : List (Command × Uuid)) (version : Uuid), Fresh map (steps.map Prod.snd ++ [version]) →
    ∀ (address : Address) (held : Held), (serveAll mapped steps map).2[address]? = some held → held.version ≠ versionOf version

section Runs

theorem run_held (steps : List (Command × Uuid)) (map : SecretMap) (address : Address) (held : Held)
    (found : (serveAll mapped steps map).2[address]? = some held) :
    (∃ other : Address, map[other]? = some held) ∨
      ∃ target version, (.write target held.value, version) ∈ steps ∧ held.version = versionOf version := by
  induction steps generalizing map with
  | nil => exact .inl ⟨address, found⟩
  | cons step rest ih =>
      obtain ⟨command, version⟩ := step
      rcases ih _ found with ⟨other, kept⟩ | ⟨target, id, member, versioned⟩
      · rcases answer_held (versionOf version) command map other held kept with before | ⟨target, rfl, versioned⟩
        · exact .inl before
        · exact .inr ⟨target, version, List.mem_cons_self, versioned⟩
      · exact .inr ⟨target, id, List.mem_cons_of_mem _ member, versioned⟩

theorem version_of_injective (first second : Uuid) (same : versionOf first = versionOf second) : first = second :=
  hyphenated_injective first second (congrArg Version.text same)

variable (search : Search) (exact : Exact search) (service : String) (start : Ring)
include exact

theorem run_in_step (steps : List (Command × Uuid)) (ring : Ring) (map : SecretMap) (represents : Represents service start ring map) :
    (serveAll (operate search service) steps ring).1 = (serveAll mapped steps map).1 ∧
    Represents service start (serveAll (operate search service) steps ring).2 (serveAll mapped steps map).2 := by
  apply each_alike _ _ (Represents service start)
  · intro step left right related
    have inStep := operate_in_step search step.2 service start left right related exact step.1
    exact ⟨inStep.same, inStep.related⟩
  · exact represents

/-- The backend is a map from addresses to versions and values, whatever else its store
holds. -/
theorem keychain_refines_map (written : Written service start) : Refines search service start (contents service start) := by
  have begins := represents_contents service start written
  constructor
  · intro steps
    exact (run_in_step search exact service start steps start _ begins).1
  · intro steps
    exact (run_in_step search exact service start steps start _ begins).2
  · intro steps version fresh address held found same
    rcases run_held steps _ address held found with ⟨other, before⟩ | ⟨target, id, member, versioned⟩
    · exact fresh.unused other held before version (List.mem_append_right _ List.mem_cons_self) same
    · have twice : id = version := version_of_injective id version (versioned.symm.trans same)
      have used : version ∈ steps.map Prod.snd := twice ▸ List.mem_map_of_mem member
      exact (List.nodup_append.mp fresh.distinct).2.2 version used version List.mem_cons_self rfl

end Runs

section Example

def everyEntry : Search := fun ring _ => ring.keys.map some

theorem exact_every_entry : Exact everyEntry := by
  intro ring service user held
  have nodup : (everyEntry ring service).Nodup := (List.nodup_map_iff (Option.some_injective Entry)).mpr ExtTreeMap.nodup_keys
  apply List.count_eq_one_of_mem nodup
  exact List.mem_map_of_mem (ExtTreeMap.mem_keys.mpr (ExtTreeMap.contains_iff_mem.mp held))

def token : Address := ⟨⟨.defaultName, .defaultName, .defaultName⟩, ⟨"token", by decide +kernel⟩⟩

def nilVersion : Uuid := Vector.replicate 16 0

def holding (blob : Bytes) : Ring := (∅ : Ring).insert (place "b10x-secrets" token) blob

theorem holding_found (blob : Bytes) : (holding blob)[place "b10x-secrets" token]? = some blob := ExtTreeMap.getElem?_insert_self

def besideAnother : Ring := (holding (blobOf nilVersion [104])).insert ⟨"b10x", "default/default/default/a"⟩ [1]

theorem beside_another_written : Written "b10x-secrets" besideAnother := by
  intro address blob found
  have other : compare (Entry.mk "b10x" "default/default/default/a") (place "b10x-secrets" address) ≠ .eq := by
    intro same
    have services : "b10x" = "b10x-secrets" := congrArg Entry.service (Std.LawfulEqOrd.eq_of_compare same)
    exact absurd services (by decide)
  rw [besideAnother, ExtTreeMap.getElem?_insert, if_neg other, holding, ExtTreeMap.getElem?_insert] at found
  split at found
  · exact ⟨nilVersion, ⟨[104], by decide⟩, (Option.some.inj found).symm⟩
  · rw [ExtTreeMap.getElem?_empty] at found
    cases found

theorem keychain_beside_another :
    Refines everyEntry "b10x-secrets" besideAnother (contents "b10x-secrets" besideAnother) ∧
      (operate everyEntry "b10x-secrets" (.read (.unbound token)) nilVersion besideAnother).1 =
        .ok ⟨⟨[104], by decide⟩, some (versionOf nilVersion)⟩ :=
  ⟨keychain_refines_map everyEntry exact_every_entry "b10x-secrets" besideAnother beside_another_written, by decide +kernel⟩

end Example
end Keychain
end Secrets
