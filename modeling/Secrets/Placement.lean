import Secrets.Deployment
import Secrets.Lib.Shards

set_option autoImplicit false

namespace Secrets

open Std (ExtTreeMap)
open Programs Storage Federation

def Registry.place {Place : Type} (registry : Registry Place) (backend : BackendRef) : Option Place :=
  match registry backend with
  | some (.stored place) => some place
  | _ => none

section Homes
variable {Place : Type} (registry : Registry Place)

def Records.placeOf (records : Records) (scope : Scope) : Option Place :=
  (records.found (namespaceKey scope)).bind fun nameSpace => registry.place nameSpace.effectiveMount

def Records.home (records : Records) (address : Address) : Option Place :=
  if address.scope.user = .defaultName then records.placeOf registry address.scope else none

def Deployed.shards (deployed : Deployed Place) (place : Place) (address : Address) : Option Held := (deployed.stores place)[address]?

-- Every secret is at its home, and every binding's namespace exists.
structure Deployed.Sound (deployed : Deployed Place) : Prop where
  housed : Shards.Housed (deployed.records.home registry) deployed.shards
  bound : ∀ (address : Address) locator, deployed.records.bindings[address]? = some locator →
    ∃ nameSpace, deployed.records.found (namespaceKey address.scope) = some nameSpace

theorem place_stored (backend : BackendRef) (place : Place) :
    registry.place backend = some place ↔ registry backend = some (.stored place) := by
  rw [Registry.place]
  cases registry backend with
  | none => simp
  | some backing => cases backing <;> simp

theorem place_of_some (records : Records) (scope : Scope) (place : Place) :
    records.placeOf registry scope = some place ↔
      ∃ nameSpace, records.found (namespaceKey scope) = some nameSpace ∧ registry nameSpace.effectiveMount = some (.stored place) := by
  simp only [Records.placeOf, Option.bind_eq_some_iff, place_stored]

theorem home_some (records : Records) (address : Address) (place : Place) :
    records.home registry address = some place ↔
      address.scope.user = .defaultName ∧ records.placeOf registry address.scope = some place := by
  rw [Records.home]
  by_cases own : address.scope.user = .defaultName
  · rw [if_pos own]
    exact ⟨fun placed => ⟨own, placed⟩, fun both => both.2⟩
  · rw [if_neg own]
    apply iff_of_false
    · intro placed
      cases placed
    · exact fun both => own both.1

end Homes

section Records
variable (records : Records)

theorem found_insert (nameSpace : Namespace) (key : NamespaceKey) :
    ({ records with namespaces := records.namespaces.insert nameSpace.key nameSpace.mount } : Records).found key =
      if nameSpace.key = key then some nameSpace else records.found key := by
  rw [Records.found, ExtTreeMap.getElem?_insert]
  by_cases same : nameSpace.key = key
  · subst same
    rw [if_pos Std.ReflOrd.compare_self, if_pos rfl]
    rfl
  · rw [if_neg fun equal => same (Std.LawfulEqOrd.eq_of_compare equal), if_neg same]
    rfl

theorem found_erase (gone key : NamespaceKey) :
    ({ records with namespaces := records.namespaces.erase gone } : Records).found key =
      if gone = key then none else records.found key := by
  rw [Records.found, ExtTreeMap.getElem?_erase]
  by_cases same : gone = key
  · rw [if_pos (by rw [same]; exact Std.ReflOrd.compare_self), if_pos same]
    rfl
  · rw [if_neg fun equal => same (Std.LawfulEqOrd.eq_of_compare equal), if_neg same]
    rfl

theorem found_none (key : NamespaceKey) (missing : ¬records.namespaces.contains key = true) : records.found key = none := by
  rw [Records.found, ExtTreeMap.getElem?_eq_none_of_contains_eq_false (Bool.eq_false_iff.mpr missing)]
  rfl

theorem no_bindings (key : NamespaceKey) (none : records.hasBindings key = false) (address : Address) (locator : Locator)
    (found : records.bindings[address]? = some locator) : namespaceKey address.scope ≠ key := by
  intro same
  have listed : address ∈ records.bindings.keys := ExtTreeMap.mem_keys.mpr (ExtTreeMap.mem_iff_isSome_getElem?.mpr (by rw [found]; rfl))
  have here := List.any_eq_false.mp none address listed
  subst same
  simp [namespaceKey] at here

end Records

section Changes
variable {Place : Type} (registry : Registry Place)

def Deployed.whole (deployed : Deployed Place) : Address → Option Held :=
  Shards.union (deployed.records.home registry) deployed.shards

def Deployed.Vacant (deployed : Deployed Place) (key : NamespaceKey) : Prop :=
  ∀ address : Address, namespaceKey address.scope = key → ∀ place, deployed.shards place address = none

variable (deployed : Deployed Place) (sound : deployed.Sound registry)
include sound

theorem unknown_vacant (key : NamespaceKey) (unknown : deployed.records.found key = none) : deployed.Vacant key := by
  intro address within place
  apply Shards.housed_elsewhere _ _ sound.housed
  intro lives
  obtain ⟨_, placed⟩ := (home_some registry _ _ _).mp lives
  obtain ⟨nameSpace, found, _⟩ := (place_of_some registry _ _ _).mp placed
  rw [within, unknown] at found
  cases found

theorem unused_vacant (key : NamespaceKey) (nameSpace : Namespace) (found : deployed.records.found key = some nameSpace)
    (unused : Unused registry deployed nameSpace) : deployed.Vacant key := by
  intro address within place
  cases held : deployed.shards place address with
  | none => rfl
  | some secret =>
      obtain ⟨own, placed⟩ := (home_some registry _ _ _).mp (sound.housed place address secret held)
      obtain ⟨other, here, mounted⟩ := (place_of_some registry _ _ _).mp placed
      rw [within, found] at here
      obtain rfl := Option.some.inj here
      have inside : address.scope = nameSpace.key.userScope := by
        rw [records_found_key deployed.records key nameSpace found, ← within, NamespaceKey.userScope, ← own]
        rfl
      have row := (mem_rows (deployed.stores place) nameSpace.key.userScope ⟨address, some secret.version⟩).mpr
        ⟨inside, secret, held, rfl⟩
      rw [unused place mounted] at row
      cases row

theorem rehomed (records : Records) (key : NamespaceKey) (vacant : deployed.Vacant key)
    (only : ∀ other, other ≠ key → records.found other = deployed.records.found other) :
    Shards.Housed (records.home registry) deployed.shards ∧
    Shards.union (records.home registry) deployed.shards = deployed.whole registry := by
  have moved : ∀ address, records.home registry address ≠ deployed.records.home registry address →
      ∀ place, deployed.shards place address = none := by
    intro address differs
    by_cases within : namespaceKey address.scope = key
    · exact vacant address within
    · rw [Records.home, Records.home, Records.placeOf, Records.placeOf, only _ within] at differs
      exact absurd rfl differs
  exact ⟨Shards.housed_moved _ _ _ sound.housed moved, Shards.union_moved _ _ _ sound.housed moved⟩

-- Another deployment that is sound too and holds the same.
structure Deployed.Keeps (after : Deployed Place) : Prop where
  sound : after.Sound registry
  whole : after.whole registry = deployed.whole registry

theorem keeps_itself : deployed.Keeps registry deployed := ⟨sound, rfl⟩

theorem keeps_rehomed (records : Records) (key : NamespaceKey) (vacant : deployed.Vacant key)
    (only : ∀ other, other ≠ key → records.found other = deployed.records.found other)
    (bound : ∀ (address : Address) locator, records.bindings[address]? = some locator →
      ∃ nameSpace, records.found (namespaceKey address.scope) = some nameSpace) :
    deployed.Keeps registry { deployed with records := records } := by
  obtain ⟨housed, whole⟩ := rehomed registry deployed sound records key vacant only
  exact ⟨⟨housed, bound⟩, whole⟩

theorem keeps_bindings (bindings : ExtTreeMap Address Locator)
    (bound : ∀ (address : Address) locator, bindings[address]? = some locator →
      ∃ nameSpace, deployed.records.found (namespaceKey address.scope) = some nameSpace) :
    deployed.Keeps registry { deployed with records := { deployed.records with bindings := bindings } } :=
  ⟨⟨sound.housed, bound⟩, rfl⟩

theorem insert_namespace_keeps (nameSpace : Namespace) :
    deployed.Keeps registry { deployed with records := (deployed.records.changed (deployed.records.insertNamespace nameSpace)).2 } := by
  rw [Records.insertNamespace]
  by_cases known : deployed.records.namespaces.contains nameSpace.key = true
  · rw [if_pos known]
    exact keeps_itself registry deployed sound
  · rw [if_neg known]
    have unknown := found_none deployed.records nameSpace.key known
    have only : ∀ other, other ≠ nameSpace.key →
        ({ deployed.records with namespaces := deployed.records.namespaces.insert nameSpace.key nameSpace.mount } : Records).found other =
          deployed.records.found other := by
      intro other apart
      rw [found_insert, if_neg (Ne.symm apart)]
    apply keeps_rehomed registry deployed sound _ nameSpace.key (unknown_vacant registry deployed sound _ unknown) only
    intro address locator bound
    obtain ⟨there, found⟩ := sound.bound address locator bound
    by_cases same : namespaceKey address.scope = nameSpace.key
    · rw [same, unknown] at found
      cases found
    · exact ⟨there, (only _ same).trans found⟩

theorem remove_namespace_keeps (key : NamespaceKey) (vacant : deployed.Vacant key) (unbound : deployed.records.hasBindings key = false) :
    deployed.Keeps registry { deployed with records := (deployed.records.changed (deployed.records.removeNamespace key)).2 } := by
  rw [Records.removeNamespace]
  by_cases known : deployed.records.namespaces.contains key = true
  · rw [if_pos known]
    have only : ∀ other, other ≠ key → ({ deployed.records with namespaces := deployed.records.namespaces.erase key } : Records).found other =
        deployed.records.found other := by
      intro other apart
      rw [found_erase, if_neg (Ne.symm apart)]
    apply keeps_rehomed registry deployed sound _ key vacant only
    intro address locator bound
    obtain ⟨there, found⟩ := sound.bound address locator bound
    exact ⟨there, (only _ (no_bindings deployed.records key unbound address locator bound)).trans found⟩
  · rw [if_neg known]
    exact keeps_itself registry deployed sound

theorem set_mount_keeps (key : NamespaceKey) (mount : BackendRef) (vacant : deployed.Vacant key) :
    deployed.Keeps registry { deployed with records := (deployed.records.changed (deployed.records.setMount key mount)).2 } := by
  rw [Records.setMount]
  by_cases known : deployed.records.namespaces.contains key = true
  · rw [if_pos known]
    have inserted := found_insert deployed.records ⟨key, some mount⟩
    have only : ∀ other, other ≠ key →
        ({ deployed.records with namespaces := deployed.records.namespaces.insert key (some mount) } : Records).found other =
          deployed.records.found other := by
      intro other apart
      rw [inserted, if_neg (Ne.symm apart)]
    apply keeps_rehomed registry deployed sound _ key vacant only
    intro address locator bound
    obtain ⟨there, found⟩ := sound.bound address locator bound
    by_cases same : namespaceKey address.scope = key
    · exact ⟨⟨key, some mount⟩, (inserted _).trans (if_pos same.symm)⟩
    · exact ⟨there, (only _ same).trans found⟩
  · rw [if_neg known]
    exact keeps_itself registry deployed sound

theorem insert_binding_keeps (address : Address) (locator : Locator) (nameSpace : Namespace)
    (found : deployed.records.found (namespaceKey address.scope) = some nameSpace) :
    deployed.Keeps registry { deployed with records := (deployed.records.changed (deployed.records.insertBinding address locator)).2 } := by
  rw [Records.insertBinding]
  by_cases taken : deployed.records.bindings.contains address = true
  · rw [if_pos taken]
    exact keeps_itself registry deployed sound
  · rw [if_neg taken]
    apply keeps_bindings registry deployed sound
    intro other there bound
    rw [ExtTreeMap.getElem?_insert] at bound
    by_cases same : compare address other = .eq
    · cases Std.LawfulEqOrd.eq_of_compare same
      exact ⟨nameSpace, found⟩
    · rw [if_neg same] at bound
      exact sound.bound other there bound

theorem remove_binding_keeps (address : Address) :
    deployed.Keeps registry { deployed with records := (deployed.records.changed (deployed.records.removeBinding address)).2 } := by
  rw [Records.removeBinding]
  by_cases held : deployed.records.bindings.contains address = true
  · rw [if_pos held]
    apply keeps_bindings registry deployed sound
    intro other there bound
    rw [ExtTreeMap.getElem?_erase] at bound
    by_cases same : compare address other = .eq
    · rw [if_pos same] at bound
      cases bound
    · rw [if_neg same] at bound
      exact sound.bound other there bound
  · rw [if_neg held]
    exact keeps_itself registry deployed sound

theorem config_keeps (call : ConfigCall) (fits : Fits registry deployed (.config call)) :
    deployed.Keeps registry { deployed with records := (InMemoryConfig.perform call deployed.records).2 } := by
  cases call with
  | nameSpace key => exact keeps_itself registry deployed sound
  | namespaces => exact keeps_itself registry deployed sound
  | binding address => exact keeps_itself registry deployed sound
  | hasBindings key => exact keeps_itself registry deployed sound
  | insertNamespace nameSpace => exact insert_namespace_keeps registry deployed sound nameSpace
  | removeNamespace key =>
      obtain ⟨⟨nameSpace, found, unused⟩, unbound⟩ := fits
      exact remove_namespace_keeps registry deployed sound key (unused_vacant registry deployed sound key nameSpace found unused) unbound
  | setMount key mount =>
      obtain ⟨nameSpace, found, unused⟩ := fits
      exact set_mount_keeps registry deployed sound key mount (unused_vacant registry deployed sound key nameSpace found unused)
  | insertBinding address locator =>
      obtain ⟨nameSpace, found⟩ := fits
      exact insert_binding_keeps registry deployed sound address locator nameSpace found
  | removeBinding address => exact remove_binding_keeps registry deployed sound address

end Changes

section Locality
variable (version : Version) (command : Command) (map other : SecretMap)

theorem answer_adds (address : Address) (held : Held) (found : (SecretMap.answer version command map).2[address]? = some held)
    (new : map[address]? = none) :
    (∃ target value, command = .write target value ∧ target.address = address) ∨
    ∃ target newName moved, command = .rename target newName ∧ target.address.renamed newName = address ∧
      map[target.address]? = some moved := by
  cases command with
  | read target => exact absurd (new.symm.trans found) (by simp)
  | list scope => exact absurd (new.symm.trans found) (by simp)
  | write target value =>
      rw [SecretMap.answer, ExtTreeMap.getElem?_insert] at found
      by_cases here : compare target.address address = .eq
      · exact .inl ⟨target, value, rfl, Std.LawfulEqOrd.eq_of_compare here⟩
      · rw [if_neg here, new] at found
        cases found
  | delete target =>
      rw [SecretMap.answer] at found
      split at found
      · rw [ExtTreeMap.getElem?_erase, new] at found
        split at found <;> cases found
      · rw [new] at found
        cases found
  | rename target newName =>
      rw [SecretMap.answer, SecretMap.rename] at found
      cases source : map[target.address]? with
      | none =>
          rw [source, new] at found
          cases found
      | some moved =>
          rw [source] at found
          dsimp only at found
          split at found
          · rw [new] at found
            cases found
          · rw [ExtTreeMap.getElem?_erase, ExtTreeMap.getElem?_insert, new] at found
            by_cases here : compare (target.address.renamed newName) address = .eq
            · exact .inr ⟨target, newName, moved, rfl, Std.LawfulEqOrd.eq_of_compare here, source⟩
            · rw [if_neg here] at found
              split at found <;> cases found

theorem answer_elsewhere (address : Address) (outside : address.scope ≠ command.scope) :
    (SecretMap.answer version command map).2[address]? = map[address]? := by
  have apart : ∀ inside : Address, inside.scope = command.scope → compare inside address ≠ .eq := by
    intro inside within same
    cases Std.LawfulEqOrd.eq_of_compare same
    exact outside within
  cases command with
  | read target => rfl
  | list scope => rfl
  | write target value =>
      rw [SecretMap.answer]
      dsimp only
      rw [ExtTreeMap.getElem?_insert, if_neg (apart target.address rfl)]
  | delete target =>
      rw [SecretMap.answer]
      split
      · dsimp only
        rw [ExtTreeMap.getElem?_erase, if_neg (apart target.address rfl)]
      · rfl
  | rename target newName =>
      rw [SecretMap.answer, SecretMap.rename]
      split
      · rfl
      · split
        · rfl
        · dsimp only
          rw [ExtTreeMap.getElem?_erase, if_neg (apart target.address rfl), ExtTreeMap.getElem?_insert,
            if_neg (apart (target.address.renamed newName) rfl)]

theorem rows_agree (scope : Scope) (same : ∀ address : Address, address.scope = scope → map[address]? = other[address]?) :
    sort (map.rows scope) = sort (other.rows scope) := by
  apply sort_congr
  apply (List.perm_ext_iff_of_nodup _ _).mpr
  · intro row
    rw [mem_rows, mem_rows]
    constructor
    · intro ⟨within, held⟩
      rw [same row.address within] at held
      exact ⟨within, held⟩
    · intro ⟨within, held⟩
      rw [← same row.address within] at held
      exact ⟨within, held⟩
  · exact (rows_once map scope).of_map
  · exact (rows_once other scope).of_map

structure Agree (scope : Scope) {Answer : Type} (left right : Answer × SecretMap) : Prop where
  same : left.1 = right.1
  held : ∀ address : Address, address.scope = scope → left.2[address]? = right.2[address]?

theorem insert_agree (scope : Scope) (same : ∀ address : Address, address.scope = scope → map[address]? = other[address]?)
    (put : Address) (held : Held) (address : Address) (within : address.scope = scope) :
    (map.insert put held)[address]? = (other.insert put held)[address]? := by
  rw [ExtTreeMap.getElem?_insert, ExtTreeMap.getElem?_insert, same address within]

theorem erase_agree (scope : Scope) (same : ∀ address : Address, address.scope = scope → map[address]? = other[address]?)
    (gone : Address) (address : Address) (within : address.scope = scope) :
    (map.erase gone)[address]? = (other.erase gone)[address]? := by
  rw [ExtTreeMap.getElem?_erase, ExtTreeMap.getElem?_erase, same address within]

theorem answer_agrees (same : ∀ address : Address, address.scope = command.scope → map[address]? = other[address]?) :
    Agree command.scope (SecretMap.answer version command map) (SecretMap.answer version command other) := by
  cases command with
  | read target =>
      rw [SecretMap.answer, SecretMap.answer, same target.address rfl]
      exact ⟨rfl, same⟩
  | write target value =>
      rw [SecretMap.answer, SecretMap.answer, same target.address rfl]
      exact ⟨rfl, insert_agree map other _ same _ _⟩
  | delete target =>
      rw [SecretMap.answer, SecretMap.answer, ExtTreeMap.contains_eq_isSome_getElem?, ExtTreeMap.contains_eq_isSome_getElem?,
        same target.address rfl]
      by_cases held : (other[target.address]?).isSome = true
      · rw [if_pos held, if_pos held]
        exact ⟨rfl, erase_agree map other _ same _⟩
      · rw [if_neg held, if_neg held]
        exact ⟨rfl, same⟩
  | rename target newName =>
      rw [SecretMap.answer, SecretMap.answer, SecretMap.rename, SecretMap.rename, ExtTreeMap.contains_eq_isSome_getElem?,
        ExtTreeMap.contains_eq_isSome_getElem?, same target.address rfl, same (target.address.renamed newName) rfl]
      cases other[target.address]? with
      | none => exact ⟨rfl, same⟩
      | some moved =>
          dsimp only
          by_cases taken : (other[target.address.renamed newName]?).isSome = true
          · rw [if_pos taken, if_pos taken]
            exact ⟨rfl, same⟩
          · rw [if_neg taken, if_neg taken]
            refine ⟨rfl, ?_⟩
            apply erase_agree
            exact insert_agree map other _ same _ _
  | list scope =>
      rw [SecretMap.answer, SecretMap.answer, rows_agree map other scope same]
      exact ⟨rfl, same⟩

theorem answer_directed (bound : Address → Option Locator) :
    command.returned bound (SecretMap.answer version (command.directed bound) map).1 = (SecretMap.answer version command map).1 ∧
    (SecretMap.answer version (command.directed bound) map).2 = (SecretMap.answer version command map).2 := by
  cases command with
  | read target => exact ⟨rfl, rfl⟩
  | write target value => exact ⟨rfl, rfl⟩
  | delete target => exact ⟨rfl, rfl⟩
  | rename target newName => exact ⟨rfl, rfl⟩
  | list scope =>
      refine ⟨?_, rfl⟩
      change Except.ok ((sort (map.rows scope)).filter fun row => decide (row.address.scope = scope)) = Except.ok (sort (map.rows scope))
      apply congrArg
      apply List.filter_eq_self.mpr
      intro row member
      have listed := (sort_perm (map.rows scope)).mem_iff.mp member
      exact decide_eq_true ((mem_rows map scope row).mp listed).1

end Locality

section Serving
variable {Place : Type} [DecidableEq Place] (registry : Registry Place) (versions : Nat → Version) (deployed : Deployed Place)
  (sound : deployed.Sound registry) (place : Place) (command : Command)
include sound

omit [DecidableEq Place] sound in
theorem home_scope (address other : Address) (same : other.scope = address.scope) :
    deployed.records.home registry other = deployed.records.home registry address := by
  rw [Records.home, Records.home, same]

omit sound in
theorem serve_shards : (deployed.serve versions place command).2.shards = Function.update deployed.shards place fun address =>
    ((SecretMap.answer (versions deployed.drawn) command (deployed.stores place)).2)[address]? := by
  funext there address
  rw [Deployed.shards, Deployed.serve]
  dsimp only
  by_cases here : there = place
  · subst here
    rw [Function.update_self, Function.update_self]
  · rw [Function.update_of_ne here, Function.update_of_ne here]
    rfl

theorem serve_sound
    (fits : ∀ target value, command = .write target value → deployed.records.home registry target.address = some place) :
    (deployed.serve versions place command).2.Sound registry := by
  refine ⟨?_, sound.bound⟩
  rw [serve_shards]
  apply Shards.housed_update _ _ sound.housed
  intro address held found new
  rcases answer_adds (versions deployed.drawn) command (deployed.stores place) address held found new with
    ⟨target, value, same, rfl⟩ | ⟨target, newName, moved, same, rfl, source⟩
  · exact fits target value same
  · exact (home_scope registry deployed target.address (target.address.renamed newName) rfl).trans
      (sound.housed place target.address moved source)

theorem answer_sound (call : Federation.Call) (fits : Fits registry deployed call) :
    (Deployed.answer registry versions call deployed).2.Sound registry := by
  cases call with
  | config call => exact (config_keeps registry deployed sound call fits).sound
  | backend backend command =>
      rw [Deployed.answer]
      split
      · rename_i place mounted
        apply serve_sound registry versions deployed sound place command
        intro target value same
        subst same
        obtain ⟨own, nameSpace, found, mount⟩ := fits
        subst mount
        exact (home_some registry _ _ _).mpr ⟨own, (place_of_some registry _ _ _).mpr ⟨nameSpace, found, mounted⟩⟩
      · exact sound
      · exact sound

end Serving

section Start
variable {Place : Type} (registry : Registry Place)

def Deployed.start : Deployed Place := ⟨InMemoryConfig.localStart, fun _ => ∅, 0⟩

theorem start_sound : (Deployed.start : Deployed Place).Sound registry where
  housed := Shards.housed_empty _ _ fun place address => ExtTreeMap.getElem?_empty
  bound := by
    intro address locator bound
    have none : (∅ : ExtTreeMap Address Locator)[address]? = none := ExtTreeMap.getElem?_empty
    rw [show (Deployed.start : Deployed Place).records.bindings = ∅ from rfl, none] at bound
    cases bound

def Registry.ReadOnly : Prop :=
  ∀ backend offer answers, registry backend = some (.outside offer answers) →
    Capability.write ∉ offer.capabilities ∧ Capability.delete ∉ offer.capabilities

end Start

def keychainRegistry : Registry Unit := fun backend =>
  if backend = .defaultMount then some (.stored ())
  else if backend.kind = .onepassword then some (.outside ⟨BackendKind.onepassword.capabilities, true⟩ fun _ => .error .notFound)
  else none

theorem keychain_read_only : keychainRegistry.ReadOnly := by
  intro backend offer answers outside
  rw [keychainRegistry] at outside
  split at outside
  · cases outside
  · split at outside
    · cases outside
      decide
    · cases outside

def versionsOf (drawn : Nat) : Version := ⟨toString drawn⟩

def letter : Address := ⟨⟨.defaultName, .defaultName, .defaultName⟩, ⟨"letter", by decide +kernel⟩⟩

end Secrets
