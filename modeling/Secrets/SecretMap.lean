import Secrets.Config

set_option autoImplicit false

namespace Secrets

open Std (ExtTreeMap)
open Programs Storage

-- What the port promises a backend to be: a map from addresses to values, each
-- with the version its write was given.
structure Held where
  version : Version
  value : SecretValue
deriving DecidableEq

abbrev SecretMap : Type := ExtTreeMap Address Held

namespace SecretMap

def rows (map : SecretMap) (scope : Scope) : List Storage.SecretMetadata :=
  (map.toList.filter fun entry => decide (entry.1.scope = scope)).map fun entry => ⟨entry.1, some entry.2.version⟩

def written (held : Option Held) (version : Version) : Storage.Written :=
  if held.isSome then .replaced (some version) else .created (some version)

def rename (map : SecretMap) (address renamed : Address) : Except StorageError Unit × SecretMap :=
  match map[address]? with
  | none => (.error .notFound, map)
  | some held => if map.contains renamed then (.error .conflict, map) else (.ok (), (map.insert renamed held).erase address)

def answer (version : Version) : (command : Command) → SecretMap → Except StorageError command.Answer × SecretMap
  | .read target, map => (map[target.address]?.elim (.error .notFound) fun held => .ok ⟨held.value, some held.version⟩, map)
  | .write target value, map => (.ok (written map[target.address]? version), map.insert target.address ⟨version, value⟩)
  | .delete target, map => if map.contains target.address then (.ok (), map.erase target.address) else (.error .notFound, map)
  | .rename target newName, map => rename map target.address (target.address.renamed newName)
  | .list scope, map => (.ok (sort (map.rows scope)), map)

end SecretMap

def Storage.serveAll {State : Type}
    (operate : (command : Command) → Uuid → State → Except StorageError command.Answer × State) (steps : List (Command × Uuid))
    (state : State) : List (Exchange (Command × Uuid) fun step => Except StorageError step.1.Answer) × State :=
  each (fun step => operate step.1 step.2) steps state

section Rows
variable (map : SecretMap) (scope : Scope)

theorem mem_rows (row : Storage.SecretMetadata) :
    row ∈ map.rows scope ↔ row.address.scope = scope ∧ ∃ held, map[row.address]? = some held ∧ row.version = some held.version := by
  simp only [SecretMap.rows, List.mem_map, List.mem_filter, decide_eq_true_eq]
  constructor
  · rintro ⟨⟨address, held⟩, ⟨member, within⟩, rfl⟩
    exact ⟨within, held, ExtTreeMap.mem_toList_iff_getElem?_eq_some.mp member, rfl⟩
  · intro ⟨within, held, found, versioned⟩
    obtain ⟨address, version⟩ := row
    cases versioned
    exact ⟨(address, held), ⟨ExtTreeMap.mem_toList_iff_getElem?_eq_some.mpr found, within⟩, rfl⟩

theorem rows_once : ((map.rows scope).map Storage.SecretMetadata.address).Nodup := by
  have keys : (map.toList.map Prod.fst).Nodup := by
    rw [ExtTreeMap.map_fst_toList_eq_keys]
    exact ExtTreeMap.nodup_keys
  rw [SecretMap.rows, List.map_map]
  exact keys.sublist (List.filter_sublist.map _)

end Rows

section Writes
variable (version : Version) (command : Command) (map : SecretMap)

theorem answer_held (address : Address) (held : Held) (found : (SecretMap.answer version command map).2[address]? = some held) :
    (∃ other : Address, map[other]? = some held) ∨ ∃ target, command = .write target held.value ∧ held.version = version := by
  cases command with
  | read target => exact .inl ⟨address, found⟩
  | list scope => exact .inl ⟨address, found⟩
  | write target value =>
      rw [SecretMap.answer, ExtTreeMap.getElem?_insert] at found
      by_cases here : compare target.address address = .eq
      · rw [if_pos here] at found
        cases found
        exact .inr ⟨target, rfl, rfl⟩
      · rw [if_neg here] at found
        exact .inl ⟨address, found⟩
  | delete target =>
      rw [SecretMap.answer] at found
      split at found
      · rw [ExtTreeMap.getElem?_erase] at found
        by_cases here : compare target.address address = .eq
        · rw [if_pos here] at found
          cases found
        · rw [if_neg here] at found
          exact .inl ⟨address, found⟩
      · exact .inl ⟨address, found⟩
  | rename target newName =>
      rw [SecretMap.answer, SecretMap.rename] at found
      cases source : map[target.address]? with
      | none =>
          rw [source] at found
          exact .inl ⟨address, found⟩
      | some moved =>
          rw [source] at found
          dsimp only at found
          split at found
          · exact .inl ⟨address, found⟩
          · rw [ExtTreeMap.getElem?_erase, ExtTreeMap.getElem?_insert] at found
            by_cases gone : compare target.address address = .eq
            · rw [if_pos gone] at found
              cases found
            rw [if_neg gone] at found
            by_cases here : compare (target.address.renamed newName) address = .eq
            · rw [if_pos here] at found
              cases found
              exact .inl ⟨target.address, source⟩
            · rw [if_neg here] at found
              exact .inl ⟨address, found⟩

end Writes

section Sorting

theorem metadata_fields (first second : Storage.SecretMetadata) (same : first.fields = second.fields) : first = second := by
  obtain ⟨⟨⟨tenant, nameSpace, user⟩, name⟩, version⟩ := first
  obtain ⟨⟨⟨otherTenant, otherNamespace, otherUser⟩, otherName⟩, otherVersion⟩ := second
  simp only [Storage.SecretMetadata.fields, List.cons_append, List.nil_append, List.cons.injEq] at same
  obtain ⟨tenants, nameSpaces, users, names, versions⟩ := same
  have located : version = otherVersion := by
    cases version with
    | none => cases otherVersion with
        | none => rfl
        | some other => cases versions
    | some version => cases otherVersion with
        | none => cases versions
        | some other =>
            obtain ⟨text⟩ := version
            obtain ⟨otherText⟩ := other
            cases versions
            rfl
  rw [scope_name_injective _ _ tenants, scope_name_injective _ _ nameSpaces, scope_name_injective _ _ users,
    secret_name_injective _ _ names, located]

theorem sort_congr (first second : List Storage.SecretMetadata) (permuted : first.Perm second) : sort first = sort second := by
  have same := ((sort_perm first).trans permuted).trans (sort_perm second).symm
  apply List.Perm.eq_of_pairwise (fun left right _ _ before after => metadata_fields left right (le_antisymm before after))
    (sorted_sort first) (sorted_sort second) same

end Sorting
end Secrets
