import Secrets.FileConfig

set_option autoImplicit false

namespace Secrets

open Std (ExtTreeMap)
open Programs Storage

-- The toml crate reads back what it printed.
def Toml.RoundTrips (toml : Toml) : Prop := ∀ table text, toml.print table = some text → toml.parse text = some table

section Records

theorem kind_of_text (kind : BackendKind) : BackendKind.ofText kind.text = some kind := by
  cases kind <;> decide

theorem scope_name_read (name : ScopeName) : (TomlValue.string name.text).scopeName = some name := by
  rw [TomlValue.scopeName, TomlValue.text, Option.bind_some, (scope_name_parse name _).mpr rfl]
  rfl

theorem secret_name_read (name : SecretName) : (TomlValue.string name.text).secretName = some name := by
  rw [TomlValue.secretName, TomlValue.text, Option.bind_some, (secret_name_parse name _).mpr rfl]
  rfl

theorem backend_read (backend : BackendRef) : BackendRef.ofToml backend.toToml = some backend := by
  obtain ⟨kind, label⟩ := backend
  have fields : (BackendRef.toToml ⟨kind, label⟩).fields false ["kind", "label"] =
      some [some (.string kind.text), some (.string label.text)] := rfl
  rw [BackendRef.ofToml, fields]
  simp only [Option.bind_eq_bind, Option.bind_some, TomlValue.variant, kind_of_text, scope_name_read]

theorem namespace_read (record : NamespaceRecord) : NamespaceRecord.ofToml record.toToml = some record := by
  obtain ⟨tenant, name, mount⟩ := record
  cases mount with
  | none =>
      have fields : (NamespaceRecord.toToml ⟨tenant, name, none⟩).fields true ["tenant", "name", "mount"] =
          some [some (.string tenant.text), some (.string name.text), none] := rfl
      rw [NamespaceRecord.ofToml, fields]
      simp only [Option.bind_eq_bind, Option.bind_some, scope_name_read, NamespaceRecord.mountOf]
  | some mount =>
      have fields : (NamespaceRecord.toToml ⟨tenant, name, some mount⟩).fields true ["tenant", "name", "mount"] =
          some [some (.string tenant.text), some (.string name.text), some mount.toToml] := rfl
      rw [NamespaceRecord.ofToml, fields]
      simp only [Option.bind_eq_bind, Option.bind_some, scope_name_read, NamespaceRecord.mountOf, backend_read, Option.map_some]

theorem binding_read (record : BindingRecord) : BindingRecord.ofToml record.toToml = some record := by
  obtain ⟨tenant, nameSpace, user, name, locator⟩ := record
  have fields : (BindingRecord.toToml ⟨tenant, nameSpace, user, name, locator⟩).fields true ["tenant", "namespace", "user", "name", "locator"] =
      some [some (.string tenant.text), some (.string nameSpace.text), some (.string user.text), some (.string name.text),
        some (.string locator.text)] := rfl
  rw [BindingRecord.ofToml, fields]
  simp only [Option.bind_eq_bind, Option.bind_some, scope_name_read, secret_name_read, TomlValue.text]

end Records

section Gathering
variable {Key Value : Type} [Ord Key] [Std.TransOrd Key] [Std.LawfulEqOrd Key]

theorem gather_distinct (entries : List (Key × Value)) (map : ExtTreeMap Key Value)
    (distinct : entries.Pairwise fun first second => ¬compare first.1 second.1 = .eq)
    (unused : ∀ entry ∈ entries, map[entry.1]? = none) :
    ∃ result, Document.gather entries map = .ok result ∧
      ∀ key value, result[key]? = some value ↔ (key, value) ∈ entries ∨ map[key]? = some value := by
  induction entries generalizing map with
  | nil => exact ⟨map, rfl, by simp⟩
  | cons entry rest ih =>
      obtain ⟨key, value⟩ := entry
      obtain ⟨apart, others⟩ := List.pairwise_cons.mp distinct
      have absent : map[key]? = none := unused _ List.mem_cons_self
      have free : map.contains key = false := by
        rw [ExtTreeMap.contains_eq_isSome_getElem?, absent]
        rfl
      obtain ⟨result, gathered, exact⟩ := ih (map.insert key value) others (by
        intro entry member
        rw [ExtTreeMap.getElem?_insert, if_neg (apart entry member)]
        exact unused entry (List.mem_cons_of_mem _ member))
      refine ⟨result, ?_, ?_⟩
      · rw [Document.gather, free, if_neg Bool.false_ne_true]
        exact gathered
      · intro other held
        rw [exact, ExtTreeMap.getElem?_insert, List.mem_cons, Prod.mk.injEq]
        by_cases here : compare key other = .eq
        · cases Std.LawfulEqOrd.eq_of_compare here
          rw [if_pos here, absent, Option.some.injEq]
          simp [or_comm, eq_comm]
        · rw [if_neg here]
          have other_key : other ≠ key := by
            intro same
            rw [same] at here
            exact here Std.ReflOrd.compare_self
          simp [other_key]

theorem gather_entries (map : ExtTreeMap Key Value) : Document.gather map.toList ∅ = .ok map := by
  obtain ⟨result, gathered, exact⟩ := gather_distinct map.toList ∅ ExtTreeMap.distinct_keys_toList (by
    intro entry _
    exact ExtTreeMap.getElem?_empty)
  rw [gathered]
  apply congrArg
  apply ExtTreeMap.ext_getElem?
  intro key
  apply Option.ext
  intro value
  rw [exact, ExtTreeMap.mem_toList_iff_getElem?_eq_some, ExtTreeMap.getElem?_empty]
  simp

end Gathering

section Documents
variable (toml : Toml) (roundTrips : toml.RoundTrips) (document : Document)

theorem absent_key (table : TomlTable) (key : String) (absent : table.contains key = false) : table[key]? = none := by
  rw [ExtTreeMap.contains_eq_isSome_getElem?, Option.isSome_eq_false_iff, Option.isNone_iff_eq_none] at absent
  exact absent

theorem records_read {Record : Type} (read : TomlValue → Option Record) (write : Record → TomlValue)
    (back : ∀ record, read (write record) = some record) (records : List Record) :
    (records.map write).mapM read = some records := by
  induction records with
  | nil => rfl
  | cons record rest ih => rw [List.map_cons, List.mapM_cons, back, ih]; rfl

theorem namespaces_read :
    Document.namespacesOf document.toTable = .ok document.records.namespaces := by
  have entry : document.toTable[Document.NAMESPACES]? =
      some (.array (document.records.namespaces.toList.map Document.namespaceEntry)) := by
    rw [Document.toTable]
    split
    · rw [ExtTreeMap.getElem?_insert_self]
    · rw [ExtTreeMap.getElem?_insert, if_neg (by decide), ExtTreeMap.getElem?_insert_self]
  have read := records_read NamespaceRecord.ofToml NamespaceRecord.toToml namespace_read
    (document.records.namespaces.toList.map fun entry => ⟨entry.1.tenant, entry.1.nameSpace, entry.2⟩)
  rw [List.map_map] at read
  rw [Document.namespacesOf, Document.recordsOf, entry]
  change (Option.elim (List.mapM NamespaceRecord.ofToml (document.records.namespaces.toList.map
    (NamespaceRecord.toToml ∘ fun entry => ⟨entry.1.tenant, entry.1.nameSpace, entry.2⟩))) _ _ >>= _) = _
  rw [read]
  change Document.gather (List.map _ (List.map _ _)) ∅ = _
  rw [List.map_map]
  change Document.gather (List.map (fun entry => entry) _) ∅ = _
  rw [List.map_id']
  exact gather_entries document.records.namespaces

theorem bindings_read : Document.bindingsOf document.toTable = .ok document.records.bindings := by
  by_cases empty : document.records.bindings.isEmpty = true
  · have entry : document.toTable[Document.BINDINGS]? = none := by
      rw [Document.toTable, if_pos empty, ExtTreeMap.getElem?_insert, if_neg (by decide)]
      exact absent_key document.rest _ document.aside.2
    rw [Document.bindingsOf, Document.recordsOf, entry, ExtTreeMap.isEmpty_iff.mp empty]
    rfl
  · have entry : document.toTable[Document.BINDINGS]? =
        some (.array (document.records.bindings.toList.map Document.bindingEntry)) := by
      rw [Document.toTable, if_neg empty, ExtTreeMap.getElem?_insert_self]
    have read := records_read BindingRecord.ofToml BindingRecord.toToml binding_read
      (document.records.bindings.toList.map fun entry =>
        ⟨entry.1.scope.tenant, entry.1.scope.nameSpace, entry.1.scope.user, entry.1.name, entry.2⟩)
    rw [List.map_map] at read
    rw [Document.bindingsOf, Document.recordsOf, entry]
    change (Option.elim (List.mapM BindingRecord.ofToml (document.records.bindings.toList.map
      (BindingRecord.toToml ∘ fun entry =>
        ⟨entry.1.scope.tenant, entry.1.scope.nameSpace, entry.1.scope.user, entry.1.name, entry.2⟩))) _ _ >>= _) = _
    rw [read]
    change Document.gather (List.map _ (List.map _ _)) ∅ = _
    rw [List.map_map]
    change Document.gather (List.map (fun entry => entry) _) ∅ = _
    rw [List.map_id']
    exact gather_entries document.records.bindings

theorem rest_read : (document.toTable.erase Document.NAMESPACES).erase Document.BINDINGS = document.rest := by
  have absent := absent_key document.rest
  apply ExtTreeMap.ext_getElem?
  intro key
  rw [ExtTreeMap.getElem?_erase, ExtTreeMap.getElem?_erase]
  by_cases bindings : compare Document.BINDINGS key = .eq
  · rw [if_pos bindings, ← Std.LawfulEqOrd.eq_of_compare bindings, absent _ document.aside.2]
  rw [if_neg bindings]
  by_cases namespaces : compare Document.NAMESPACES key = .eq
  · rw [if_pos namespaces, ← Std.LawfulEqOrd.eq_of_compare namespaces, absent _ document.aside.1]
  rw [if_neg namespaces, Document.toTable]
  split
  · rw [ExtTreeMap.getElem?_insert, if_neg namespaces]
  · rw [ExtTreeMap.getElem?_insert, if_neg bindings, ExtTreeMap.getElem?_insert, if_neg namespaces]

theorem erase_absent (table : TomlTable) (key : String) (absent : table.contains key = false) : table.erase key = table := by
  apply ExtTreeMap.ext_getElem?
  intro other
  rw [ExtTreeMap.getElem?_erase]
  by_cases here : compare key other = .eq
  · rw [if_pos here, ← Std.LawfulEqOrd.eq_of_compare here]
    exact (absent_key table key absent).symm
  · rw [if_neg here]

theorem of_table_foreign (table : TomlTable)
    (foreign : table.contains Document.NAMESPACES = false ∧ table.contains Document.BINDINGS = false) :
    ∃ document, Document.ofTable table = .ok document ∧ document.rest = table ∧ document.records = InMemoryConfig.localStart := by
  have namespaces : Document.namespacesOf table = .ok ∅ := by
    rw [Document.namespacesOf, Document.recordsOf, absent_key table _ foreign.1]
    rfl
  have bindings : Document.bindingsOf table = .ok ∅ := by
    rw [Document.bindingsOf, Document.recordsOf, absent_key table _ foreign.2]
    rfl
  have rest : (table.erase Document.NAMESPACES).erase Document.BINDINGS = table := by
    rw [erase_absent table _ foreign.1, erase_absent table _ foreign.2]
  have start : Document.withDefault ∅ = InMemoryConfig.localStart.namespaces := by
    apply ExtTreeMap.ext_getElem?
    intro key
    rw [Document.withDefault, ExtTreeMap.getElem?_insertIfNew, InMemoryConfig.localStart, ExtTreeMap.getElem?_insert]
    simp
  rw [Document.ofTable, namespaces, bindings]
  exact ⟨_, rfl, rest, congrArg (fun namespaces => Records.mk namespaces ∅) start⟩

theorem with_default_kept : Document.withDefault document.records.namespaces = document.records.namespaces := by
  have there := document.hasDefault
  apply ExtTreeMap.ext_getElem?
  intro key
  rw [Document.withDefault, ExtTreeMap.getElem?_insertIfNew]
  rw [if_neg]
  rw [← ExtTreeMap.contains_iff_mem, there]
  simp

theorem of_table_to_table : Document.ofTable document.toTable = .ok document := by
  rw [Document.ofTable, namespaces_read, bindings_read]
  obtain ⟨rest, ⟨namespaces, bindings⟩, aside, hasDefault⟩ := document
  have same := rest_read ⟨rest, ⟨namespaces, bindings⟩, aside, hasDefault⟩
  have kept := with_default_kept ⟨rest, ⟨namespaces, bindings⟩, aside, hasDefault⟩
  simp only [pure, Except.pure, bind, Except.bind, same, kept]

include roundTrips in
theorem parse_render (text : String) (rendered : document.render toml = .ok text) : Document.parse toml text = .ok document := by
  rw [Document.render] at rendered
  cases printed : toml.print document.toTable with
  | none =>
      rw [printed] at rendered
      cases rendered
  | some found =>
      rw [printed] at rendered
      cases rendered
      rw [Document.parse, roundTrips _ _ printed]
      exact of_table_to_table document

end Documents
end Secrets
