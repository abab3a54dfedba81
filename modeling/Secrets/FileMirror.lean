import Mathlib.Logic.Equiv.List
import Secrets.FileChanges
import Secrets.Routing
import Secrets.Versions

set_option autoImplicit false

namespace Secrets

open Std (ExtTreeMap)
open Programs Storage

def Toml.Faithful (toml : Toml) : Prop := ∀ table, ∃ text, toml.print table = some text ∧ toml.parse text = some table

theorem faithful_round_trips (toml : Toml) (faithful : toml.Faithful) : toml.RoundTrips := by
  intro table text printed
  obtain ⟨found, same, parsed⟩ := faithful table
  cases printed.symm.trans same
  exact parsed

namespace FileConfig

section Sound
variable (toml : Toml) (update : Document → Except StorageError Document) (files : Files)

theorem run_view {Value : Type} (view : Records → Value) (document : Document) (found : loaded toml files = .ok document) :
    run answer (viewed toml view) files = (.ok (view document.records), files) := by
  rw [loaded_file] at found
  rw [viewed, load, Prog.ask_bind, run_ask, answer]
  cases read : files.file with
  | none =>
      rw [read, Option.getD_none] at found
      rw [Option.elim_none]
      dsimp only
      rw [found]
      rfl
  | some text =>
      rw [read, Option.getD_some] at found
      rw [Option.elim_some]
      dsimp only
      rw [found]
      rfl

theorem run_change (document : Document) (found : loaded toml files = .ok document) :
    run answer (change toml update) files =
      run answer ((Prog.lift (update document) : Operation Document) >>= fun changed =>
        (Prog.lift (changed.render toml) : Operation String) >>= replace) files := by
  have closed : run answer (change toml update) files = run answer (Prog.closing .unlock (rewrite toml update)) files := rfl
  rw [closed, run_closing]
  rw [loaded_file] at found
  rw [rewrite, load, Prog.ask_bind, run_ask, answer]
  cases read : files.file with
  | none =>
      rw [read, Option.getD_none] at found
      rw [Option.elim_none]
      dsimp only
      rw [found]
      rfl
  | some text =>
      rw [read, Option.getD_some] at found
      rw [Option.elim_some]
      dsimp only
      rw [found]
      rfl

theorem run_refused (document : Document) (found : loaded toml files = .ok document) (error : StorageError)
    (refused : update document = .error error) : run answer (change toml update) files = (.error error, files) := by
  rw [run_change toml update files document found, refused]
  rfl

theorem run_changed (document changed : Document) (text : String) (found : loaded toml files = .ok document)
    (updated : update document = .ok changed) (rendered : changed.render toml = .ok text) :
    run answer (change toml update) files = (.ok (), ⟨some text, none⟩) := by
  rw [run_change toml update files document found, updated, Prog.lift, Prog.done_bind, rendered]
  rfl

end Sound

def Holds (toml : Toml) (rest : TomlTable) (files : Files) (records : Records) : Prop :=
  ∃ document, loaded toml files = .ok document ∧ document.rest = rest ∧ document.records = records

-- An updated document: the change of its records, and nothing else.
structure Follows (document : Document) (change : Except StorageError Records) (updated : Except StorageError Document) : Prop where
  refused : ∀ error, change = .error error → updated = .error error
  changed : ∀ after, change = .ok after → ∃ changed, updated = .ok changed ∧ changed.rest = document.rest ∧ changed.records = after

theorem changed_follows (document : Document) (change : Except StorageError Records)
    (keeps : ∀ after, change = .ok after → after.namespaces.contains NamespaceKey.localDefault = true) :
    Follows document change (document.changed change keeps) := by
  cases change with
  | error error =>
      constructor
      · intro other same
        cases same
        rfl
      · intro after same
        cases same
  | ok records =>
      constructor
      · intro other same
        cases same
      · intro after same
        cases same
        exact ⟨_, rfl, rfl, rfl⟩

section Mirrored
variable (toml : Toml) (faithful : toml.Faithful) (files : Files) (document : Document) (found : loaded toml files = .ok document)
include faithful found

theorem change_mirrors (update : Document → Except StorageError Document) (change : Except StorageError Records)
    (follows : Follows document change (update document)) :
    (run answer (FileConfig.change toml update) files).1 = (document.records.changed change).1 ∧
    Holds toml document.rest (run answer (FileConfig.change toml update) files).2 (document.records.changed change).2 := by
  cases change with
  | error error =>
      rw [run_refused toml update files document found error (follows.refused error rfl)]
      exact ⟨rfl, document, found, rfl, rfl⟩
  | ok after =>
      obtain ⟨changed, updated, rest, records⟩ := follows.changed after rfl
      obtain ⟨text, printed, parsed⟩ := faithful changed.toTable
      have rendered : changed.render toml = .ok text := by
        rw [Document.render, printed]
        rfl
      rw [run_changed toml update files document changed text found updated rendered]
      exact ⟨rfl, changed, placed_loads toml (faithful_round_trips toml faithful) changed text _ rendered rfl, rest, records⟩

omit faithful in
theorem view_mirrors {Value : Type} (view : Records → Value) :
    (run answer (viewed toml view) files).1 = .ok (view document.records) ∧
    Holds toml document.rest (run answer (viewed toml view) files).2 document.records := by
  rw [run_view toml files view document found]
  exact ⟨rfl, document, found, rfl, rfl⟩

theorem perform_mirrors (call : ConfigCall) (spares : call ≠ .removeNamespace .localDefault) :
    (run answer (perform toml call) files).1 = (InMemoryConfig.perform call document.records).1 ∧
    Holds toml document.rest (run answer (perform toml call) files).2 (InMemoryConfig.perform call document.records).2 := by
  cases call with
  | nameSpace key => exact view_mirrors toml files document found fun records => records.found key
  | namespaces => exact view_mirrors toml files document found Records.listed
  | binding address => exact view_mirrors toml files document found fun records => records.bindings[address]?
  | hasBindings key => exact view_mirrors toml files document found fun records => records.hasBindings key
  | insertNamespace nameSpace => exact change_mirrors toml faithful files document found _ _ (changed_follows document _ _)
  | removeNamespace key =>
      apply change_mirrors toml faithful files document found (FileConfig.removeNamespace key)
      rw [FileConfig.removeNamespace, dif_neg fun isDefault => spares (congrArg ConfigCall.removeNamespace isDefault)]
      exact changed_follows document _ _
  | setMount key mount => exact change_mirrors toml faithful files document found _ _ (changed_follows document _ _)
  | insertBinding address locator => exact change_mirrors toml faithful files document found _ _ (changed_follows document _ _)
  | removeBinding address => exact change_mirrors toml faithful files document found _ _ (changed_follows document _ _)

end Mirrored

-- A configuration file beside backends that answer anything, their calls on
-- record.
structure Disk where
  files : Files
  calls : List (BackendRef × Command)

def Disk.answer (toml : Toml) (oracle : Oracle) : (call : Federation.Call) → Disk → call.Answer × Disk
  | .config call, disk =>
      ((run FileConfig.answer (perform toml call) disk.files).1,
        { disk with files := (run FileConfig.answer (perform toml call) disk.files).2 })
  | .backend backend command, disk =>
      (oracle disk.calls backend command, { disk with calls := disk.calls ++ [(backend, command)] })

structure Mirrors (toml : Toml) (rest : TomlTable) (disk : Disk) (traffic : Traffic) : Prop where
  holds : Holds toml rest disk.files traffic.records
  calls : disk.calls = traffic.calls

end FileConfig

def Federation.Call.sparesDefault : Federation.Call → Prop
  | .config (.removeNamespace key) => key ≠ .localDefault
  | _ => True

section Requests
variable (backends : BackendRef → Option Offer)

theorem request_spares_default (request : Federation.Request) : (request.perform backends).Asks Federation.Call.sparesDefault := by
  apply request_asks
  intro call may
  cases call with
  | backend backend command => trivial
  | config call =>
      cases call with
      | removeNamespace key =>
          cases request with
          | removeNamespace other =>
              obtain ⟨rfl, named⟩ := may
              exact fun same => named (congrArg NamespaceKey.nameSpace same)
          | _ => exact may.elim
      | _ => trivial

def Federation.requests {State : Type} (answer : (call : Federation.Call) → State → call.Answer × State)
    (requests : List Federation.Request) (state : State) :
    List (Exchange Federation.Request fun request => Except StorageError request.Value) × State :=
  each (fun request => run answer (request.perform backends)) requests state

end Requests

namespace FileConfig

section Interchangeable
variable (toml : Toml) (faithful : toml.Faithful) (oracle : Oracle) (backends : BackendRef → Option Offer)
include faithful

theorem answer_mirrors (rest : TomlTable) (call : Federation.Call) (disk : Disk) (traffic : Traffic) (spares : call.sparesDefault)
    (mirrors : Mirrors toml rest disk traffic) :
    (disk.answer toml oracle call).1 = (oracle.answer call traffic).1 ∧
    Mirrors toml rest (disk.answer toml oracle call).2 (oracle.answer call traffic).2 := by
  obtain ⟨⟨document, found, rfl, same⟩, calls⟩ := mirrors
  cases call with
  | config call =>
      have inStep := perform_mirrors toml faithful disk.files document found call (by
        rintro rfl
        exact spares rfl)
      rw [same] at inStep
      exact ⟨inStep.1, inStep.2, calls⟩
  | backend backend command =>
      rw [Disk.answer, Oracle.answer, calls]
      exact ⟨rfl, ⟨document, found, rfl, same⟩, rfl⟩

/-- Behind routing nothing tells the file from the memory store: every request is answered
alike, and the file then holds what the memory store does, beside every key that was
there before. -/
theorem stores_interchangeable (rest : TomlTable) (file : Option String) (begins : toml.parse (file.getD "") = some rest)
    (foreign : rest.contains Document.NAMESPACES = false ∧ rest.contains Document.BINDINGS = false)
    (requests : List Federation.Request) :
    (Federation.requests backends (Disk.answer toml oracle) requests ⟨⟨file, none⟩, []⟩).1 =
      (Federation.requests backends oracle.answer requests ⟨InMemoryConfig.localStart, []⟩).1 ∧
    Mirrors toml rest (Federation.requests backends (Disk.answer toml oracle) requests ⟨⟨file, none⟩, []⟩).2
      (Federation.requests backends oracle.answer requests ⟨InMemoryConfig.localStart, []⟩).2 := by
  apply each_alike _ _ (Mirrors toml rest)
  · intro request disk traffic mirrors
    have alike := alike_run (Disk.answer toml oracle) oracle.answer (Mirrors toml rest) Federation.Call.sparesDefault
      (fun call left right spares related => answer_mirrors toml faithful oracle rest call left right spares related)
      (request.perform backends) (request_spares_default backends request) disk traffic mirrors
    exact ⟨alike.same, alike.related⟩
  · obtain ⟨document, made, kept, records⟩ := of_table_foreign rest foreign
    refine ⟨⟨document, ?_, kept, records⟩, rfl⟩
    rw [loaded_file, Document.parse, begins]
    exact made

end Interchangeable
end FileConfig

section Example

namespace TomlValue

def digits (text : String) : List Nat := text.toList.length :: text.toList.map Char.toNat

mutual
def encode : TomlValue → List Nat
  | .string text => 0 :: digits text
  | .other written => 1 :: digits written
  | .array items => 2 :: items.length :: encodeItems items
  | .table entries => 3 :: entries.length :: encodeEntries entries
  | .datetime text => 4 :: digits text

def encodeItems : List TomlValue → List Nat
  | [] => []
  | item :: rest => encode item ++ encodeItems rest

def encodeEntries : List (String × TomlValue) → List Nat
  | [] => []
  | (key, value) :: rest => digits key ++ (encode value ++ encodeEntries rest)
end

theorem digits_unique (first second : String) (left right : List Nat) (same : digits first ++ left = digits second ++ right) :
    first = second ∧ left = right := by
  simp only [digits, List.cons_append, List.cons.injEq] at same
  obtain ⟨lengths, rest⟩ := same
  obtain ⟨chars, rest⟩ := List.append_inj rest (by simp [lengths])
  have injective : Function.Injective Char.toNat := fun a b h => Char.toNat_inj.mp h
  exact ⟨String.toList_injective (List.map_injective_iff.mpr injective chars), rest⟩

mutual
theorem encode_unique : ∀ (first second : TomlValue) (left right : List Nat), encode first ++ left = encode second ++ right →
    first = second ∧ left = right
  | .string text, second, left, right, same => by
      cases second with
      | string other =>
          simp only [encode, List.cons_append, List.cons.injEq, true_and] at same
          obtain ⟨texts, rest⟩ := digits_unique text other left right same
          exact ⟨congrArg TomlValue.string texts, rest⟩
      | _ => simp [encode] at same
  | .other written, second, left, right, same => by
      cases second with
      | other text =>
          simp only [encode, List.cons_append, List.cons.injEq, true_and] at same
          obtain ⟨texts, rest⟩ := digits_unique written text left right same
          exact ⟨congrArg TomlValue.other texts, rest⟩
      | _ => simp [encode] at same
  | .array items, second, left, right, same => by
      cases second with
      | array others =>
          simp only [encode, List.cons_append, List.cons.injEq, true_and] at same
          obtain ⟨all, rest⟩ := items_unique items others left right same.1 same.2
          exact ⟨congrArg TomlValue.array all, rest⟩
      | _ => simp [encode] at same
  | .table entries, second, left, right, same => by
      cases second with
      | table others =>
          simp only [encode, List.cons_append, List.cons.injEq, true_and] at same
          obtain ⟨all, rest⟩ := entries_unique entries others left right same.1 same.2
          exact ⟨congrArg TomlValue.table all, rest⟩
      | _ => simp [encode] at same
  | .datetime text, second, left, right, same => by
      cases second with
      | datetime other =>
          simp only [encode, List.cons_append, List.cons.injEq, true_and] at same
          obtain ⟨texts, rest⟩ := digits_unique text other left right same
          exact ⟨congrArg TomlValue.datetime texts, rest⟩
      | _ => simp [encode] at same

theorem items_unique : ∀ (first second : List TomlValue) (left right : List Nat), first.length = second.length →
    encodeItems first ++ left = encodeItems second ++ right → first = second ∧ left = right
  | [], [], left, right, _, same => ⟨rfl, by simpa [encodeItems] using same⟩
  | [], _ :: _, _, _, lengths, _ => by cases lengths
  | _ :: _, [], _, _, lengths, _ => by cases lengths
  | item :: rest, first :: others, left, right, lengths, same => by
      simp only [encodeItems, List.append_assoc] at same
      obtain ⟨here, tails⟩ := encode_unique item first _ _ same
      obtain ⟨all, last⟩ := items_unique rest others left right (Nat.succ.inj lengths) tails
      exact ⟨by rw [here, all], last⟩

theorem entries_unique : ∀ (first second : List (String × TomlValue)) (left right : List Nat), first.length = second.length →
    encodeEntries first ++ left = encodeEntries second ++ right → first = second ∧ left = right
  | [], [], left, right, _, same => ⟨rfl, by simpa [encodeEntries] using same⟩
  | [], _ :: _, _, _, lengths, _ => by cases lengths
  | _ :: _, [], _, _, lengths, _ => by cases lengths
  | (key, value) :: rest, (name, found) :: others, left, right, lengths, same => by
      simp only [encodeEntries, List.append_assoc] at same
      obtain ⟨keys, tails⟩ := digits_unique key name _ _ same
      obtain ⟨here, tails⟩ := encode_unique value found _ _ tails
      obtain ⟨all, last⟩ := entries_unique rest others left right (Nat.succ.inj lengths) tails
      exact ⟨by rw [keys, here, all], last⟩
end
end TomlValue

def numbered (table : TomlTable) : List Nat := table.toList.length :: TomlValue.encodeEntries table.toList

theorem numbered_injective (first second : TomlTable) (same : numbered first = numbered second) : first = second := by
  obtain ⟨lengths, entries⟩ := List.cons.inj same
  have unique := TomlValue.entries_unique first.toList second.toList [] [] lengths (by rw [entries])
  exact ExtTreeMap.toList_inj.mp unique.1

noncomputable def written (table : TomlTable) : String :=
  haveI : Decidable (table = FileConfig.workDocument.toTable) := Classical.propDecidable _
  if table = FileConfig.workDocument.toTable then FileConfig.workText else "# " ++ (Encodable.encode (numbered table)).repr

theorem written_injective (first second : TomlTable) (same : written first = written second) : first = second := by
  have apart : ∀ number : Nat, FileConfig.workText ≠ "# " ++ number.repr := by
    intro number texts
    have letters := congrArg (fun text => text.toList.head?) texts
    simp only [String.toList_append] at letters
    have first : FileConfig.workText.toList.head? = some '[' := by decide
    rw [first] at letters
    simp at letters
  rw [written, written] at same
  by_cases here : first = FileConfig.workDocument.toTable
  · by_cases there : second = FileConfig.workDocument.toTable
    · rw [here, there]
    · rw [if_pos here, if_neg there] at same
      exact absurd same (apart _)
  · by_cases there : second = FileConfig.workDocument.toTable
    · rw [if_neg here, if_pos there] at same
      exact absurd same.symm (apart _)
    · rw [if_neg here, if_neg there] at same
      have numbers := congrArg String.toList same
      rw [String.toList_append, String.toList_append, List.append_right_inj] at numbers
      exact numbered_injective _ _ (Encodable.encode_injective (decimal_injective _ _ (String.toList_injective numbers)))

open Classical in
noncomputable def linedToml : Toml where
  parse text := if text = "" then some ∅ else if made : ∃ table, written table = text then some made.choose else none
  print table := some (written table)

theorem lined_faithful : linedToml.Faithful := by
  intro table
  refine ⟨written table, rfl, ?_⟩
  have some_text : written table ≠ "" := by
    rw [written]
    split
    · decide
    · intro empty
      have letters := congrArg (fun text => text.toList) empty
      simp at letters
  have made : ∃ other, written other = written table := ⟨table, rfl⟩
  rw [linedToml]
  simp only
  rw [if_neg some_text, dif_pos made, written_injective _ _ made.choose_spec]

theorem first_namespace_alike :
    (Federation.requests (fun _ => some ⟨[], false⟩) (FileConfig.Disk.answer linedToml fun _ _ _ => .error .unavailable)
      [.addNamespace FileConfig.workNamespace.key none, .namespaces] ⟨⟨none, none⟩, []⟩).1 =
    (Federation.requests (fun _ => some ⟨[], false⟩) (Oracle.answer fun _ _ _ => .error .unavailable)
      [.addNamespace FileConfig.workNamespace.key none, .namespaces] ⟨InMemoryConfig.localStart, []⟩).1 := by
  have begins : linedToml.parse (Option.getD none "") = some ∅ := by
    rw [linedToml]
    simp
  exact (FileConfig.stores_interchangeable linedToml lined_faithful _ (fun _ => some ⟨[], false⟩) ∅ none begins ⟨rfl, rfl⟩ _).1

end Example
end Secrets
