import Secrets.FileRecords
import Secrets.Lib.Checks

set_option autoImplicit false

namespace Secrets

open Std (ExtTreeMap)
open Programs Storage

namespace FileConfig

def Call.failed : (call : Call) → call.Answer
  | .read => .error .other
  | .createDirectory | .openLock | .lock | .stage | .write _ | .sync | .rename | .openDirectory | .syncDirectory | .unstage
  | .unlock => .error .other

abbrev Trial : Type := Files × Nat

abbrev Trial.files (trial : Trial) : Files := trial.1

def faulty (fails : Nat → Bool) : (call : Call) → Trial → call.Answer × Trial := Programs.faulty answer Call.failed fails

def loaded (toml : Toml) (files : Files) : Except StorageError Document := (run answer (load toml) files).1

-- The change goes through to the rename, which puts `text` in place.
structure Renames (toml : Toml) (update : Document → Except StorageError Document) (fails : Nat → Bool) (files : Files)
    (changed : Document) (text : String) : Prop where
  updates : ∃ document, loaded toml files = .ok document ∧ update document = .ok changed
  renders : changed.render toml = .ok text
  sound : ∀ step < 8, fails step = false

-- How a change ends: before the rename, with the file as it was; at the end; or
-- with the directory not opened or not synced after the rename.
inductive Outcome (toml : Toml) (update : Document → Except StorageError Document) (fails : Nat → Bool) (files : Files) :
    Except StorageError Unit × Trial → Prop where
  | kept (error : StorageError) (after : Trial) (same : after.files.file = files.file)
      (short : ∀ changed text, ¬Renames toml update fails files changed text) : Outcome toml update fails files (.error error, after)
  | done (changed : Document) (text : String) (after : Trial) (renames : Renames toml update fails files changed text)
      (placed : after.files.file = some text) (flushed : fails 8 = false ∧ fails 9 = false) :
      Outcome toml update fails files (.ok (), after)
  | torn (error : StorageError) (changed : Document) (text : String) (after : Trial)
      (renames : Renames toml update fails files changed text) (placed : after.files.file = some text)
      (unflushed : fails 8 = true ∨ fails 9 = true) : Outcome toml update fails files (.error error, after)

section Steps
variable (fails : Nat → Bool) (files : Files) (made : Nat)

theorem io_fails {Value : Type} (call : Call) (view : call.Answer → Except IoError Unit) (next : Unit → Operation Value)
    (refuses : view call.failed = .error .other) (strikes : fails made = true) :
    run (faulty fails) (io call view >>= next) ⟨files, made⟩ = (.error .unavailable, ⟨files, made + 1⟩) := by
  rw [io, Prog.ask_bind, run_ask, faulty, Programs.faulty, if_pos strikes, refuses]
  rfl

theorem io_passes {Value : Type} (call : Call) (view : call.Answer → Except IoError Unit) (next : Unit → Operation Value)
    (passes : view (answer call files).1 = .ok ()) (spares : fails made = false) :
    run (faulty fails) (io call view >>= next) ⟨files, made⟩ = run (faulty fails) (next ()) ⟨(answer call files).2, made + 1⟩ := by
  rw [io, Prog.ask_bind, run_ask, faulty, Programs.faulty, spares, if_neg Bool.false_ne_true, passes]
  rfl

theorem io_last (call : Call) (view : call.Answer → Except IoError Unit) (refuses : view call.failed = .error .other)
    (passes : view (answer call files).1 = .ok ()) :
    run (faulty fails) (io call view) ⟨files, made⟩ =
      if fails made then (.error .unavailable, ⟨files, made + 1⟩) else (.ok (), ⟨(answer call files).2, made + 1⟩) := by
  rw [io, run_ask, faulty, Programs.faulty]
  by_cases strikes : fails made = true
  · rw [if_pos strikes, if_pos strikes, refuses]
    rfl
  · rw [if_neg strikes, if_neg strikes, passes]
    rfl

end Steps

inductive Written (fails : Nat → Bool) (files : Files) (text : String) : Except StorageError Unit × Trial → Prop where
  | kept (error : StorageError) (after : Trial) (same : after.files.file = files.file) (step : Nat) (early : step < 8)
      (strikes : fails step = true) : Written fails files text (.error error, after)
  | done (after : Trial) (placed : after.files.file = some text) (sound : ∀ step, 4 ≤ step → step < 10 → fails step = false) :
      Written fails files text (.ok (), after)
  | torn (error : StorageError) (after : Trial) (placed : after.files.file = some text)
      (sound : ∀ step, 4 ≤ step → step < 8 → fails step = false) (unflushed : fails 8 = true ∨ fails 9 = true) :
      Written fails files text (.error error, after)

section Writing
variable (fails : Nat → Bool) (files : Files) (text : String)

theorem written_ends : Written fails files text (run (faulty fails) (written text) ⟨files, 4⟩) := by
  rw [written]
  by_cases stage : fails 4 = true
  · rw [io_fails fails files 4 .stage id _ rfl stage]
    exact .kept _ _ rfl 4 (by omega) stage
  rw [io_passes fails files 4 .stage id _ rfl (Bool.eq_false_iff.mpr stage)]
  by_cases write : fails 5 = true
  · rw [io_fails fails _ 5 (.write text) id _ rfl write]
    exact .kept _ _ rfl 5 (by omega) write
  rw [io_passes fails _ 5 (.write text) id _ rfl (Bool.eq_false_iff.mpr write)]
  by_cases sync : fails 6 = true
  · rw [io_fails fails _ 6 .sync id _ rfl sync]
    exact .kept _ _ rfl 6 (by omega) sync
  rw [io_passes fails _ 6 .sync id _ rfl (Bool.eq_false_iff.mpr sync)]
  by_cases rename : fails 7 = true
  · rw [io_fails fails _ 7 .rename id _ rfl rename]
    exact .kept _ _ rfl 7 (by omega) rename
  rw [io_passes fails _ 7 .rename id _ rfl (Bool.eq_false_iff.mpr rename)]
  have sound : ∀ step, 4 ≤ step → step < 8 → fails step = false := by
    intro step late early
    have steps : step = 4 ∨ step = 5 ∨ step = 6 ∨ step = 7 := by omega
    rcases steps with rfl | rfl | rfl | rfl
    · exact Bool.eq_false_iff.mpr stage
    · exact Bool.eq_false_iff.mpr write
    · exact Bool.eq_false_iff.mpr sync
    · exact Bool.eq_false_iff.mpr rename
  by_cases opened : fails 8 = true
  · rw [io_fails fails _ 8 .openDirectory id _ rfl opened]
    exact .torn _ _ rfl sound (.inl opened)
  rw [io_passes fails _ 8 .openDirectory id _ rfl (Bool.eq_false_iff.mpr opened)]
  rw [io_last fails _ 9 .syncDirectory id rfl rfl]
  by_cases flushed : fails 9 = true
  · rw [if_pos flushed]
    exact .torn _ _ rfl sound (.inr flushed)
  rw [if_neg flushed]
  apply Written.done _ rfl
  intro step late early
  by_cases before : step < 8
  · exact sound step late before
  have steps : step = 8 ∨ step = 9 := by omega
  rcases steps with rfl | rfl
  · exact Bool.eq_false_iff.mpr opened
  · exact Bool.eq_false_iff.mpr flushed

theorem faulty_keeps (call : Call) (spares : call ≠ .rename) (trial : Trial) :
    (faulty fails call trial).2.files.file = trial.files.file := by
  rw [faulty, Programs.faulty]
  split
  · rfl
  · cases call with
    | rename => exact absurd rfl spares
    | _ => rfl

theorem replace_ends : Written fails files text (run (faulty fails) (replace text) ⟨files, 4⟩) := by
  have ends := written_ends fails files text
  generalize ran : run (faulty fails) (written text) ⟨files, 4⟩ = ended at ends
  rw [replace]
  cases ends with
  | kept error after same step early strikes =>
      rw [run_mending_error _ _ _ _ _ _ ran]
      exact .kept _ _ ((faulty_keeps fails .unstage nofun after).trans same) step early strikes
  | done after placed sound =>
      rw [run_mending_ok _ _ _ _ _ _ ran]
      exact .done _ placed sound
  | torn error after placed sound unflushed =>
      rw [run_mending_error _ _ _ _ _ _ ran]
      exact .torn _ _ ((faulty_keeps fails .unstage nofun after).trans placed) sound unflushed

end Writing

section Changing
variable (toml : Toml) (update : Document → Except StorageError Document) (fails : Nat → Bool) (files : Files)

theorem loaded_file : loaded toml files = Document.parse toml (files.file.getD "") := by
  rw [loaded, load, run_ask, answer]
  cases files.file with
  | none => exact congrArg Prod.fst (run_lift answer _ _)
  | some text => exact congrArg Prod.fst (run_lift answer _ _)

theorem run_load {Value : Type} (next : Document → Operation Value) :
    run (faulty fails) (load toml >>= next) ⟨files, 3⟩ =
      if fails 3 then (.error .unavailable, ⟨files, 4⟩)
      else match loaded toml files with
        | .ok document => run (faulty fails) (next document) ⟨files, 4⟩
        | .error error => (.error error, ⟨files, 4⟩) := by
  rw [loaded_file, load, Prog.ask_bind, run_ask, faulty, Programs.faulty]
  by_cases strikes : fails 3 = true
  · rw [if_pos strikes, if_pos strikes]
    rfl
  · rw [if_neg strikes, if_neg strikes, answer]
    cases files.file with
    | none =>
        rw [Option.elim_none, Option.getD_none]
        dsimp only
        cases Document.parse toml "" <;> rfl
    | some text =>
        rw [Option.elim_some, Option.getD_some]
        dsimp only
        cases Document.parse toml text <;> rfl

theorem rewrite_ends (first : ∀ step < 3, fails step = false) :
    Outcome toml update fails files (run (faulty fails) (rewrite toml update) ⟨files, 3⟩) := by
  rw [rewrite, run_load]
  by_cases read : fails 3 = true
  · rw [if_pos read]
    refine .kept _ _ rfl fun changed text renames => ?_
    rw [renames.sound 3 (by omega)] at read
    cases read
  rw [if_neg read]
  cases found : loaded toml files with
  | error error =>
      refine .kept _ _ rfl fun changed text renames => ?_
      obtain ⟨document, there, _⟩ := renames.updates
      cases found.symm.trans there
  | ok document =>
      dsimp only
      cases updated : update document with
      | error error =>
          refine .kept _ _ rfl fun changed text renames => ?_
          obtain ⟨other, there, made⟩ := renames.updates
          cases found.symm.trans there
          cases updated.symm.trans made
      | ok changed =>
          rw [Prog.lift, Prog.done_bind]
          cases rendered : changed.render toml with
          | error error =>
              refine .kept _ _ rfl fun other text renames => ?_
              obtain ⟨before, there, made⟩ := renames.updates
              cases found.symm.trans there
              cases updated.symm.trans made
              cases rendered.symm.trans renames.renders
          | ok text =>
              rw [Prog.lift, Prog.done_bind]
              have ends := replace_ends fails files text
              generalize ran : run (faulty fails) (replace text) ⟨files, 4⟩ = ended at ends
              have early : (∀ step, 4 ≤ step → step < 8 → fails step = false) → ∀ step < 8, fails step = false := by
                intro sound step before
                by_cases late : 4 ≤ step
                · exact sound step late before
                by_cases third : step = 3
                · exact third ▸ Bool.eq_false_iff.mpr read
                · exact first step (by omega)
              cases ends with
              | kept error after same step before strikes =>
                  refine .kept _ _ same fun other text renames => ?_
                  rw [renames.sound step before] at strikes
                  cases strikes
              | done after placed sound =>
                  exact .done changed text _ ⟨⟨document, found, updated⟩, rendered, early fun step late before => sound step late (by omega)⟩
                    placed ⟨sound 8 (by omega) (by omega), sound 9 (by omega) (by omega)⟩
              | torn error after placed sound unflushed =>
                  exact .torn _ changed text _ ⟨⟨document, found, updated⟩, rendered, early sound⟩ placed unflushed

theorem stopped_early (step : Nat) (early : step < 8) (strikes : fails step = true) (after : Trial)
    (same : after.files.file = files.file) : Outcome toml update fails files (.error .unavailable, after) := by
  refine .kept _ _ same fun changed text renames => ?_
  rw [renames.sound step early] at strikes
  cases strikes

theorem change_ends : Outcome toml update fails files (run (faulty fails) (change toml update) ⟨files, 0⟩) := by
  rw [change]
  by_cases created : fails 0 = true
  · rw [io_fails fails files 0 .createDirectory id _ rfl created]
    exact stopped_early toml update fails files 0 (by omega) created _ rfl
  rw [io_passes fails files 0 .createDirectory id _ rfl (Bool.eq_false_iff.mpr created)]
  by_cases opened : fails 1 = true
  · rw [io_fails fails _ 1 .openLock id _ rfl opened]
    exact stopped_early toml update fails files 1 (by omega) opened _ rfl
  rw [io_passes fails _ 1 .openLock id _ rfl (Bool.eq_false_iff.mpr opened)]
  by_cases locked : fails 2 = true
  · rw [io_fails fails _ 2 .lock id _ rfl locked]
    exact stopped_early toml update fails files 2 (by omega) locked _ rfl
  rw [io_passes fails _ 2 .lock id _ rfl (Bool.eq_false_iff.mpr locked), run_closing]
  have first : ∀ step < 3, fails step = false := by
    intro step before
    have steps : step = 0 ∨ step = 1 ∨ step = 2 := by omega
    rcases steps with rfl | rfl | rfl
    · exact Bool.eq_false_iff.mpr created
    · exact Bool.eq_false_iff.mpr opened
    · exact Bool.eq_false_iff.mpr locked
  change Outcome toml update fails files ((run (faulty fails) (rewrite toml update) ⟨files, 3⟩).1,
    (faulty fails .unlock (run (faulty fails) (rewrite toml update) ⟨files, 3⟩).2).2)
  have ends := rewrite_ends toml update fails files first
  have unlocked := faulty_keeps fails .unlock nofun (run (faulty fails) (rewrite toml update) ⟨files, 3⟩).2
  generalize run (faulty fails) (rewrite toml update) ⟨files, 3⟩ = ended at ends unlocked
  cases ends with
  | kept error after same short => exact .kept _ _ (unlocked.trans same) short
  | done changed text after renames placed flushed => exact .done changed text _ renames (unlocked.trans placed) flushed
  | torn error changed text after renames placed unflushed => exact .torn _ changed text _ renames (unlocked.trans placed) unflushed

end Changing

structure Settles (toml : Toml) (update : Document → Except StorageError Document) (files : Files)
    (ended : Except StorageError Unit × Trial) : Prop where
  refused : ∀ error, ended.1 = .error error → loaded toml ended.2.files = loaded toml files
  done : ended.1 = .ok () → ∃ document changed, loaded toml files = .ok document ∧ update document = .ok changed ∧
    loaded toml ended.2.files = .ok changed

def Torn (toml : Toml) (update : Document → Except StorageError Document) (fails : Nat → Bool) (files : Files) : Prop :=
  (fails 8 = true ∨ fails 9 = true) ∧
    ∃ changed text, Renames toml update fails files changed text ∧ loaded toml files ≠ .ok changed

section Settling
variable (toml : Toml) (roundTrips : toml.RoundTrips) (update : Document → Except StorageError Document) (fails : Nat → Bool)
  (files : Files)
include roundTrips

theorem placed_loads (changed : Document) (text : String) (after : Files) (rendered : changed.render toml = .ok text)
    (placed : after.file = some text) : loaded toml after = .ok changed := by
  rw [loaded_file, placed, Option.getD_some]
  exact parse_render toml roundTrips changed text rendered

theorem settles_untorn (untorn : ¬Torn toml update fails files) :
    Settles toml update files (run (faulty fails) (change toml update) ⟨files, 0⟩) := by
  have ends := change_ends toml update fails files
  generalize run (faulty fails) (change toml update) ⟨files, 0⟩ = ended at ends
  cases ends with
  | kept error after same short =>
      constructor
      · intro _ _
        rw [loaded_file, loaded_file, same]
      · intro passed
        cases passed
  | done changed text after renames placed flushed =>
      obtain ⟨document, found, updated⟩ := renames.updates
      constructor
      · intro _ refused
        cases refused
      · intro _
        exact ⟨document, changed, found, updated, placed_loads toml roundTrips changed text _ renames.renders placed⟩
  | torn error changed text after renames placed unflushed =>
      constructor
      · intro _ _
        rw [placed_loads toml roundTrips changed text _ renames.renders placed]
        by_contra other
        exact untorn ⟨unflushed, changed, text, renames, Ne.symm other⟩
      · intro passed
        cases passed

theorem torn_unsettled (torn : Torn toml update fails files) :
    ¬Settles toml update files (run (faulty fails) (change toml update) ⟨files, 0⟩) := by
  obtain ⟨unflushed, changed, text, renames, other⟩ := torn
  have ends := change_ends toml update fails files
  generalize run (faulty fails) (change toml update) ⟨files, 0⟩ = ended at ends
  intro settles
  cases ends with
  | kept error after same short => exact short changed text renames
  | done _ _ after _ placed flushed =>
      rw [flushed.1, flushed.2] at unflushed
      rcases unflushed with first | second
      · cases first
      · cases second
  | torn error another written after renamed placed _ =>
      obtain ⟨document, found, updated⟩ := renames.updates
      obtain ⟨same, there, made⟩ := renamed.updates
      cases found.symm.trans there
      cases updated.symm.trans made
      have kept := settles.refused error rfl
      rw [placed_loads toml roundTrips changed written _ renamed.renders placed] at kept
      exact other kept.symm

/-- A refused change changes nothing and a change that is done is seen, unless the new file
is in place and the directory then fails. -/
theorem change_settles :
    Settles toml update files (run (faulty fails) (change toml update) ⟨files, 0⟩) ↔ ¬Torn toml update fails files := by
  constructor
  · intro settles torn
    exact torn_unsettled toml roundTrips update fails files torn settles
  · exact settles_untorn toml roundTrips update fails files

end Settling

section Example

def workNamespace : Namespace := ⟨⟨.defaultName, ⟨"work", by decide +kernel⟩⟩, none⟩

def workDocument : Document where
  rest := ∅
  records := ⟨InMemoryConfig.localStart.namespaces.insert workNamespace.key none, ∅⟩
  aside := ⟨rfl, rfl⟩
  hasDefault := by decide +kernel

def workText : String := "[[namespace]]\nname = \"default\"\ntenant = \"default\"\n\n[[namespace]]\nname = \"work\"\ntenant = \"default\"\n"

def homeNamespace : Namespace := ⟨⟨.defaultName, ⟨"home", by decide +kernel⟩⟩, none⟩

def homeDocument : Document where
  rest := ∅
  records := ⟨workDocument.records.namespaces.insert homeNamespace.key none, ∅⟩
  aside := ⟨rfl, rfl⟩
  hasDefault := by decide +kernel

def homeText : String := workText ++ "\n[[namespace]]\nname = \"home\"\ntenant = \"default\"\n"

open Classical in
noncomputable def workToml : Toml where
  parse text :=
    if text = workText then some workDocument.toTable
    else if text = homeText then some homeDocument.toTable
    else if text = "" then some ∅
    else none
  print table :=
    if table = workDocument.toTable then some workText
    else if table = homeDocument.toTable then some homeText
    else none

theorem work_round_trips : workToml.RoundTrips := by
  intro table text printed
  simp only [workToml] at printed ⊢
  split at printed
  · rename_i same
    cases printed
    rw [if_pos rfl, same]
  · split at printed
    · rename_i same
      cases printed
      rw [if_neg (by decide +kernel), if_pos rfl, same]
    · cases printed

theorem start_loads : ∃ document, loaded workToml ⟨none, none⟩ = .ok document ∧ document.rest = ∅ ∧
    document.records = InMemoryConfig.localStart := by
  have parsed : Document.parse workToml "" = Document.ofTable ∅ := by
    rw [Document.parse, workToml]
    simp only
    rw [if_neg (by decide), if_neg (by decide +kernel), if_pos trivial, Option.elim_some]
  rw [loaded_file, Option.getD_none, parsed]
  exact of_table_foreign ∅ ⟨rfl, rfl⟩

theorem work_inserted (document : Document) (rest : document.rest = ∅) (records : document.records = InMemoryConfig.localStart) :
    insertNamespace workNamespace document = .ok workDocument := by
  obtain ⟨_, _, aside, hasDefault⟩ := document
  cases rest
  cases records
  rfl

theorem work_renders : workDocument.render workToml = .ok workText := by
  rw [Document.render, workToml]
  simp only
  rw [if_pos trivial, Option.elim_some]

-- With every step done, and with the writing and the directory failing.
theorem namespace_added_or_refused :
    Settles workToml (insertNamespace homeNamespace) ⟨some workText, none⟩
      (run (faulty fun _ => false) (change workToml (insertNamespace homeNamespace)) ⟨⟨some workText, none⟩, 0⟩) ∧
    Settles workToml (insertNamespace homeNamespace) ⟨some workText, none⟩
      (run (faulty fun step => step == 5 || step == 9) (change workToml (insertNamespace homeNamespace)) ⟨⟨some workText, none⟩, 0⟩) := by
  constructor
  · apply (change_settles workToml work_round_trips (insertNamespace homeNamespace) _ ⟨some workText, none⟩).mpr
    rintro ⟨directory | synced, _⟩
    · cases directory
    · cases synced
  · apply (change_settles workToml work_round_trips (insertNamespace homeNamespace) _ ⟨some workText, none⟩).mpr
    rintro ⟨_, changed, text, renames, _⟩
    cases renames.sound 5 (by decide)

theorem unsynced_change_stays : ¬Settles workToml (insertNamespace workNamespace) ⟨none, none⟩
    (run (faulty fun step => step == 9) (perform workToml (.insertNamespace workNamespace)) ⟨⟨none, none⟩, 0⟩) := by
  obtain ⟨document, found, rest, records⟩ := start_loads
  apply torn_unsettled workToml work_round_trips
  refine ⟨.inr rfl, workDocument, workText, ⟨⟨document, found, work_inserted document rest records⟩, work_renders, ?_⟩, ?_⟩
  · intro step early
    exact beq_eq_false_iff_ne.mpr (by omega)
  · rw [found]
    intro same
    have added : document.records.namespaces.contains workNamespace.key = workDocument.records.namespaces.contains workNamespace.key := by
      rw [Except.ok.inj same]
    rw [records] at added
    exact absurd added (by decide +kernel)

end Example
end FileConfig
end Secrets
