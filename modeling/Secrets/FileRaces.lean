import Secrets.FileChanges

set_option autoImplicit false

namespace Secrets

open Programs Storage

namespace FileConfig

abbrev Update : Type := Document → Except StorageError Document

-- What a process is about.
inductive Task where
  | change (update : Update)
  | load

namespace Task

def program (toml : Toml) : Task → Operation Unit
  | .change update => FileConfig.change toml update
  | .load => do
      let _ ← FileConfig.load toml
      pure ()

def update : Task → Update
  | .change update => update
  | .load => .ok

def Changes : Task → Prop
  | .change _ => True
  | .load => False

end Task

-- What is seen of a run: what a process read, when it renamed.
inductive Mark where
  | loaded (process : Nat) (file : Option String)
  | renamed (process : Nat)
deriving DecidableEq

-- Processes at one file. The lock is held by one of them at most, and what each
-- staged has a name of its own.
structure Machine where
  file : Option String
  holder : Option Nat
  staged : Nat → Option String
  threads : Nat → Operation Unit
  trace : List Mark

inductive Event where
  | turn (process : Nat)
  | fail (process : Nat)
  | stop (process : Nat)

namespace Machine

def start (toml : Toml) (tasks : Nat → Task) (file : Option String) : Machine :=
  ⟨file, none, fun _ => none, fun process => (tasks process).program toml, []⟩

section Steps
variable (machine : Machine) (process : Nat)

-- A process waits while another holds the lock. Only the rename touches the file.
def answer : (call : Call) → Option (call.Answer × Machine)
  | .lock => match machine.holder with
      | none => some (.ok (), { machine with holder := some process })
      | some _ => none
  | .read => some (machine.file.elim (.error .notFound) .ok, { machine with trace := machine.trace ++ [.loaded process machine.file] })
  | .stage => some (.ok (), { machine with staged := Function.update machine.staged process (some "") })
  | .write text => some (.ok (), { machine with staged := Function.update machine.staged process (some text) })
  | .rename => match machine.staged process with
      | some text => some (.ok (), { machine with
          file := some text
          staged := Function.update machine.staged process none
          trace := machine.trace ++ [.renamed process] })
      | none => some (.error .notFound, machine)
  | .unstage => some (.ok (), { machine with staged := Function.update machine.staged process none })
  | .unlock => some (.ok (), { machine with holder := if machine.holder = some process then none else machine.holder })
  | .createDirectory | .openLock | .sync | .openDirectory | .syncDirectory => some (.ok (), machine)

def resume (thread : Operation Unit) : Machine := { machine with threads := Function.update machine.threads process thread }

def turn : Machine :=
  match machine.threads process with
  | .ask call next => match machine.answer process call with
      | some (given, after) => after.resume process (next given)
      | none => machine
  | _ => machine

def fail : Machine :=
  match machine.threads process with
  | .ask call next => machine.resume process (next call.failed)
  | _ => machine

def halt : Machine :=
  { machine with
    threads := Function.update machine.threads process (.stop .unavailable)
    holder := if machine.holder = some process then none else machine.holder }

end Steps

def step (machine : Machine) : Event → Machine
  | .turn process => machine.turn process
  | .fail process => machine.fail process
  | .stop process => machine.halt process

end Machine

section Growth
variable (machine : Machine)

theorem answer_extends (process : Nat) (call : Call) (given : call.Answer) (after : Machine)
    (answered : machine.answer process call = some (given, after)) : machine.trace <+: after.trace := by
  cases call with
  | lock =>
      rw [Machine.answer] at answered
      split at answered
      · cases answered
        exact List.prefix_refl _
      · cases answered
  | read =>
      cases answered
      exact List.prefix_append _ _
  | rename =>
      rw [Machine.answer] at answered
      split at answered
      · cases answered
        exact List.prefix_append _ _
      · cases answered
        exact List.prefix_refl _
  | _ =>
      cases answered
      exact List.prefix_refl _

theorem step_extends (event : Event) : machine.trace <+: (machine.step event).trace := by
  cases event with
  | turn process =>
      change machine.trace <+: (machine.turn process).trace
      unfold Machine.turn
      split
      · split
        · rename_i given after answered
          exact answer_extends machine process _ given after answered
        · exact List.prefix_refl _
      · exact List.prefix_refl _
  | fail process =>
      change machine.trace <+: (machine.fail process).trace
      unfold Machine.fail
      split <;> exact List.prefix_refl _
  | stop process => exact List.prefix_refl _

theorem run_extends (events : List Event) : machine.trace <+: (events.foldl Machine.step machine).trace := by
  induction events generalizing machine with
  | nil => exact List.prefix_refl _
  | cons event rest ih => exact (step_extends machine event).trans (ih (machine.step event))

end Growth

def renames (trace : List Mark) : List Nat :=
  trace.filterMap fun mark => match mark with
    | .renamed process => some process
    | _ => none

def applied (toml : Toml) (tasks : Nat → Task) (file : Option String) (renamed : List Nat) : Except StorageError Document :=
  renamed.foldl (fun document process => document >>= (tasks process).update) (Document.parse toml (file.getD ""))

-- Every load sees the changes renamed so far, all of them and in order; a change
-- that is renamed was made to what the one before it left, and none is renamed
-- twice; a change that has returned is renamed, and so seen by every later load.
structure Consistent (toml : Toml) (tasks : Nat → Task) (file : Option String) (machine : Machine) : Prop where
  left : Document.parse toml (machine.file.getD "") = applied toml tasks file (renames machine.trace)
  loads : ∀ (before : List Mark) (process : Nat) (found : Option String) (after : List Mark),
    machine.trace = before ++ .loaded process found :: after →
      Document.parse toml (found.getD "") = applied toml tasks file (renames before)
  applies : ∀ (before : List Mark) (process : Nat) (after : List Mark), machine.trace = before ++ .renamed process :: after →
    ∃ document changed, applied toml tasks file (renames before) = .ok document ∧ (tasks process).update document = .ok changed
  once : (renames machine.trace).Nodup
  returned : ∀ process, machine.threads process = .done () → (tasks process).Changes → process ∈ renames machine.trace
  lasting : ∀ (events : List Event), machine.trace <+: (events.foldl Machine.step machine).trace

section Protocol
variable (toml : Toml) (update : Update)

inductive Phase where
  | away
  | holding
  | read (file : Option String)
  | staged (file : Option String) (text : String)
  | placed
  | gone

def Phase.Holds : Phase → Prop
  | .holding | .read _ | .staged _ _ | .placed => True
  | .away | .gone => False

def Phase.Renamed : Phase → Prop
  | .placed | .gone => True
  | _ => False

def Phase.released : Phase → Phase
  | .placed | .gone => .gone
  | .away | .holding | .read _ | .staged _ _ => .away

def Phase.unstaged : Phase → Phase
  | .staged file _ => .read file
  | phase => phase

def Revises (file : Option String) (text : String) : Prop :=
  ∃ document changed, Document.parse toml (file.getD "") = .ok document ∧ update document = .ok changed ∧ changed.render toml = .ok text

inductive Moves : Phase → (call : Call) → call.Answer → Phase → Prop where
  | createDirectory (phase : Phase) (given : Call.createDirectory.Answer) : Moves phase .createDirectory given phase
  | openLock (phase : Phase) (given : Call.openLock.Answer) : Moves phase .openLock given phase
  | lock : Moves .away .lock (.ok ()) .holding
  | lockFails (error : IoError) : Moves .away .lock (.error error) .away
  | peek (given : Call.read.Answer) : Moves .away .read given .away
  | read (text : String) : Moves .holding .read (.ok text) (.read (some text))
  | readMissing : Moves .holding .read (.error .notFound) (.read none)
  | readFails : Moves .holding .read (.error .other) .holding
  | stage (file : Option String) (given : Call.stage.Answer) : Moves (.read file) .stage given (.read file)
  | write (file : Option String) (text : String) (revises : Revises toml update file text) :
      Moves (.read file) (.write text) (.ok ()) (.staged file text)
  | writeFails (file : Option String) (text : String) (error : IoError) : Moves (.read file) (.write text) (.error error) (.read file)
  | sync (phase : Phase) (given : Call.sync.Answer) : Moves phase .sync given phase
  | rename (file : Option String) (text : String) : Moves (.staged file text) .rename (.ok ()) .placed
  | renameFails (file : Option String) (text : String) (error : IoError) :
      Moves (.staged file text) .rename (.error error) (.staged file text)
  | openDirectory (phase : Phase) (given : Call.openDirectory.Answer) : Moves phase .openDirectory given phase
  | syncDirectory (phase : Phase) (given : Call.syncDirectory.Answer) : Moves phase .syncDirectory given phase
  | unstage (phase : Phase) (given : Call.unstage.Answer) : Moves phase .unstage given phase.unstaged
  | unlock (phase : Phase) (given : Call.unlock.Answer) : Moves phase .unlock given phase.released

theorem io_heeds (call : Call) (view : call.Answer → Except IoError Unit) (phase : Phase) (post : Except StorageError Unit → Phase → Prop)
    (stays : ∀ given, Moves toml update phase call given phase) (passes : post (.ok ()) phase) (fails : post (.error .unavailable) phase) :
    (io call view).Heeds (Moves toml update) post phase := by
  intro given
  refine ⟨phase, stays given, heeds_lift _ _ _ _ ?_⟩
  cases view given with
  | error error => exact fails
  | ok done => exact passes

theorem refused_not_done (error : StorageError) : (Except.error error : Except StorageError Unit) ≠ .ok () := by
  intro same
  cases same

def Ends (ended : Except StorageError Unit) (phase : Phase) : Prop := ended = .ok () → phase = .gone

theorem written_heeds (file : Option String) (text : String) (revises : Revises toml update file text) :
    (written text).Heeds (Moves toml update) (fun ended phase => ended = .ok () → phase = .placed) (.read file) := by
  have error : ∀ phase : Phase, (Except.error StorageError.unavailable : Except StorageError Unit) = .ok () → phase = .placed :=
    fun _ same => absurd same (refused_not_done _)
  rw [written]
  apply heeds_bind
  apply io_heeds toml update .stage id _ _ (fun given => .stage file given) _ (error _)
  apply heeds_bind
  intro given
  cases given with
  | error failed => exact ⟨_, .writeFails file text failed, error _⟩
  | ok done =>
      refine ⟨_, .write file text revises, ?_⟩
      apply heeds_bind
      apply io_heeds toml update .sync id _ _ (fun given => .sync _ given) _ (error _)
      apply heeds_bind
      intro given
      cases given with
      | error failed => exact ⟨_, .renameFails file text failed, error _⟩
      | ok done =>
          refine ⟨_, .rename file text, ?_⟩
          apply heeds_bind
          apply io_heeds toml update .openDirectory id _ _ (fun given => .openDirectory _ given) _ (error _)
          exact io_heeds toml update .syncDirectory id _ _ (fun given => .syncDirectory _ given) (fun _ => rfl) (error _)

theorem replace_heeds (file : Option String) (text : String) (revises : Revises toml update file text) :
    (replace text).Heeds (Moves toml update) (fun ended phase => ended = .ok () → phase = .placed) (.read file) := by
  rw [replace]
  apply heeds_mending
  apply heeds_mono _ _ _ _ _ _ (written_heeds toml update file text revises)
  intro ended phase placed
  cases ended with
  | ok done => exact placed
  | error error => exact fun given => ⟨_, .unstage phase given, fun same => absurd same (refused_not_done _)⟩

theorem loaded_heeds (file : Option String) :
    ((Prog.lift (Document.parse toml (file.getD "")) : Operation Document) >>= fun document => do
      let changed ← (Prog.lift (update document) : Operation Document)
      let text ← (Prog.lift (changed.render toml) : Operation String)
      replace text).Heeds (Moves toml update) (fun ended phase => ended = .ok () → phase = .placed) (.read file) := by
  cases parsed : Document.parse toml (file.getD "") with
  | error error => exact fun same => absurd same (refused_not_done _)
  | ok document =>
      rw [Prog.lift, Prog.done_bind]
      cases updated : update document with
      | error error => exact fun same => absurd same (refused_not_done _)
      | ok changed =>
          rw [Prog.lift, Prog.done_bind]
          cases rendered : changed.render toml with
          | error error => exact fun same => absurd same (refused_not_done _)
          | ok text => exact replace_heeds toml update file text ⟨document, changed, parsed, updated, rendered⟩

theorem rewrite_heeds :
    (rewrite toml update).Heeds (Moves toml update) (fun ended phase => ended = .ok () → phase = .placed) .holding := by
  rw [rewrite, load]
  intro given
  cases given with
  | ok text => exact ⟨_, .read text, loaded_heeds toml update (some text)⟩
  | error error =>
      cases error with
      | notFound => exact ⟨_, .readMissing, loaded_heeds toml update none⟩
      | other => exact ⟨_, .readFails, fun same => absurd same (refused_not_done _)⟩

theorem change_heeds : (change toml update).Heeds (Moves toml update) Ends .away := by
  rw [change]
  apply heeds_bind
  apply io_heeds toml update .createDirectory id _ _ (fun given => .createDirectory _ given) _ (fun same => absurd same (refused_not_done _))
  apply heeds_bind
  apply io_heeds toml update .openLock id _ _ (fun given => .openLock _ given) _ (fun same => absurd same (refused_not_done _))
  apply heeds_bind
  intro given
  cases given with
  | error failed => exact ⟨_, .lockFails failed, fun same => absurd same (refused_not_done _)⟩
  | ok done =>
      refine ⟨_, .lock, ?_⟩
      apply heeds_closing
      apply heeds_mono _ _ _ _ _ _ (rewrite_heeds toml update)
      intro ended phase placed given
      refine ⟨_, .unlock phase given, ?_⟩
      intro returned
      rw [placed returned]
      rfl

end Protocol

def Task.Ends (task : Task) (ended : Except StorageError Unit) (phase : Phase) : Prop := task.Changes → FileConfig.Ends ended phase

theorem program_heeds (toml : Toml) (task : Task) : (task.program toml).Heeds (Moves toml task.update) task.Ends .away := by
  cases task with
  | change update =>
      apply heeds_mono _ _ _ _ _ _ (change_heeds toml update)
      intro ended phase ends _
      exact ends
  | load =>
      intro given
      refine ⟨_, .peek given, ?_⟩
      have ends : ∀ result : Except StorageError Document,
          ((Prog.lift result : Operation Document) >>= fun _ => pure ()).Heeds (Moves toml Task.load.update) Task.load.Ends .away := by
        intro result
        cases result <;> exact False.elim
      cases given with
      | ok text => exact ends _
      | error error =>
          cases error with
          | notFound => exact ends _
          | other => exact False.elim

section Traces
variable (toml : Toml) (tasks : Nat → Task) (file : Option String)

def Accounted (before : List Mark) : Mark → Prop
  | .loaded _ found => Document.parse toml (found.getD "") = applied toml tasks file (renames before)
  | .renamed process => process ∉ renames before ∧
      ∃ document changed, applied toml tasks file (renames before) = .ok document ∧ (tasks process).update document = .ok changed

inductive Explains : List Mark → Prop where
  | nil : Explains []
  | snoc (trace : List Mark) (mark : Mark) (rest : Explains trace) (accounted : Accounted toml tasks file trace mark) :
      Explains (trace ++ [mark])

theorem renames_loaded (trace : List Mark) (process : Nat) (found : Option String) :
    renames (trace ++ [.loaded process found]) = renames trace := by
  rw [renames, List.filterMap_append]
  exact List.append_nil _

theorem renames_renamed (trace : List Mark) (process : Nat) : renames (trace ++ [.renamed process]) = renames trace ++ [process] := by
  rw [renames, List.filterMap_append]
  rfl

theorem applied_snoc (renamed : List Nat) (process : Nat) :
    applied toml tasks file (renamed ++ [process]) = (applied toml tasks file renamed >>= (tasks process).update) := by
  rw [applied, List.foldl_append]
  rfl

theorem explains_once (trace : List Mark) (explains : Explains toml tasks file trace) : (renames trace).Nodup := by
  induction explains with
  | nil => exact List.nodup_nil
  | snoc trace mark rest accounted ih =>
      cases mark with
      | loaded process found =>
          rw [renames_loaded]
          exact ih
      | renamed process =>
          rw [renames_renamed, List.nodup_append]
          refine ⟨ih, List.nodup_singleton _, ?_⟩
          intro other member same single equal
          cases List.mem_singleton.mp single
          exact accounted.1 (equal ▸ member)

theorem explains_before (trace : List Mark) (explains : Explains toml tasks file trace) (before : List Mark) (mark : Mark)
    (after : List Mark) (same : trace = before ++ mark :: after) : Accounted toml tasks file before mark := by
  induction explains generalizing after with
  | nil =>
      obtain ⟨_, impossible⟩ := List.append_eq_nil_iff.mp same.symm
      cases impossible
  | snoc trace last rest accounted ih =>
      rcases snoc_split trace before after last mark same with ⟨_, rfl, rfl⟩ | ⟨rest, _, inside⟩
      · exact accounted
      · exact ih rest inside

end Traces

-- What the lock's holder knows of the file: nobody else can have changed it.
def Phase.Knows (toml : Toml) (update : Update) (machine : Machine) (process : Nat) : Phase → Prop
  | .read file => machine.file = file
  | .staged file text => machine.file = file ∧ machine.staged process = some text ∧ Revises toml update file text
  | .away | .holding | .placed | .gone => True

structure Steady (toml : Toml) (tasks : Nat → Task) (file : Option String) (machine : Machine) (phases : Nat → Phase) : Prop where
  holds : ∀ process, (phases process).Holds → machine.holder = some process
  knows : ∀ process, (phases process).Knows toml (tasks process).update machine process
  renamed : ∀ process, process ∈ renames machine.trace ↔ (phases process).Renamed
  left : Document.parse toml (machine.file.getD "") = applied toml tasks file (renames machine.trace)
  explains : Explains toml tasks file machine.trace

structure Inv (toml : Toml) (tasks : Nat → Task) (file : Option String) (machine : Machine) (phases : Nat → Phase) : Prop where
  heeds : ∀ process, (machine.threads process).Heeds (Moves toml (tasks process).update) (tasks process).Ends (phases process)
  steady : Steady toml tasks file machine phases

section Running
variable (toml : Toml) (tasks : Nat → Task) (file : Option String)

theorem inv_start : Inv toml tasks file (Machine.start toml tasks file) fun _ => .away where
  heeds process := program_heeds toml (tasks process)
  steady := {
    holds := fun _ holds => holds.elim
    knows := fun _ => trivial
    renamed := fun _ => ⟨List.not_mem_nil.elim, False.elim⟩
    left := rfl
    explains := .nil }

theorem inv_consistent (machine : Machine) (phases : Nat → Phase) (inv : Inv toml tasks file machine phases) :
    Consistent toml tasks file machine where
  left := inv.steady.left
  loads before _ _ after same := explains_before toml tasks file machine.trace inv.steady.explains before _ after same
  applies before _ after same := (explains_before toml tasks file machine.trace inv.steady.explains before _ after same).2
  once := explains_once toml tasks file machine.trace inv.steady.explains
  returned process there changes := by
    have ends := inv.heeds process
    rw [there] at ends
    rw [inv.steady.renamed process, show phases process = .gone from ends changes rfl]
    trivial
  lasting := run_extends machine

section Steps
variable (machine : Machine) (phases : Nat → Phase) (process : Nat) (phase : Phase) (steady : Steady toml tasks file machine phases)
include steady

theorem holds_alone (other : Nat) (here : (phases process).Holds) (there : (phases other).Holds) : other = process :=
  Option.some.inj ((steady.holds other there).symm.trans (steady.holds process here))

theorem knows_still (next : Machine) (other : Nat) (file : next.file = machine.file) (staged : next.staged other = machine.staged other) :
    (phases other).Knows toml (tasks other).update next other := by
  have known := steady.knows other
  cases there : phases other with
  | read found =>
      rw [there] at known
      exact file.trans known
  | staged found text =>
      rw [there] at known
      exact ⟨file.trans known.1, staged.trans known.2.1, known.2.2⟩
  | away => trivial
  | holding => trivial
  | placed => trivial
  | gone => trivial

theorem steady_moved (next : Machine)
    (holder : ∀ other, other ≠ process → machine.holder = some other → next.holder = some other)
    (same : next.file = machine.file) (staged : ∀ other, other ≠ process → next.staged other = machine.staged other)
    (marks : renames next.trace = renames machine.trace) (explains : Explains toml tasks file next.trace)
    (holds : phase.Holds → next.holder = some process) (knows : phase.Knows toml (tasks process).update next process)
    (renamed : phase.Renamed ↔ (phases process).Renamed) : Steady toml tasks file next (Function.update phases process phase) where
  holds other := by
    by_cases here : other = process
    · rw [here, Function.update_self]
      exact holds
    · rw [Function.update_of_ne here]
      intro held
      exact holder other here (steady.holds other held)
  knows other := by
    by_cases here : other = process
    · rw [here, Function.update_self]
      exact knows
    · rw [Function.update_of_ne here]
      exact knows_still toml tasks file machine phases steady next other same (staged other here)
  renamed other := by
    rw [marks]
    by_cases here : other = process
    · rw [here, Function.update_self]
      exact (steady.renamed process).trans renamed.symm
    · rw [Function.update_of_ne here]
      exact steady.renamed other
  left := by
    rw [same, marks]
    exact steady.left
  explains := explains

theorem steady_stays (holds : phase.Holds → machine.holder = some process)
    (knows : phase.Knows toml (tasks process).update machine process) (renamed : phase.Renamed ↔ (phases process).Renamed) :
    Steady toml tasks file machine (Function.update phases process phase) :=
  steady_moved toml tasks file machine phases process phase steady machine (fun _ _ held => held) rfl (fun _ _ => rfl) rfl
    steady.explains holds knows renamed

theorem steady_same : Steady toml tasks file machine (Function.update phases process (phases process)) := by
  rw [Function.update_eq_self]
  exact steady

theorem loaded_steady : Steady toml tasks file { machine with trace := machine.trace ++ [.loaded process machine.file] } phases where
  holds := steady.holds
  knows other := knows_still toml tasks file machine phases steady _ other rfl rfl
  renamed other := by
    rw [renames_loaded]
    exact steady.renamed other
  left := by
    rw [renames_loaded]
    exact steady.left
  explains := .snoc machine.trace (.loaded process machine.file) steady.explains steady.left

theorem renamed_steady (roundTrips : toml.RoundTrips) (found : Option String) (text : String) (here : phases process = .staged found text) :
    Steady toml tasks file
      { machine with
        file := some text
        staged := Function.update machine.staged process none
        trace := machine.trace ++ [.renamed process] } (Function.update phases process .placed) := by
  have known := steady.knows process
  have mine : machine.holder = some process := by
    apply steady.holds
    rw [here]
    trivial
  rw [here] at known
  obtain ⟨unchanged, _, document, changed, parsed, updated, rendered⟩ := known
  have first : process ∉ renames machine.trace := by
    rw [steady.renamed process, here]
    exact id
  have alone : ∀ other, other ≠ process → ¬(phases other).Holds := by
    intro other another there
    apply another
    apply holds_alone toml tasks file machine phases process steady other _ there
    rw [here]
    trivial
  exact {
    holds := by
      intro other
      by_cases same : other = process
      · rw [same]
        exact fun _ => mine
      · rw [Function.update_of_ne same]
        exact steady.holds other
    knows := by
      intro other
      by_cases same : other = process
      · rw [same, Function.update_self]
        trivial
      · rw [Function.update_of_ne same]
        have idle := alone other same
        cases there : phases other with
        | read before =>
            rw [there] at idle
            exact absurd trivial idle
        | staged before after =>
            rw [there] at idle
            exact absurd trivial idle
        | away => trivial
        | holding => trivial
        | placed => trivial
        | gone => trivial
    renamed := by
      intro other
      rw [renames_renamed, List.mem_append, List.mem_singleton]
      by_cases same : other = process
      · rw [same, Function.update_self]
        exact ⟨fun _ => trivial, fun _ => .inr rfl⟩
      · rw [Function.update_of_ne same, ← steady.renamed other]
        exact ⟨fun either => either.resolve_right same, .inl⟩
    left := by
      rw [renames_renamed, applied_snoc, ← steady.left, unchanged, parsed]
      exact (parse_render toml roundTrips changed text rendered).trans updated.symm
    explains := by
      refine .snoc machine.trace (.renamed process) steady.explains ⟨first, document, changed, ?_, updated⟩
      rw [← steady.left, unchanged]
      exact parsed }

theorem locked_steady (free : machine.holder = none) (here : phases process = .away) :
    Steady toml tasks file { machine with holder := some process } (Function.update phases process .holding) := by
  apply steady_moved toml tasks file machine phases process .holding steady
  · intro other _ held
    rw [free] at held
    cases held
  · rfl
  · intro other _
    rfl
  · rfl
  · exact steady.explains
  · exact fun _ => rfl
  · trivial
  · rw [here]
    exact Iff.rfl

theorem unlocked_steady :
    Steady toml tasks file { machine with holder := if machine.holder = some process then none else machine.holder }
      (Function.update phases process (phases process).released) := by
  apply steady_moved toml tasks file machine phases process _ steady
  · intro other another held
    rw [held]
    exact if_neg fun same => another (Option.some.inj same)
  · rfl
  · intro other _
    rfl
  · rfl
  · exact steady.explains
  · cases phases process <;> exact False.elim
  · cases phases process <;> trivial
  · cases phases process <;> exact Iff.rfl

theorem staged_steady (text : Option String) (holds : phase.Holds → (phases process).Holds)
    (knows : phase.Knows toml (tasks process).update { machine with staged := Function.update machine.staged process text } process)
    (renamed : phase.Renamed ↔ (phases process).Renamed) :
    Steady toml tasks file { machine with staged := Function.update machine.staged process text } (Function.update phases process phase) := by
  apply steady_moved toml tasks file machine phases process phase steady
  · exact fun _ _ held => held
  · rfl
  · exact fun other another => Function.update_of_ne another _ _
  · rfl
  · exact steady.explains
  · exact fun held => steady.holds process (holds held)
  · exact knows
  · exact renamed

theorem read_steady (here : phases process = .holding) :
    Steady toml tasks file { machine with trace := machine.trace ++ [.loaded process machine.file] }
      (Function.update phases process (.read machine.file)) := by
  apply steady_stays toml tasks file _ phases process _ (loaded_steady toml tasks file machine phases process steady)
  · intro _
    apply steady.holds process
    rw [here]
    trivial
  · rfl
  · rw [here]
    exact Iff.rfl

theorem steady_answer (roundTrips : toml.RoundTrips) (call : Call) (given : call.Answer) (next : Machine)
    (moved : Moves toml (tasks process).update (phases process) call given phase) (answered : machine.answer process call = some (given, next)) :
    Steady toml tasks file next (Function.update phases process phase) := by
  have same := steady_same toml tasks file machine phases process steady
  generalize here : phases process = before at moved
  rw [here] at same
  cases moved with
  | lock =>
      rw [Machine.answer] at answered
      split at answered
      · rename_i free
        cases answered
        exact locked_steady toml tasks file machine phases process steady free here
      · cases answered
  | lockFails error =>
      rw [Machine.answer] at answered
      split at answered
      · cases answered
      · cases answered
  | peek =>
      cases answered
      exact loaded_steady toml tasks file machine _ process same
  | read text =>
      have read := read_steady toml tasks file machine phases process steady here
      cases found : machine.file with
      | none =>
          rw [Machine.answer, found] at answered
          cases answered
      | some content =>
          rw [found] at read
          rw [Machine.answer, found] at answered
          cases answered
          exact read
  | readMissing =>
      have read := read_steady toml tasks file machine phases process steady here
      cases found : machine.file with
      | none =>
          rw [found] at read
          rw [Machine.answer, found] at answered
          cases answered
          exact read
      | some content =>
          rw [Machine.answer, found] at answered
          cases answered
  | readFails =>
      cases found : machine.file with
      | none =>
          rw [Machine.answer, found] at answered
          cases answered
      | some content =>
          rw [Machine.answer, found] at answered
          cases answered
  | stage found =>
      have known := steady.knows process
      rw [here] at known
      cases answered
      apply staged_steady toml tasks file machine phases process (.read found) steady (some "") _ known
      · rw [here]
      · rw [here]
        exact id
  | write found text revises =>
      have known := steady.knows process
      rw [here] at known
      cases answered
      apply staged_steady toml tasks file machine phases process (.staged found text) steady (some text) _
        ⟨known, Function.update_self .., revises⟩
      · rw [here]
        exact Iff.rfl
      · rw [here]
        exact id
  | writeFails found text error => cases answered
  | rename found text =>
      have known := steady.knows process
      rw [here] at known
      rw [Machine.answer, known.2.1] at answered
      cases answered
      exact renamed_steady toml tasks file machine phases process steady roundTrips found text here
  | renameFails found text error =>
      have known := steady.knows process
      rw [here] at known
      rw [Machine.answer, known.2.1] at answered
      cases answered
  | unstage =>
      cases answered
      have known := steady.knows process
      rw [here] at known
      apply staged_steady toml tasks file machine phases process _ steady none
      · rw [here]
        cases before <;> exact id
      · cases before with
        | read found => exact known
        | staged found text => exact known.1
        | away => trivial
        | holding => trivial
        | placed => trivial
        | gone => trivial
      · rw [here]
        cases before <;> exact Iff.rfl
  | unlock =>
      cases answered
      rw [← here]
      exact unlocked_steady toml tasks file machine phases process steady
  | createDirectory =>
      cases answered
      exact same
  | openLock =>
      cases answered
      exact same
  | sync =>
      cases answered
      exact same
  | openDirectory =>
      cases answered
      exact same
  | syncDirectory =>
      cases answered
      exact same

theorem steady_failed (call : Call) (moved : Moves toml (tasks process).update (phases process) call call.failed phase) :
    Steady toml tasks file machine (Function.update phases process phase) := by
  have same := steady_same toml tasks file machine phases process steady
  have known := steady.knows process
  have holder := steady.holds process
  generalize here : phases process = before at moved
  generalize answered : call.failed = given at moved
  rw [here] at same known holder
  cases moved with
  | lock => cases answered
  | read text => cases answered
  | readMissing => cases answered
  | write found text revises => cases answered
  | rename found text => cases answered
  | lockFails error => exact same
  | peek => exact same
  | readFails => exact same
  | stage found => exact same
  | writeFails found text error => exact same
  | renameFails found text error => exact same
  | createDirectory => exact same
  | openLock => exact same
  | sync => exact same
  | openDirectory => exact same
  | syncDirectory => exact same
  | unstage =>
      apply steady_stays toml tasks file machine phases process _ steady
      · intro held
        apply holder
        cases before <;> exact held
      · cases before with
        | staged found text => exact known.1
        | _ => exact known
      · rw [here]
        cases before <;> exact Iff.rfl
  | unlock =>
      apply steady_stays toml tasks file machine phases process _ steady
      · cases before <;> exact False.elim
      · cases before <;> trivial
      · rw [here]
        cases before <;> exact Iff.rfl

omit steady in
theorem steady_resume (thread : Operation Unit) (steady : Steady toml tasks file machine phases) :
    Steady toml tasks file (machine.resume process thread) phases :=
  ⟨steady.holds, steady.knows, steady.renamed, steady.left, steady.explains⟩

end Steps

theorem threads_answer (machine : Machine) (process : Nat) (call : Call) (given : call.Answer) (next : Machine)
    (answered : machine.answer process call = some (given, next)) : next.threads = machine.threads := by
  cases call with
  | lock =>
      rw [Machine.answer] at answered
      split at answered
      · cases answered
        rfl
      · cases answered
  | rename =>
      rw [Machine.answer] at answered
      split at answered
      · cases answered
        rfl
      · cases answered
        rfl
  | _ =>
      cases answered
      rfl

section Turns
variable (machine : Machine) (phases : Nat → Phase) (inv : Inv toml tasks file machine phases)
include inv

theorem inv_resume (process : Nat) (next : Machine) (phase : Phase) (thread : Operation Unit) (threads : next.threads = machine.threads)
    (heeds : thread.Heeds (Moves toml (tasks process).update) (tasks process).Ends phase)
    (steady : Steady toml tasks file next (Function.update phases process phase)) :
    Inv toml tasks file (next.resume process thread) (Function.update phases process phase) where
  heeds other := by
    have resumed : (next.resume process thread).threads = Function.update machine.threads process thread := by
      rw [← threads]
      rfl
    rw [resumed]
    by_cases here : other = process
    · rw [here, Function.update_self, Function.update_self]
      exact heeds
    · rw [Function.update_of_ne here, Function.update_of_ne here]
      exact inv.heeds other
  steady := steady_resume toml tasks file next _ process thread steady

theorem inv_turn (roundTrips : toml.RoundTrips) (process : Nat) : ∃ after, Inv toml tasks file (machine.turn process) after := by
  have heeds := inv.heeds process
  rw [Machine.turn]
  cases there : machine.threads process with
  | done value => exact ⟨phases, inv⟩
  | stop error => exact ⟨phases, inv⟩
  | ask call next =>
      rw [there] at heeds
      cases answered : machine.answer process call with
      | none =>
          dsimp only
          rw [answered]
          exact ⟨phases, inv⟩
      | some reply =>
          obtain ⟨given, after⟩ := reply
          obtain ⟨phase, moved, rest⟩ := heeds given
          dsimp only
          rw [answered]
          refine ⟨_, inv_resume toml tasks file machine phases inv process after phase _ ?_ rest ?_⟩
          · exact threads_answer machine process call given after answered
          · exact steady_answer toml tasks file machine phases process phase inv.steady roundTrips call given after moved answered

theorem inv_fail (process : Nat) : ∃ after, Inv toml tasks file (machine.fail process) after := by
  have heeds := inv.heeds process
  rw [Machine.fail]
  cases there : machine.threads process with
  | done value => exact ⟨phases, inv⟩
  | stop error => exact ⟨phases, inv⟩
  | ask call next =>
      rw [there] at heeds
      obtain ⟨phase, moved, rest⟩ := heeds call.failed
      exact ⟨_, inv_resume toml tasks file machine phases inv process machine phase _ rfl rest
        (steady_failed toml tasks file machine phases process phase inv.steady call moved)⟩

theorem inv_halt (process : Nat) : Inv toml tasks file (machine.halt process) (Function.update phases process (phases process).released) where
  heeds other := by
    rw [Machine.halt]
    dsimp only
    by_cases here : other = process
    · rw [here, Function.update_self, Function.update_self]
      exact fun _ returned => absurd returned (refused_not_done _)
    · rw [Function.update_of_ne here, Function.update_of_ne here]
      exact inv.heeds other
  steady := by
    have unlocked := unlocked_steady toml tasks file machine phases process inv.steady
    exact ⟨unlocked.holds, unlocked.knows, unlocked.renamed, unlocked.left, unlocked.explains⟩

theorem inv_step (roundTrips : toml.RoundTrips) (event : Event) : ∃ after, Inv toml tasks file (machine.step event) after := by
  cases event with
  | turn process => exact inv_turn toml tasks file machine phases inv roundTrips process
  | fail process => exact inv_fail toml tasks file machine phases inv process
  | stop process => exact ⟨_, inv_halt toml tasks file machine phases inv process⟩

theorem inv_run (roundTrips : toml.RoundTrips) (events : List Event) : ∃ after, Inv toml tasks file (events.foldl Machine.step machine) after := by
  induction events generalizing machine phases with
  | nil => exact ⟨phases, inv⟩
  | cons event rest ih =>
      obtain ⟨after, kept⟩ := inv_step toml tasks file machine phases inv roundTrips event
      exact ih (machine.step event) after kept

end Turns

/-- Processes that change the file under the lock or read it without, in any order of their
steps, any of which may fail or be the last of its process. -/
theorem no_update_lost (roundTrips : toml.RoundTrips) (events : List Event) :
    Consistent toml tasks file (events.foldl Machine.step (Machine.start toml tasks file)) := by
  obtain ⟨phases, inv⟩ := inv_run toml tasks file _ _ (inv_start toml tasks file) roundTrips events
  exact inv_consistent toml tasks file _ phases inv

end Running

def adding (process : Nat) : Task := if process = 1 ∨ process = 3 then .load else .change (insertNamespace workNamespace)

def turns : List Event := List.replicate 6 (.turn 0) ++ [Event.turn 1, Event.stop 0] ++ List.replicate 12 (.turn 2) ++ [Event.turn 3]

theorem namespace_added_after_a_crash :
    Consistent workToml adding none (turns.foldl Machine.step (Machine.start workToml adding none)) :=
  no_update_lost workToml adding none work_round_trips turns

end FileConfig
end Secrets
