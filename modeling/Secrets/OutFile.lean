import Mathlib.Logic.Function.Basic
import Secrets.Lib.Codec
import Secrets.Local

set_option autoImplicit false

namespace Secrets

open Programs
open Framing (Bytes)
open Local (OutRefusal)

namespace Out

inductive Component where
  | rootDir
  | curDir
  | parentDir
  | normal (name : Bytes)
deriving DecidableEq

abbrev Path : Type := List Component

namespace Path

def fileName (path : Path) : Option Bytes :=
  match path.getLast? with
  | some (.normal name) => some name
  | _ => none

def parent (path : Path) : Option Path :=
  match path.getLast? with
  | none => none
  | some .rootDir => none
  | some _ => some path.dropLast

def join (directory : Path) (name : Bytes) : Path := directory ++ [.normal name]

def directory (path : Path) : Path :=
  match path.parent with
  | some parent => if parent.isEmpty then [.curDir] else parent
  | none => [.curDir]

end Path

inductive Entry where
  | file (node : Nat)
  | directory
  | symlink
deriving DecidableEq

structure Node where
  mode : UInt32
  content : Bytes
deriving DecidableEq

-- What the paths lead to, and the files themselves, of which several paths can
-- lead to one. No path leads to a file that was not made yet.
structure FileSystem where
  entries : Path → Option Entry
  nodes : Nat → Node
  fresh : Nat
  used : ∀ path node, entries path = some (.file node) → node < fresh

namespace FileSystem

variable (files : FileSystem)

def place (path : Path) (entry : Option Entry) (fits : ∀ node, entry = some (.file node) → node < files.fresh) : FileSystem where
  entries := Function.update files.entries path entry
  nodes := files.nodes
  fresh := files.fresh
  used other node found := by
    by_cases same : other = path
    · subst same
      rw [Function.update_self] at found
      exact fits node found
    · rw [Function.update_of_ne same] at found
      exact files.used other node found

def clear (path : Path) : FileSystem := files.place path none fun _ same => absurd same (by simp)

def link (original path : Path) : FileSystem := files.place path (files.entries original) (files.used original)

def create (path : Path) (node : Node) : FileSystem where
  entries := Function.update files.entries path (some (.file files.fresh))
  nodes := Function.update files.nodes files.fresh node
  fresh := files.fresh + 1
  used other known found := by
    by_cases same : other = path
    · subst same
      rw [Function.update_self, Option.some.injEq, Entry.file.injEq] at found
      omega
    · rw [Function.update_of_ne same] at found
      have old := files.used other known found
      omega

def write (file : Nat) (node : Node) : FileSystem := { files with nodes := Function.update files.nodes file node }

end FileSystem

-- What another process does at the target.
inductive Foreign where
  | remove
  | file (node : Node)
  | directory
  | symlink
  | link (original : Path)

def Foreign.act (target : Path) (files : FileSystem) : Foreign → FileSystem
  | .remove => files.clear target
  | .file node => files.create target node
  | .directory => files.place target (some .directory) fun _ same => absurd same (by simp)
  | .symlink => files.place target (some .symlink) fun _ same => absurd same (by simp)
  | .link original => files.link original target

inductive IoError where
  | notFound
  | alreadyExists
  | other
deriving DecidableEq

inductive Call where
  | symlinkMetadata (path : Path)
  | fill
  | createNew (path : Path) (mode : UInt32)
  | setPermissions (file : Nat) (mode : UInt32)
  | removeFile (path : Path)
  | writeAll (file : Nat) (bytes : Bytes)
  | syncAll (file : Nat)
  | hardLink (original path : Path)

abbrev Suffix : Type := Vector UInt8 8

abbrev Call.Answer : Call → Type
  | .symlinkMetadata _ => Except IoError Entry
  | .fill => Except IoError Suffix
  | .createNew _ _ => Except IoError Nat
  | .setPermissions _ _ | .removeFile _ | .writeAll _ _ | .syncAll _ | .hardLink _ _ => Except IoError Unit

def Call.failed (error : IoError) : (call : Call) → call.Answer
  | .symlinkMetadata _ | .fill | .createNew _ _ => .error error
  | .setPermissions _ _ | .removeFile _ | .writeAll _ _ | .syncAll _ | .hardLink _ _ => .error error

structure Host where
  unix : Bool
  umask : UInt32
  pid : Nat
  suffix : Suffix

def answer (host : Host) : (call : Call) → FileSystem → call.Answer × FileSystem
  | .symlinkMetadata path, files => ((files.entries path).elim (.error .notFound) .ok, files)
  | .fill, files => (.ok host.suffix, files)
  | .createNew path mode, files =>
      if files.entries path = none then (.ok files.fresh, files.create path ⟨mode &&& ~~~host.umask, []⟩)
      else (.error .alreadyExists, files)
  | .setPermissions file mode, files => (.ok (), files.write file { files.nodes file with mode := mode })
  | .removeFile path, files =>
      match files.entries path with
      | none => (.error .notFound, files)
      | some .directory => (.error .other, files)
      | some _ => (.ok (), files.clear path)
  | .writeAll file bytes, files =>
      (.ok (), files.write file { files.nodes file with content := (files.nodes file).content ++ bytes })
  | .syncAll _, files => (.ok (), files)
  | .hardLink original path, files =>
      match files.entries original with
      | none => (.error .notFound, files)
      | some .directory => (.error .other, files)
      | some _ => if files.entries path = none then (.ok (), files.link original path) else (.error .alreadyExists, files)

abbrev Operation (Value : Type) : Type := Prog Call Call.Answer OutRefusal Value

def io {Value : Type} (call : Call) (view : call.Answer → Except IoError Value) : Operation Value :=
  .ask call fun answer => Prog.lift ((view answer).mapError fun _ => .unwritable)

def hex (suffix : Suffix) : Bytes :=
  suffix.toList.flatMap fun byte => [Codecs.hexDigit (byte.toNat / 16), Codecs.hexDigit (byte.toNat % 16)]

def tempName (pid : Nat) (name : Bytes) (suffix : Suffix) : Bytes :=
  textBytes "." ++ name ++ textBytes s!".{pid}." ++ hex suffix ++ textBytes ".secretsctl-tmp"

structure Pending where
  temp : Path
  file : Option Nat
  target : Path

def vacancy : Except IoError Entry → Operation Unit
  | .ok .symlink => .stop .symlink
  | .ok _ => .stop .exists
  | .error .notFound => .done ()
  | .error _ => .stop .unwritable

def exactly (path : Path) (file : Nat) : Except IoError Unit → Operation Nat
  | .ok _ => .done file
  | .error _ => .ask (.removeFile path) fun _ => .stop .unwritable

def createPrivate (unix : Bool) (path : Path) : Operation Nat := do
  Prog.ensure unix .unwritable
  let file ← io (.createNew path 0o600) id
  .ask (.setPermissions file 0o600) (exactly path file)

def prepare (host : Host) (path : Path) : Operation Pending := do
  .ask (.symlinkMetadata path) vacancy
  let name ← Prog.lift (path.fileName.elim (.error .notAFile) .ok)
  let suffix ← io .fill id
  let temp := path.directory.join (tempName host.pid name suffix)
  let file ← createPrivate host.unix temp
  pure ⟨temp, some file, path⟩

def placed : Except IoError Unit → Operation Unit
  | .ok _ => .done ()
  | .error .alreadyExists => .stop .exists
  | .error _ => .stop .unwritable

def Pending.link (pending : Pending) (bytes : Bytes) : Operation Unit := do
  let file ← Prog.lift (pending.file.elim (.error .unwritable) .ok)
  io (.writeAll file bytes) id
  io (.syncAll file) id
  .ask (.hardLink pending.temp pending.target) placed

-- Drop for Pending removes the temporary file, whatever came before.
def Pending.commit (pending : Pending) (bytes : Bytes) : Operation Unit := (pending.link bytes).closing (.removeFile pending.temp)

def refusing {Value : Type} (operation : Operation Value) : Prog Call Call.Answer Local.Failure Value :=
  operation.embed (fun call => call) (fun _ answer => answer) fun refusal => .refused refusal.text

def read (host : Host) (path : Path) (fetched : Except Local.Failure Bytes) : Prog Call Call.Answer Local.Failure Unit := do
  let pending ← refusing (prepare host path)
  match fetched with
  | .ok bytes => refusing (pending.commit bytes)
  | .error failure => Prog.closing (.removeFile pending.temp) (.stop failure)

structure Step where
  exchange : Exchange Call Call.Answer
  before : FileSystem
  after : FileSystem

namespace Step

def created (step : Step) : Option Path :=
  match step.exchange with
  | ⟨.createNew temp _, .ok _⟩ => some temp
  | _ => none

def removed (step : Step) : Option (Path × Bool) :=
  match step.exchange with
  | ⟨.removeFile temp, .ok _⟩ => some (temp, true)
  | ⟨.removeFile temp, .error _⟩ => some (temp, false)
  | _ => none

def linked (step : Step) : Option (Path × Path × Bool) :=
  match step.exchange with
  | ⟨.hardLink original path, .ok _⟩ => some (original, path, true)
  | ⟨.hardLink original path, .error _⟩ => some (original, path, false)
  | _ => none

def Still (target : Path) (step : Step) : Prop := step.after.entries target = step.before.entries target

end Step

structure World where
  files : FileSystem
  trace : List Step

structure Schedule where
  foreign : Nat → List Foreign
  fails : Nat → Option IoError

def attempt (host : Host) (fails : Option IoError) (call : Call) (files : FileSystem) : call.Answer × FileSystem :=
  match fails with
  | some error => (call.failed error, files)
  | none => answer host call files

def perform (host : Host) (schedule : Schedule) (target : Path) (call : Call) (world : World) : call.Answer × World :=
  let before := (schedule.foreign world.trace.length).foldl (Foreign.act target) world.files
  let (given, after) := attempt host (schedule.fails world.trace.length) call before
  (given, ⟨after, world.trace ++ [⟨⟨call, given⟩, before, after⟩]⟩)

inductive Stage where
  | made
  | blank
  | filled
  | missed
  | linked
deriving DecidableEq

def Stage.Content (fetched : Except Local.Failure Bytes) : Stage → Node → Prop
  | .made, node => node.content = []
  | .blank, node => node = ⟨0o600, []⟩
  | .filled, node | .missed, node | .linked, node => node.mode = 0o600 ∧ fetched = .ok node.content

inductive Phase where
  | away
  | held (temp : Path) (file : Nat) (stage : Stage)
  | swept (temp : Path) (file : Nat) (stage : Stage) (gone : Bool)

section Program
variable (target : Path) (fetched : Except Local.Failure Bytes)

inductive Moves : Phase → (call : Call) → call.Answer → Phase → Prop where
  | looked (answer : Except IoError Entry) : Moves .away (.symlinkMetadata target) answer .away
  | drew (answer : Except IoError Suffix) : Moves .away .fill answer .away
  | uncreated (temp : Path) (error : IoError) : Moves .away (.createNew temp 0o600) (.error error) .away
  | created (temp : Path) (file : Nat) (apart : temp ≠ target) :
      Moves .away (.createNew temp 0o600) (.ok file) (.held temp file .made)
  | loose (temp : Path) (file : Nat) (error : IoError) :
      Moves (.held temp file .made) (.setPermissions file 0o600) (.error error) (.held temp file .made)
  | exact (temp : Path) (file : Nat) :
      Moves (.held temp file .made) (.setPermissions file 0o600) (.ok ()) (.held temp file .blank)
  | unwritten (temp : Path) (file : Nat) (bytes : Bytes) (error : IoError) :
      Moves (.held temp file .blank) (.writeAll file bytes) (.error error) (.held temp file .blank)
  | written (temp : Path) (file : Nat) (bytes : Bytes) (value : fetched = .ok bytes) :
      Moves (.held temp file .blank) (.writeAll file bytes) (.ok ()) (.held temp file .filled)
  | synced (temp : Path) (file : Nat) (answer : Except IoError Unit) :
      Moves (.held temp file .filled) (.syncAll file) answer (.held temp file .filled)
  | missed (temp : Path) (file : Nat) (error : IoError) :
      Moves (.held temp file .filled) (.hardLink temp target) (.error error) (.held temp file .missed)
  | linked (temp : Path) (file : Nat) :
      Moves (.held temp file .filled) (.hardLink temp target) (.ok ()) (.held temp file .linked)
  | stayed (temp : Path) (file : Nat) (stage : Stage) (error : IoError) :
      Moves (.held temp file stage) (.removeFile temp) (.error error) (.swept temp file stage false)
  | swept (temp : Path) (file : Nat) (stage : Stage) :
      Moves (.held temp file stage) (.removeFile temp) (.ok ()) (.swept temp file stage true)

inductive Ends {Error : Type} : Except Error Unit → Phase → Prop where
  | refused (error : Error) : Ends (.error error) .away
  | failed (error : Error) (temp : Path) (file : Nat) (stage : Stage) (gone : Bool) (unlinked : stage ≠ .linked) :
      Ends (.error error) (.swept temp file stage gone)
  | whole (temp : Path) (file : Nat) (gone : Bool) : Ends (.ok ()) (.swept temp file .linked gone)

inductive Prepared : Except OutRefusal Pending → Phase → Prop where
  | refused (refusal : OutRefusal) : Prepared (.error refusal) .away
  | failed (refusal : OutRefusal) (temp : Path) (file : Nat) (gone : Bool) :
      Prepared (.error refusal) (.swept temp file .made gone)
  | ready (temp : Path) (file : Nat) : Prepared (.ok ⟨temp, some file, target⟩) (.held temp file .blank)

theorem sweeps (temp : Path) (file : Nat) (stage : Stage) (answer : Except IoError Unit) :
    ∃ gone, Moves target fetched (.held temp file stage) (.removeFile temp) answer (.swept temp file stage gone) := by
  cases answer with
  | ok value => exact ⟨true, .swept temp file stage⟩
  | error error => exact ⟨false, .stayed temp file stage error⟩

theorem temp_apart (pid : Nat) (name : Bytes) (suffix : Suffix) (named : target.fileName = some name) :
    target.directory.join (tempName pid name suffix) ≠ target := by
  intro same
  have last := congrArg List.getLast? same
  rw [Path.join, List.getLast?_append, List.getLast?_singleton, Option.some_or] at last
  have found : Path.fileName target = some (tempName pid name suffix) := by
    rw [Path.fileName, ← last]
  rw [named, Option.some.injEq] at found
  have longer := congrArg List.length found
  have dot : (textBytes ".").length = 1 := by decide
  simp only [tempName, List.length_append, dot] at longer
  omega

theorem io_heeds_out {Value Result : Type} (call : Call) (view : call.Answer → Except IoError Value) (next : Value → Operation Result)
    (phase : Phase) (post : Except OutRefusal Result → Phase → Prop)
    (moves : ∀ answer, ∃ after, Moves target fetched phase call answer after ∧
      ∀ ended, ended = (view answer).mapError (fun _ => OutRefusal.unwritable) → Prog.Then (Moves target fetched) post next ended after) :
    (io call view >>= next).Heeds (Moves target fetched) post phase := by
  intro answer
  obtain ⟨after, moved, rest⟩ := moves answer
  exact ⟨after, moved, heeds_bind _ _ _ _ _ (heeds_lift _ _ _ _ (rest _ rfl))⟩

theorem create_private_heeds (unix : Bool) (temp : Path) (apart : temp ≠ target)
    (post : Except OutRefusal Nat → Phase → Prop) (refused : ∀ refusal, post (.error refusal) .away)
    (failed : ∀ refusal file gone, post (.error refusal) (.swept temp file .made gone))
    (ready : ∀ file, post (.ok file) (.held temp file .blank)) :
    (createPrivate unix temp).Heeds (Moves target fetched) post .away := by
  cases unix with
  | false => exact refused _
  | true =>
      apply io_heeds_out
      intro answer
      cases answer with
      | error error =>
          refine ⟨.away, .uncreated temp error, ?_⟩
          intro ended same
          subst same
          exact refused _
      | ok file =>
          refine ⟨.held temp file .made, .created temp file apart, ?_⟩
          intro ended same
          subst same
          intro given
          cases given with
          | ok value => exact ⟨_, .exact temp file, ready file⟩
          | error error =>
              refine ⟨_, .loose temp file error, ?_⟩
              intro removed
              obtain ⟨gone, moved⟩ := sweeps target fetched temp file .made removed
              exact ⟨_, moved, failed _ _ _⟩

theorem prepare_heeds (host : Host) : (prepare host target).Heeds (Moves target fetched) (Prepared target) .away := by
  intro found
  refine ⟨.away, .looked found, ?_⟩
  apply heeds_bind
  have vacant : (vacancy found).Heeds (Moves target fetched) (fun _ phase => phase = .away) .away := by
    cases found with
    | ok entry => cases entry <;> rfl
    | error error => cases error <;> rfl
  refine heeds_mono _ _ _ ?_ _ _ vacant
  intro ended phase still
  subst still
  cases ended with
  | error refusal => exact .refused refusal
  | ok value =>
      cases named : target.fileName with
      | none => exact .refused _
      | some name =>
          apply io_heeds_out
          intro drawn
          refine ⟨.away, .drew drawn, ?_⟩
          intro ended same
          subst same
          cases drawn with
          | error error => exact .refused _
          | ok suffix =>
              apply heeds_bind
              apply create_private_heeds _ _ _ _ (temp_apart target host.pid name suffix named)
              · exact fun refusal => .refused refusal
              · exact fun refusal file gone => .failed refusal _ file gone
              · exact fun file => .ready _ file

theorem link_heeds (temp : Path) (file : Nat) (bytes : Bytes) (value : fetched = .ok bytes)
    (post : Except OutRefusal Unit → Phase → Prop)
    (failed : ∀ refusal stage, stage ≠ .linked → post (.error refusal) (.held temp file stage))
    (whole : post (.ok ()) (.held temp file .linked)) :
    (Pending.link ⟨temp, some file, target⟩ bytes).Heeds (Moves target fetched) post (.held temp file .blank) := by
  apply io_heeds_out
  intro written
  cases written with
  | error error =>
      refine ⟨_, .unwritten temp file bytes error, ?_⟩
      intro ended same
      subst same
      exact failed _ _ (by decide)
  | ok answer =>
      refine ⟨_, .written temp file bytes value, ?_⟩
      intro ended same
      subst same
      apply io_heeds_out
      intro synced
      refine ⟨_, .synced temp file synced, ?_⟩
      intro ended same
      subst same
      cases synced with
      | error error => exact failed _ _ (by decide)
      | ok answer =>
          intro given
          cases given with
          | ok answer => exact ⟨_, .linked temp file, whole⟩
          | error error =>
              refine ⟨_, .missed temp file error, ?_⟩
              cases error <;> exact failed _ _ (by decide)

theorem commit_heeds (temp : Path) (file : Nat) (bytes : Bytes) (value : fetched = .ok bytes) :
    (Pending.commit ⟨temp, some file, target⟩ bytes).Heeds (Moves target fetched) Ends (.held temp file .blank) := by
  apply heeds_closing
  apply link_heeds target fetched temp file bytes value
  · intro refusal stage unlinked removed
    obtain ⟨gone, moved⟩ := sweeps target fetched temp file stage removed
    exact ⟨_, moved, .failed refusal temp file stage gone unlinked⟩
  · intro removed
    obtain ⟨gone, moved⟩ := sweeps target fetched temp file .linked removed
    exact ⟨_, moved, .whole temp file gone⟩

theorem refusing_heeds {Value : Type} (operation : Operation Value) (phase : Phase)
    (post : Except Local.Failure Value → Phase → Prop)
    (heeds : operation.Heeds (Moves target fetched) (fun ended => post (ended.mapError fun refusal => .refused refusal.text)) phase) :
    (refusing operation).Heeds (Moves target fetched) post phase :=
  heeds_embed _ _ _ _ _ (fun _ _ _ _ moved => moved) post operation phase heeds

theorem ends_map (refuse : OutRefusal → Local.Failure) (ended : Except OutRefusal Unit) (phase : Phase) (ends : Ends ended phase) :
    Ends (ended.mapError refuse) phase := by
  cases ends with
  | refused error => exact .refused _
  | failed error temp file stage gone unlinked => exact .failed _ temp file stage gone unlinked
  | whole temp file gone => exact .whole temp file gone

theorem read_heeds (host : Host) : (read host target fetched).Heeds (Moves target fetched) Ends .away := by
  apply heeds_bind
  apply refusing_heeds
  refine heeds_mono _ _ _ ?_ _ _ (prepare_heeds target fetched host)
  intro ended phase prepared
  cases prepared with
  | refused refusal => exact .refused _
  | failed refusal temp file gone => exact .failed _ temp file .made gone (by decide)
  | ready temp file =>
      cases given : fetched with
      | ok bytes =>
          subst given
          apply refusing_heeds
          exact heeds_mono _ _ _ (fun ended phase => ends_map _ ended phase) _ _ (commit_heeds target _ temp file bytes rfl)
      | error failure =>
          intro removed
          obtain ⟨gone, moved⟩ := sweeps target (.error failure) temp file .blank removed
          exact ⟨_, moved, .failed _ temp file .blank gone (by decide)⟩

end Program

section Files
variable (start : FileSystem) (target : Path) (fetched : Except Local.Failure Bytes)

-- What another process does at the target touches no other path and no file that
-- was made before.
structure Apart (before after : FileSystem) : Prop where
  paths : ∀ path, path ≠ target → after.entries path = before.entries path
  nodes : ∀ file < before.fresh, after.nodes file = before.nodes file
  fresh : before.fresh ≤ after.fresh

theorem place_apart (files : FileSystem) (entry : Option Entry) (fits : ∀ node, entry = some (.file node) → node < files.fresh) :
    Apart target files (files.place target entry fits) where
  paths _ other := Function.update_of_ne other _ _
  nodes _ _ := rfl
  fresh := le_refl _

theorem act_apart (files : FileSystem) (action : Foreign) : Apart target files (action.act target files) := by
  cases action with
  | remove => exact place_apart target files none fun _ same => absurd same (by simp)
  | file node =>
      exact
        { paths := fun path other => Function.update_of_ne other _ _
          nodes := fun file old => Function.update_of_ne (Nat.ne_of_lt old) _ _
          fresh := Nat.le_succ _ }
  | directory => exact place_apart target files (some .directory) fun _ same => absurd same (by simp)
  | symlink => exact place_apart target files (some .symlink) fun _ same => absurd same (by simp)
  | link original => exact place_apart target files (files.entries original) (files.used original)

theorem acts_apart (actions : List Foreign) (files : FileSystem) :
    Apart target files (actions.foldl (Foreign.act target) files) := by
  induction actions generalizing files with
  | nil => exact ⟨fun _ _ => rfl, fun _ _ => rfl, le_refl _⟩
  | cons action rest ih =>
      have first := act_apart target files action
      have later := ih (action.act target files)
      exact
        { paths := fun path other => (later.paths path other).trans (first.paths path other)
          nodes := fun file old => (later.nodes file (Nat.lt_of_lt_of_le old first.fresh)).trans (first.nodes file old)
          fresh := Nat.le_trans first.fresh later.fresh }

structure Own (file : Nat) (stage : Stage) (files : FileSystem) : Prop where
  made : start.fresh ≤ file
  known : file < files.fresh
  content : stage.Content fetched (files.nodes file)

def Steady (files : FileSystem) : Phase → Prop
  | .away => start.fresh ≤ files.fresh
  | .held temp file stage => temp ≠ target ∧ files.entries temp = some (.file file) ∧ Own start fetched file stage files
  | .swept temp file stage gone => temp ≠ target ∧ (gone = true → files.entries temp = none) ∧ Own start fetched file stage files

theorem own_apart (file : Nat) (stage : Stage) (before after : FileSystem) (apart : Apart target before after)
    (own : Own start fetched file stage before) : Own start fetched file stage after where
  made := own.made
  known := Nat.lt_of_lt_of_le own.known apart.fresh
  content := by
    rw [apart.nodes file own.known]
    exact own.content

theorem steady_apart (before after : FileSystem) (apart : Apart target before after) (phase : Phase)
    (steady : Steady start target fetched before phase) : Steady start target fetched after phase := by
  cases phase with
  | away => exact Nat.le_trans steady apart.fresh
  | held temp file stage =>
      obtain ⟨other, found, own⟩ := steady
      exact ⟨other, (apart.paths temp other).trans found, own_apart start target fetched file stage before after apart own⟩
  | swept temp file stage gone =>
      obtain ⟨other, cleared, own⟩ := steady
      exact ⟨other, fun done => (apart.paths temp other).trans (cleared done),
        own_apart start target fetched file stage before after apart own⟩

theorem attempt_cases (host : Host) (fails : Option IoError) (call : Call) (files after : FileSystem) (given : call.Answer)
    (ran : attempt host fails call files = (given, after)) :
    (∃ error, given = call.failed error ∧ after = files) ∨ answer host call files = (given, after) := by
  cases fails with
  | some error =>
      obtain ⟨said, same⟩ := Prod.mk.inj ran
      exact .inl ⟨error, said.symm, same.symm⟩
  | none => exact .inr ran

theorem refused_kept (host : Host) (fails : Option IoError) (call : Call) (files after : FileSystem) (given : call.Answer)
    (ran : attempt host fails call files = (given, after)) (error : IoError) (refused : given = call.failed error) :
    after = files := by
  rcases attempt_cases host fails call files after given ran with ⟨_, _, same⟩ | did
  · exact same
  · subst refused
    cases call with
    | symlinkMetadata path => exact (Prod.mk.inj did).2.symm
    | fill => exact (Prod.mk.inj did).2.symm
    | createNew path mode =>
        rw [answer] at did
        split at did
        · cases (Prod.mk.inj did).1
        · exact (Prod.mk.inj did).2.symm
    | setPermissions file mode => cases (Prod.mk.inj did).1
    | removeFile path =>
        rw [answer] at did
        split at did
        · exact (Prod.mk.inj did).2.symm
        · exact (Prod.mk.inj did).2.symm
        · cases (Prod.mk.inj did).1
    | writeAll file bytes => cases (Prod.mk.inj did).1
    | syncAll file => cases (Prod.mk.inj did).1
    | hardLink original path =>
        rw [answer] at did
        split at did
        · exact (Prod.mk.inj did).2.symm
        · exact (Prod.mk.inj did).2.symm
        · split at did
          · cases (Prod.mk.inj did).1
          · exact (Prod.mk.inj did).2.symm

section Done
variable (host : Host) (fails : Option IoError) (files after : FileSystem)

theorem create_done (temp : Path) (mode : UInt32) (file : Nat)
    (ran : attempt host fails (.createNew temp mode) files = (.ok file, after)) :
    file = files.fresh ∧ after = files.create temp ⟨mode &&& ~~~host.umask, []⟩ := by
  rcases attempt_cases host fails _ files after _ ran with ⟨_, refused, _⟩ | did
  · cases refused
  · rw [answer] at did
    split at did
    · obtain ⟨given, made⟩ := Prod.mk.inj did
      exact ⟨(Except.ok.inj given).symm, made.symm⟩
    · cases (Prod.mk.inj did).1

theorem permissions_done (file : Nat) (mode : UInt32)
    (ran : attempt host fails (.setPermissions file mode) files = (.ok (), after)) :
    after = files.write file { files.nodes file with mode := mode } := by
  rcases attempt_cases host fails _ files after _ ran with ⟨_, refused, _⟩ | did
  · cases refused
  · exact (Prod.mk.inj did).2.symm

theorem write_done (file : Nat) (bytes : Bytes) (ran : attempt host fails (.writeAll file bytes) files = (.ok (), after)) :
    after = files.write file { files.nodes file with content := (files.nodes file).content ++ bytes } := by
  rcases attempt_cases host fails _ files after _ ran with ⟨_, refused, _⟩ | did
  · cases refused
  · exact (Prod.mk.inj did).2.symm

theorem remove_done (path : Path) (ran : attempt host fails (.removeFile path) files = (.ok (), after)) :
    after = files.clear path := by
  rcases attempt_cases host fails _ files after _ ran with ⟨_, refused, _⟩ | did
  · cases refused
  · rw [answer] at did
    split at did
    · cases (Prod.mk.inj did).1
    · cases (Prod.mk.inj did).1
    · exact (Prod.mk.inj did).2.symm

theorem link_done (original path : Path) (ran : attempt host fails (.hardLink original path) files = (.ok (), after)) :
    files.entries path = none ∧ after = files.link original path := by
  rcases attempt_cases host fails _ files after _ ran with ⟨_, refused, _⟩ | did
  · cases refused
  · rw [answer] at did
    split at did
    · cases (Prod.mk.inj did).1
    · cases (Prod.mk.inj did).1
    · split at did
      · rename_i vacant
        exact ⟨vacant, (Prod.mk.inj did).2.symm⟩
      · cases (Prod.mk.inj did).1

theorem look_done (path : Path) (given : Except IoError Entry)
    (ran : attempt host fails (.symlinkMetadata path) files = (given, after)) : after = files := by
  rcases attempt_cases host fails _ files after _ ran with ⟨_, _, same⟩ | did
  · exact same
  · exact (Prod.mk.inj did).2.symm

theorem fill_done (given : Except IoError Suffix) (ran : attempt host fails .fill files = (given, after)) : after = files := by
  rcases attempt_cases host fails _ files after _ ran with ⟨_, _, same⟩ | did
  · exact same
  · exact (Prod.mk.inj did).2.symm

theorem sync_done (file : Nat) (given : Except IoError Unit) (ran : attempt host fails (.syncAll file) files = (given, after)) :
    after = files := by
  rcases attempt_cases host fails _ files after _ ran with ⟨_, _, same⟩ | did
  · exact same
  · exact (Prod.mk.inj did).2.symm

end Done

theorem own_write (file : Nat) (stage next : Stage) (files : FileSystem) (node : Node) (own : Own start fetched file stage files)
    (content : next.Content fetched node) : Own start fetched file next (files.write file node) where
  made := own.made
  known := own.known
  content := by
    rw [FileSystem.write]
    dsimp only
    rw [Function.update_self]
    exact content

theorem own_stage (file : Nat) (stage next : Stage) (files : FileSystem) (own : Own start fetched file stage files)
    (same : stage.Content fetched (files.nodes file) → next.Content fetched (files.nodes file)) :
    Own start fetched file next files := ⟨own.made, own.known, same own.content⟩

theorem steady_moves (host : Host) (fails : Option IoError) (phase next : Phase) (call : Call) (files after : FileSystem)
    (given : call.Answer) (steady : Steady start target fetched files phase) (ran : attempt host fails call files = (given, after))
    (moved : Moves target fetched phase call given next) : Steady start target fetched after next := by
  cases moved with
  | looked =>
      obtain rfl := look_done host fails files after _ _ ran
      exact steady
  | drew =>
      obtain rfl := fill_done host fails files after _ ran
      exact steady
  | uncreated temp error =>
      obtain rfl := refused_kept host fails _ files after _ ran error rfl
      exact steady
  | created temp file apart =>
      obtain ⟨rfl, rfl⟩ := create_done host fails files after temp _ file ran
      refine ⟨apart, Function.update_self _ _ _, steady, Nat.lt_succ_self _, ?_⟩
      rw [FileSystem.create]
      dsimp only
      rw [Function.update_self]
      rfl
  | loose temp file error =>
      obtain rfl := refused_kept host fails _ files after _ ran error rfl
      exact steady
  | exact temp file =>
      obtain rfl := permissions_done host fails files after file _ ran
      obtain ⟨apart, found, own⟩ := steady
      have empty : (files.nodes file).content = [] := own.content
      exact ⟨apart, found, own_write start fetched file .made .blank files _ own (by simp [Stage.Content, empty])⟩
  | unwritten temp file bytes error =>
      obtain rfl := refused_kept host fails _ files after _ ran error rfl
      exact steady
  | written temp file bytes value =>
      obtain rfl := write_done host fails files after file bytes ran
      obtain ⟨apart, found, own⟩ := steady
      have blank : files.nodes file = ⟨0o600, []⟩ := own.content
      refine ⟨apart, found, own_write start fetched file .blank .filled files _ own ?_⟩
      rw [blank]
      exact ⟨rfl, value⟩
  | synced temp file answer =>
      obtain rfl := sync_done host fails files after file _ ran
      exact steady
  | missed temp file error =>
      obtain rfl := refused_kept host fails _ files after _ ran error rfl
      exact ⟨steady.1, steady.2.1, own_stage start fetched file .filled .missed _ steady.2.2 id⟩
  | linked temp file =>
      obtain ⟨vacant, rfl⟩ := link_done host fails files after temp target ran
      obtain ⟨apart, found, own⟩ := steady
      exact ⟨apart, (Function.update_of_ne apart _ _).trans found, own.made, own.known, own.content⟩
  | stayed temp file stage error =>
      obtain rfl := refused_kept host fails _ files after _ ran error rfl
      exact ⟨steady.1, fun gone => absurd gone (by decide), steady.2.2⟩
  | swept temp file stage =>
      obtain rfl := remove_done host fails files after temp ran
      obtain ⟨apart, _, own⟩ := steady
      exact ⟨apart, fun _ => Function.update_self _ _ _, own.made, own.known, own.content⟩

-- The link in a trace: the only one, at an empty target, of a file that was made
-- since the start and is as it should be.
structure Placed (value : Bytes) (file : Nat) (trace : List Step) : Prop where
  split : ∃ earlier step later temp, trace = earlier ++ step :: later ∧ step.linked = some (temp, target, true) ∧
    step.before.entries target = none ∧ step.after.entries target = some (.file file) ∧
    step.after.nodes file = ⟨0o600, value⟩ ∧
    ∀ other ∈ earlier ++ later, other.linked = none ∧ other.Still target

def Stage.Traced (trace : List Step) (file : Nat) : Stage → Prop
  | .made | .blank | .filled => ∀ step ∈ trace, step.linked = none ∧ step.Still target
  | .missed => ∀ step ∈ trace, step.Still target
  | .linked => ∃ value, fetched = .ok value ∧ Placed target value file trace

def Told (trace : List Step) : Phase → Prop
  | .away => (∀ step ∈ trace, step.linked = none ∧ step.Still target) ∧ ∀ step ∈ trace, step.created = none
  | .held temp file stage => stage.Traced target fetched trace file ∧ ∀ step ∈ trace, ∀ path, step.created = some path → path = temp
  | .swept temp file stage gone => stage.Traced target fetched trace file ∧
      (∀ step ∈ trace, ∀ path, step.created = some path → path = temp) ∧ ∃ step ∈ trace, step.removed = some (temp, gone)

theorem all_snoc (holds : Step → Prop) (trace : List Step) (step : Step) (before : ∀ other ∈ trace, holds other) (last : holds step) :
    ∀ other ∈ trace ++ [step], holds other := by
  intro other member
  rcases List.mem_append.mp member with inside | here
  · exact before other inside
  · exact (List.mem_singleton.mp here) ▸ last

theorem placed_snoc (value : Bytes) (file : Nat) (trace : List Step) (step : Step) (placed : Placed target value file trace)
    (unlinked : step.linked = none) (still : step.Still target) : Placed target value file (trace ++ [step]) := by
  obtain ⟨earlier, link, later, temp, same, linked, vacant, here, content, others⟩ := placed.split
  refine ⟨earlier, link, later ++ [step], temp, by rw [same, List.append_assoc, List.cons_append], linked, vacant, here, content, ?_⟩
  rw [← List.append_assoc]
  exact all_snoc _ _ step others ⟨unlinked, still⟩

theorem traced_snoc (trace : List Step) (file : Nat) (stage : Stage) (step : Step)
    (traced : stage.Traced target fetched trace file) (unlinked : step.linked = none) (still : step.Still target) :
    stage.Traced target fetched (trace ++ [step]) file := by
  cases stage with
  | made => exact all_snoc _ trace step traced ⟨unlinked, still⟩
  | blank => exact all_snoc _ trace step traced ⟨unlinked, still⟩
  | filled => exact all_snoc _ trace step traced ⟨unlinked, still⟩
  | missed => exact all_snoc _ trace step traced still
  | linked =>
      obtain ⟨value, known, placed⟩ := traced
      exact ⟨value, known, placed_snoc target value file trace step placed unlinked still⟩

theorem made_snoc (temp : Path) (trace : List Step) (step : Step) (made : ∀ step ∈ trace, ∀ path, step.created = some path → path = temp)
    (uncreated : step.created = none) : ∀ other ∈ trace ++ [step], ∀ path, other.created = some path → path = temp := by
  apply all_snoc _ trace step made
  intro path created
  rw [uncreated] at created
  cases created

theorem held_snoc (trace : List Step) (temp : Path) (file : Nat) (stage : Stage) (step : Step)
    (told : Told target fetched trace (.held temp file stage)) (unlinked : step.linked = none) (still : step.Still target)
    (uncreated : step.created = none) : Told target fetched (trace ++ [step]) (.held temp file stage) :=
  ⟨traced_snoc target fetched trace file stage step told.1 unlinked still, made_snoc temp trace step told.2 uncreated⟩

theorem told_moves (host : Host) (fails : Option IoError) (phase next : Phase) (call : Call) (files after : FileSystem)
    (given : call.Answer) (trace : List Step) (told : Told target fetched trace phase)
    (steady : Steady start target fetched files phase) (ran : attempt host fails call files = (given, after))
    (moved : Moves target fetched phase call given next) : Told target fetched (trace ++ [⟨⟨call, given⟩, files, after⟩]) next := by
  cases moved with
  | looked =>
      obtain rfl := look_done host fails files after _ _ ran
      exact ⟨all_snoc _ _ _ told.1 ⟨rfl, rfl⟩, all_snoc _ _ _ told.2 rfl⟩
  | drew =>
      obtain rfl := fill_done host fails files after _ ran
      exact ⟨all_snoc _ _ _ told.1 ⟨rfl, rfl⟩, all_snoc _ _ _ told.2 rfl⟩
  | uncreated temp error =>
      obtain rfl := refused_kept host fails _ files after _ ran error rfl
      exact ⟨all_snoc _ _ _ told.1 ⟨rfl, rfl⟩, all_snoc _ _ _ told.2 rfl⟩
  | created temp file apart =>
      obtain ⟨rfl, rfl⟩ := create_done host fails files after temp _ file ran
      refine ⟨all_snoc _ _ _ told.1 ⟨rfl, Function.update_of_ne (Ne.symm apart) _ _⟩, ?_⟩
      apply all_snoc
      · intro step member path made
        rw [told.2 step member] at made
        cases made
      · intro path made
        exact (Option.some.inj made).symm
  | loose temp file error =>
      obtain rfl := refused_kept host fails _ files after _ ran error rfl
      exact held_snoc target fetched trace temp file .made _ told rfl rfl rfl
  | exact temp file =>
      obtain rfl := permissions_done host fails files after file _ ran
      exact held_snoc target fetched trace temp file .made _ told rfl rfl rfl
  | unwritten temp file bytes error =>
      obtain rfl := refused_kept host fails _ files after _ ran error rfl
      exact held_snoc target fetched trace temp file .blank _ told rfl rfl rfl
  | written temp file bytes value =>
      obtain rfl := write_done host fails files after file bytes ran
      exact held_snoc target fetched trace temp file .blank _ told rfl rfl rfl
  | synced temp file answer =>
      obtain rfl := sync_done host fails files after file _ ran
      exact held_snoc target fetched trace temp file .filled _ told rfl rfl rfl
  | missed temp file error =>
      obtain rfl := refused_kept host fails _ files after _ ran error rfl
      exact ⟨all_snoc _ _ _ (fun step member => (told.1 step member).2) rfl, made_snoc temp trace _ told.2 rfl⟩
  | linked temp file =>
      obtain ⟨vacant, rfl⟩ := link_done host fails files after temp target ran
      obtain ⟨apart, found, own⟩ := steady
      have content : (files.nodes file).mode = 0o600 ∧ fetched = .ok (files.nodes file).content := own.content
      refine ⟨⟨(files.nodes file).content, content.2, ?_⟩, made_snoc temp trace _ told.2 rfl⟩
      refine ⟨trace, _, [], temp, rfl, rfl, vacant, (Function.update_self _ _ _).trans found, ?_, ?_⟩
      · change files.nodes file = _
        rw [← content.1]
      · rw [List.append_nil]
        exact told.1
  | stayed temp file stage error =>
      obtain rfl := refused_kept host fails _ files after _ ran error rfl
      exact ⟨traced_snoc target fetched trace file stage _ told.1 rfl rfl,
        made_snoc temp trace _ told.2 rfl, _, List.mem_append_right _ (List.mem_singleton_self _), rfl⟩
  | swept temp file stage =>
      obtain rfl := remove_done host fails files after temp ran
      exact ⟨traced_snoc target fetched trace file stage _ told.1 rfl (Function.update_of_ne (Ne.symm steady.1) _ _),
        made_snoc temp trace _ told.2 rfl, _, List.mem_append_right _ (List.mem_singleton_self _), rfl⟩

def Fair (step : Step) : Prop :=
  ∀ temp linked, step.linked = some (temp, target, linked) → step.before.entries target ≠ none → step.after = step.before

theorem attempt_fair (host : Host) (fails : Option IoError) (call : Call) (files after : FileSystem) (given : call.Answer)
    (ran : attempt host fails call files = (given, after)) : Fair target ⟨⟨call, given⟩, files, after⟩ := by
  intro temp linked link occupied
  cases call with
  | hardLink original path =>
      cases given with
      | error error => exact refused_kept host fails _ files after _ ran error rfl
      | ok value =>
          obtain ⟨vacant, _⟩ := link_done host fails files after original path ran
          obtain ⟨_, rest⟩ := Prod.mk.inj (Option.some.inj link)
          obtain rfl := (Prod.mk.inj rest).1
          exact absurd vacant occupied
  | removeFile path => cases given <;> cases link
  | _ => cases link

structure Holds (phase : Phase) (world : World) : Prop where
  steady : Steady start target fetched world.files phase
  told : Told target fetched world.trace phase
  fair : ∀ step ∈ world.trace, Fair target step

theorem perform_holds (host : Host) (schedule : Schedule) (phase : Phase) (call : Call) (world : World) (next : Phase)
    (holds : Holds start target fetched phase world)
    (moved : Moves target fetched phase call (perform host schedule target call world).1 next) :
    Holds start target fetched next (perform host schedule target call world).2 := by
  have steady := steady_apart start target fetched _ _ (acts_apart target (schedule.foreign world.trace.length) world.files) phase
    holds.steady
  generalize ran : attempt host (schedule.fails world.trace.length) call
    ((schedule.foreign world.trace.length).foldl (Foreign.act target) world.files) = result
  obtain ⟨given, after⟩ := result
  have did : perform host schedule target call world = (given, ⟨after, world.trace ++ [⟨⟨call, given⟩,
      (schedule.foreign world.trace.length).foldl (Foreign.act target) world.files, after⟩]⟩) := by rw [perform, ran]
  rw [did] at moved ⊢
  exact
    { steady := steady_moves start target fetched host _ phase next call _ after given steady ran moved
      told := told_moves start target fetched host _ phase next call _ after given world.trace holds.told steady ran moved
      fair := all_snoc _ _ _ holds.fair (attempt_fair target host _ call _ after given ran) }

end Files

structure WholeOrNothing (start : FileSystem) (target : Path) (fetched : Except Local.Failure Bytes)
    (ended : Except Local.Failure Unit) (world : World) : Prop where
  untouched : ∀ step ∈ world.trace, ∀ temp linked, step.linked = some (temp, target, linked) →
    step.before.entries target ≠ none → step.after = step.before ∧ ended ≠ .ok ()
  nothing : ended ≠ .ok () → ∀ step ∈ world.trace, step.Still target
  whole : ended = .ok () → ∃ value file, fetched = .ok value ∧ start.fresh ≤ file ∧ Placed target value file world.trace ∧
    world.files.nodes file = ⟨0o600, value⟩
  swept : ∀ step ∈ world.trace, ∀ temp, step.created = some temp → ∃ last ∈ world.trace, ∃ gone,
    last.removed = some (temp, gone) ∧ (gone = true → world.files.entries temp = none)

theorem read_out_whole (host : Host) (schedule : Schedule) (start : FileSystem) (target : Path)
    (fetched : Except Local.Failure Bytes) :
    WholeOrNothing start target fetched (run (perform host schedule target) (read host target fetched) ⟨start, []⟩).1
      (run (perform host schedule target) (read host target fetched) ⟨start, []⟩).2 := by
  have begins : Holds start target fetched .away ⟨start, []⟩ := ⟨le_refl _, ⟨by simp, by simp⟩, by simp⟩
  obtain ⟨last, ends, holds⟩ := heeds_run (perform host schedule target) (Moves target fetched) (Holds start target fetched)
    (perform_holds start target fetched host schedule) Ends (read host target fetched) .away _ begins
    (read_heeds target fetched host)
  generalize run (perform host schedule target) (read host target fetched) ⟨start, []⟩ = result at ends holds
  obtain ⟨ended, world⟩ := result
  dsimp only at ends holds ⊢
  cases ends with
  | refused error =>
      exact
        { untouched := fun step member temp linked link occupied => ⟨holds.fair step member temp linked link occupied, by simp⟩
          nothing := fun _ step member => (holds.told.1 step member).2
          whole := fun done => absurd done (by simp)
          swept := fun step member temp made => absurd made (by simp [holds.told.2 step member]) }
  | failed error temp file stage gone unlinked =>
      obtain ⟨traced, made, removal, member, removed⟩ := holds.told
      have still : ∀ step ∈ world.trace, step.Still target := by
        cases stage with
        | made => exact fun step member => (traced step member).2
        | blank => exact fun step member => (traced step member).2
        | filled => exact fun step member => (traced step member).2
        | missed => exact traced
        | linked => exact absurd rfl unlinked
      exact
        { untouched := fun step member temp linked link occupied => ⟨holds.fair step member temp linked link occupied, by simp⟩
          nothing := fun _ => still
          whole := fun done => absurd done (by simp)
          swept := fun step inside path created => by
            obtain rfl := made step inside path created
            exact ⟨removal, member, gone, removed, holds.steady.2.1⟩ }
  | whole temp file gone =>
      obtain ⟨⟨value, known, placed⟩, made, removal, member, removed⟩ := holds.told
      obtain ⟨_, cleared, own⟩ := holds.steady
      have content : (world.files.nodes file).mode = 0o600 ∧ fetched = .ok (world.files.nodes file).content := own.content
      exact
        { untouched := by
            intro step inside other linked link occupied
            obtain ⟨earlier, once, later, _, same, _, vacant, _, _, others⟩ := placed.split
            rw [same, List.mem_append, List.mem_cons] at inside
            rcases inside with before | rfl | behind
            · rw [(others step (List.mem_append_left _ before)).1] at link
              cases link
            · exact absurd vacant occupied
            · rw [(others step (List.mem_append_right _ behind)).1] at link
              cases link
          nothing := fun failed => absurd rfl failed
          whole := fun _ => by
            refine ⟨value, file, known, own.made, placed, ?_⟩
            rw [known] at content
            rw [← content.1, Except.ok.inj content.2]
          swept := fun step inside path created => by
            obtain rfl := made step inside path created
            exact ⟨removal, member, gone, removed, cleared⟩ }

namespace Sample

def host : Host := ⟨true, 0o22, 7, Vector.replicate 8 171⟩

def emptyDirectory : FileSystem := ⟨fun _ => none, fun _ => ⟨0, []⟩, 0, fun _ _ found => absurd found (by simp)⟩

def late : Schedule := ⟨fun index => if index = 4 then [.file ⟨0o644, [111]⟩] else [], fun _ => none⟩

end Sample

example : (run (perform Sample.host Sample.late [.normal [118]]) (read Sample.host [.normal [118]] (.ok [115]))
    ⟨Sample.emptyDirectory, []⟩).1 = .error (.refused (OutRefusal.text .exists)) := by rfl

end Out
end Secrets
