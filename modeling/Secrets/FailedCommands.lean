import Secrets.CommandEnds

set_option autoImplicit false

namespace Secrets

open Programs Storage Federation
open Std (ExtTreeMap)
open Framing (Bytes)

-- Backends with whatever they store. A call that is refused, or that only
-- looks, leaves it as it is.
structure Backends (Stores : Type) where
  serve : BackendRef → (command : Command) → Stores → Except StorageError command.Answer × Stores
  refused : ∀ backend command stores, (serve backend command stores).1.isOk = false → (serve backend command stores).2 = stores
  looked : ∀ backend command stores, ¬(Call.backend backend command).Acts → (serve backend command stores).2 = stores

-- What goes on around a command: which of its calls fail, which namespaces others
-- remove right before a call, and what becomes of the --out path.
structure Around where
  fails : Nat → Bool
  removed : Nat → List NamespaceKey
  prepared : Except Local.OutRefusal Unit
  committed : Except Local.OutRefusal Unit

structure Scene (Stores : Type) where
  records : Records
  stores : Stores
  out : Option Bytes
  asked : Nat
  done : List Federation.Call

def Records.without (records : Records) (keys : List NamespaceKey) : Records :=
  keys.foldl (fun records key => (InMemoryConfig.perform (.removeNamespace key) records).2) records

section Scenes
variable {Stores : Type} (backends : Backends Stores) (around : Around)

def Around.left (records : Records) : Nat → Records
  | 0 => records
  | asked + 1 => (left records asked).without (around.removed asked)

def Scene.start (records : Records) (stores : Stores) : Scene Stores := ⟨records, stores, none, 0, []⟩

def Scene.serve : (call : Federation.Call) → Scene Stores → call.Answer × Scene Stores
  | .config call, scene =>
      ((InMemoryConfig.perform call scene.records).1, { scene with records := (InMemoryConfig.perform call scene.records).2 })
  | .backend backend command, scene =>
      ((backends.serve backend command scene.stores).1, { scene with stores := (backends.serve backend command scene.stores).2 })

def Scene.noting (call : Federation.Call) (answered : call.Answer × Scene Stores) : call.Answer × Scene Stores :=
  if call.Done answered.1 then (answered.1, { answered.2 with done := answered.2.done ++ [call] }) else answered

def Scene.next (scene : Scene Stores) : Scene Stores :=
  { scene with records := scene.records.without (around.removed scene.asked), asked := scene.asked + 1 }

def Scene.answer (call : Federation.Call) (scene : Scene Stores) : call.Answer × Scene Stores :=
  if around.fails scene.asked then (.error .unavailable, scene.next around)
  else Scene.noting call (Scene.serve backends call (scene.next around))

def Scene.perform : (call : Local.Call) → Scene Stores → call.Answer × Scene Stores
  | .stack call, scene => Scene.answer backends around call scene
  | .prepareOut, scene => (around.prepared, scene)
  | .commitOut bytes, scene =>
      (around.committed, if around.committed = .ok () then { scene with out := some bytes } else scene)

-- Nothing was done, and what differs in the configuration others removed.
structure Undone (before after : Scene Stores) : Prop where
  done : after.done = before.done
  stores : after.stores = before.stores
  records : after.records = around.left before.records after.asked
  out : after.out = before.out

end Scenes

section Running
variable {Stores : Type} (backends : Backends Stores) (around : Around)

theorem changed_kept (records : Records) (change : Except StorageError Records) (refused : (records.changed change).1.isOk = false) :
    (records.changed change).2 = records := by
  cases change with
  | error error => rfl
  | ok after => cases refused

theorem config_kept (call : ConfigCall) (records : Records)
    (undone : ¬(Federation.Call.config call).Done (InMemoryConfig.perform call records).1) :
    (InMemoryConfig.perform call records).2 = records := by
  have refused : (Federation.Call.config call).Acts → (InMemoryConfig.perform call records).1.isOk = false :=
    fun acts => Bool.eq_false_iff.mpr fun made => undone ⟨acts, made⟩
  cases call with
  | nameSpace key => rfl
  | namespaces => rfl
  | binding address => rfl
  | hasBindings key => rfl
  | insertNamespace nameSpace => exact changed_kept records _ (refused trivial)
  | removeNamespace key => exact changed_kept records _ (refused trivial)
  | setMount key mount => exact changed_kept records _ (refused trivial)
  | insertBinding address locator => exact changed_kept records _ (refused trivial)
  | removeBinding address => exact changed_kept records _ (refused trivial)

theorem serve_kept (call : Federation.Call) (scene : Scene Stores) (undone : ¬call.Done (Scene.serve backends call scene).1) :
    (Scene.serve backends call scene).2 = scene := by
  cases call with
  | config call => exact congrArg (fun records => { scene with records := records }) (config_kept call scene.records undone)
  | backend backend command =>
      have stays : (backends.serve backend command scene.stores).2 = scene.stores := by
        by_cases acts : (Federation.Call.backend backend command).Acts
        · apply backends.refused
          exact Bool.eq_false_iff.mpr fun served => undone ⟨acts, served⟩
        · exact backends.looked backend command scene.stores acts
      exact congrArg (fun stores => { scene with stores := stores }) stays

section Kept
variable (start scene : Scene Stores) (untouched : Undone around start scene)
include untouched

theorem next_untouched : Undone around start (scene.next around) where
  done := untouched.done
  stores := untouched.stores
  records := congrArg (fun records => records.without (around.removed scene.asked)) untouched.records
  out := untouched.out

theorem answer_untouched (call : Federation.Call) (undone : ¬call.Done (Scene.answer backends around call scene).1) :
    Undone around start (Scene.answer backends around call scene).2 := by
  rw [Scene.answer] at undone ⊢
  by_cases fails : around.fails scene.asked = true
  · rw [if_pos fails]
    exact next_untouched around start scene untouched
  · rw [if_neg fails] at undone ⊢
    rw [Scene.noting] at undone ⊢
    by_cases did : call.Done (Scene.serve backends call (scene.next around)).1
    · rw [if_pos did] at undone
      exact absurd did undone
    · rw [if_neg did, serve_kept backends call _ did]
      exact next_untouched around start scene untouched

theorem perform_untouched (call : Local.Call) (undone : ¬call.Done (Scene.perform backends around call scene).1) :
    Undone around start (Scene.perform backends around call scene).2 := by
  cases call with
  | stack call => exact answer_untouched backends around start scene untouched call undone
  | prepareOut => exact untouched
  | commitOut bytes =>
      have refused : around.committed ≠ .ok () := undone
      rw [Scene.perform, if_neg refused]
      exact untouched

theorem settles_run {Value : Type} (operation : Local.Operation Value) (settles : Local.Settles Value operation)
    (failed : (run (Scene.perform backends around) operation scene).1.isOk = false) :
    Undone around start (run (Scene.perform backends around) operation scene).2 := by
  obtain ⟨acted, succeeds, keeps⟩ := heeds_run (Scene.perform backends around) Local.Moves
    (fun acted scene => acted = false → Undone around start scene)
    (fun acted call scene after here moved => by
      cases moved with
      | undone _ _ still => exact fun _ => perform_untouched backends around start scene (here rfl) call still
      | done _ _ did => exact fun same => Bool.noConfusion same)
    Succeeds operation false scene (fun _ => untouched) settles
  apply keeps
  apply Bool.eq_false_iff.mpr
  intro did
  rw [succeeds did] at failed
  cases failed

end Kept
end Running

section Lookups
variable (around : Around) (offers : BackendRef → Option Offer) (records : Records)

def Around.finds (asked : Nat) (key : NamespaceKey) : Option Namespace :=
  if around.fails asked then none else (around.left records (asked + 1)).found key

def Around.bound (asked : Nat) (address : Address) : Option Locator :=
  if around.fails asked then none else (around.left records (asked + 1)).bindings[address]?

inductive Around.Resolves (address : Address) (need : Capability) : BackendRef → Target → Nat → Prop where
  | plain (nameSpace : Namespace) (offer : Offer) (found : around.finds records 0 (Federation.namespaceKey address.scope) = some nameSpace)
      (registered : offers nameSpace.effectiveMount = some offer) (able : need ∈ offer.capabilities)
      (unneeded : offer.requiresBinding = false) : Resolves address need nameSpace.effectiveMount ⟨address, none⟩ 1
  | bound (nameSpace : Namespace) (offer : Offer) (locator : Locator)
      (found : around.finds records 0 (Federation.namespaceKey address.scope) = some nameSpace)
      (registered : offers nameSpace.effectiveMount = some offer) (able : need ∈ offer.capabilities)
      (needed : offer.requiresBinding = true) (bound : around.bound records 1 address = some locator) :
      Resolves address need nameSpace.effectiveMount ⟨address, some locator⟩ 2

end Lookups

section Exact
variable {Stores : Type} (backends : Backends Stores) (around : Around) (offers : BackendRef → Option Offer) (records : Records)
  (stores : Stores)

def Scene.looked (asked : Nat) : Scene Stores := ⟨around.left records asked, stores, none, asked, []⟩

theorem run_or_else_ok {Value : Type} (found : Option Value) (refused : StorageError) (scene after : Scene Stores) (value : Value) :
    run (Scene.answer backends around) (orElse found refused) scene = (.ok value, after) ↔ found = some value ∧ after = scene := by
  cases found with
  | none => simp [orElse]
  | some other => simp [orElse, eq_comm]

omit records stores in
theorem answer_look (call : ConfigCall) (scene : Scene Stores) (still : ¬(Federation.Call.config call).Acts)
    (kept : (InMemoryConfig.perform call (scene.next around).records).2 = (scene.next around).records) :
    Scene.answer backends around (.config call) scene =
      (if around.fails scene.asked then .error .unavailable else (InMemoryConfig.perform call (scene.next around).records).1,
        scene.next around) := by
  have unmade : ∀ answer, ¬(Federation.Call.config call).Done answer := fun answer did => still did.1
  rw [Scene.answer]
  by_cases fails : around.fails scene.asked = true
  · rw [if_pos fails, if_pos fails]
  · rw [if_neg fails, if_neg fails, Scene.noting, if_neg (unmade _)]
    exact congrArg (fun records => (_, { scene.next around with records := records })) kept

theorem run_config_ok (call : ConfigCall) (asked : Nat) (still : ¬(Federation.Call.config call).Acts)
    (kept : (InMemoryConfig.perform call (around.left records (asked + 1))).2 = around.left records (asked + 1))
    (after : Scene Stores) (value : call.Value) :
    run (Scene.answer backends around) (config call) (Scene.looked around records stores asked) = (.ok value, after) ↔
      around.fails asked = false ∧ (InMemoryConfig.perform call (around.left records (asked + 1))).1 = .ok value ∧
        after = Scene.looked around records stores (asked + 1) := by
  rw [config, run_ask_last, answer_look backends around call (Scene.looked around records stores asked) still kept, Prod.mk.injEq]
  change (if around.fails asked then _ else (InMemoryConfig.perform call (around.left records (asked + 1))).1) = _ ∧
    Scene.looked around records stores (asked + 1) = after ↔ _
  by_cases fails : around.fails asked = true
  · simp [fails]
  · simp [fails, eq_comm]

theorem run_present_ok {Value : Type} (lookup : Federation.Operation (Option Value)) (scene next : Scene Stores) (fails : Bool)
    (present : Option Value)
    (ran : ∀ found after, run (Scene.answer backends around) lookup scene = (.ok found, after) ↔
      fails = false ∧ present = found ∧ after = next) (value : Value) (after : Scene Stores) :
    run (Scene.answer backends around) (lookup >>= fun found => orElse found .notFound) scene = (.ok value, after) ↔
      (if fails then none else present) = some value ∧ after = next := by
  rw [run_bind_ok]
  constructor
  · intro goes
    obtain ⟨found, middle, looked, taken⟩ := goes
    obtain ⟨sound, rfl, rfl⟩ := (ran found middle).mp looked
    obtain ⟨rfl, rfl⟩ := (run_or_else_ok backends around present .notFound middle after value).mp taken
    rw [if_neg (Bool.eq_false_iff.mp sound)]
    exact ⟨rfl, rfl⟩
  · intro goes
    obtain ⟨found, same⟩ := goes
    subst same
    by_cases struck : fails = true
    · rw [if_pos struck] at found
      cases found
    · rw [if_neg struck] at found
      exact ⟨some value, after, (ran _ _).mpr ⟨Bool.eq_false_iff.mpr struck, found, rfl⟩, rfl⟩

theorem run_found_ok (asked : Nat) (key : NamespaceKey) (after : Scene Stores) (nameSpace : Namespace) :
    run (Scene.answer backends around) (config (.nameSpace key) >>= fun found => orElse found .notFound)
        (Scene.looked around records stores asked) = (.ok nameSpace, after) ↔
      around.finds records asked key = some nameSpace ∧ after = Scene.looked around records stores (asked + 1) := by
  apply run_present_ok
  intro found after
  rw [run_config_ok backends around records stores (.nameSpace key) asked id rfl]
  exact and_congr_right fun _ => and_congr_left fun _ => iff_of_eq (Except.ok.injEq _ _)

theorem run_bound_ok (asked : Nat) (address : Address) (after : Scene Stores) (locator : Locator) :
    run (Scene.answer backends around) (config (.binding address) >>= fun bound => orElse bound .notFound)
        (Scene.looked around records stores asked) = (.ok locator, after) ↔
      around.bound records asked address = some locator ∧ after = Scene.looked around records stores (asked + 1) := by
  apply run_present_ok
  intro found after
  rw [run_config_ok backends around records stores (.binding address) asked id rfl]
  exact and_congr_right fun _ => and_congr_left fun _ => iff_of_eq (Except.ok.injEq _ _)

theorem run_mounted_ok (scope : Scope) (backend : BackendRef) (offer : Offer) (after : Scene Stores) :
    run (Scene.answer backends around) (mounted offers scope) (Scene.looked around records stores 0) = (.ok (backend, offer), after) ↔
      ∃ nameSpace, around.finds records 0 (Federation.namespaceKey scope) = some nameSpace ∧
        offers nameSpace.effectiveMount = some offer ∧ backend = nameSpace.effectiveMount ∧
        after = Scene.looked around records stores 1 := by
  rw [mounted, ← Prog.bind_assoc, run_bind_ok]
  constructor
  · intro goes
    obtain ⟨nameSpace, middle, found, rest⟩ := goes
    obtain ⟨finds, rfl⟩ := (run_found_ok backends around records stores 0 _ middle nameSpace).mp found
    obtain ⟨taken, last, registered, same⟩ := (run_bind_ok _ _ _ _ _ _).mp rest
    obtain ⟨known, rfl⟩ := (run_or_else_ok backends around _ .notFound _ last taken).mp registered
    cases same
    exact ⟨nameSpace, finds, known, rfl, rfl⟩
  · intro goes
    obtain ⟨nameSpace, finds, known, mount, same⟩ := goes
    subst mount same
    refine ⟨nameSpace, _, (run_found_ok backends around records stores 0 _ _ nameSpace).mpr ⟨finds, rfl⟩, ?_⟩
    rw [run_bind_ok]
    exact ⟨offer, _, (run_or_else_ok backends around _ .notFound _ _ offer).mpr ⟨known, rfl⟩, rfl⟩

theorem run_able_ok (offer : Offer) (need : Capability) (scene after : Scene Stores) (done : Unit) :
    run (Scene.answer backends around) (require offer [need]) scene = (.ok done, after) ↔ need ∈ offer.capabilities ∧ after = scene := by
  rw [require, run_ensure, Effects.Tx.ensure_ok, eq_comm (a := scene)]
  simp

theorem run_resolve_ok (address : Address) (need : Capability) (backend : BackendRef) (target : Target) (after : Scene Stores) :
    run (Scene.answer backends around) (resolve offers address [need]) (Scene.looked around records stores 0) =
        (.ok (backend, target), after) ↔
      ∃ asked, around.Resolves offers records address need backend target asked ∧ after = Scene.looked around records stores asked := by
  rw [resolve, run_bind_ok]
  constructor
  · intro goes
    obtain ⟨⟨mount, offer⟩, middle, mounted, rest⟩ := goes
    obtain ⟨nameSpace, finds, known, rfl, rfl⟩ := (run_mounted_ok backends around offers records stores _ mount offer middle).mp mounted
    obtain ⟨done, same, required, located⟩ := (run_bind_ok _ _ _ _ _ _).mp rest
    obtain ⟨able, rfl⟩ := (run_able_ok backends around offer need _ same done).mp required
    obtain ⟨found, last, looked, ended⟩ := (run_bind_ok _ _ _ _ _ _).mp located
    cases ended
    rw [locator] at looked
    by_cases needed : offer.requiresBinding = true
    · rw [if_pos needed, ← Prog.bind_assoc] at looked
      obtain ⟨locator, final, bound, ended⟩ := (run_bind_ok _ _ _ _ _ _).mp looked
      cases ended
      obtain ⟨held, rfl⟩ := (run_bound_ok backends around records stores 1 address _ locator).mp bound
      exact ⟨2, .bound nameSpace offer locator finds known able needed held, rfl⟩
    · rw [if_neg needed] at looked
      cases looked
      exact ⟨1, .plain nameSpace offer finds known able (Bool.eq_false_iff.mpr needed), rfl⟩
  · intro goes
    obtain ⟨asked, resolves, same⟩ := goes
    subst same
    cases resolves with
    | plain nameSpace offer finds known able unneeded =>
        refine ⟨_, _, (run_mounted_ok backends around offers records stores _ _ offer _).mpr ⟨nameSpace, finds, known, rfl, rfl⟩, ?_⟩
        dsimp only
        rw [run_bind_ok]
        refine ⟨(), _, (run_able_ok backends around offer need _ _ ()).mpr ⟨able, rfl⟩, ?_⟩
        rw [locator, if_neg (Bool.eq_false_iff.mp unneeded)]
        rfl
    | bound nameSpace offer locator finds known able needed bound =>
        refine ⟨_, _, (run_mounted_ok backends around offers records stores _ _ offer _).mpr ⟨nameSpace, finds, known, rfl, rfl⟩, ?_⟩
        dsimp only
        rw [run_bind_ok]
        refine ⟨(), _, (run_able_ok backends around offer need _ _ ()).mpr ⟨able, rfl⟩, ?_⟩
        rw [Federation.locator, if_pos needed, ← Prog.bind_assoc, run_bind_ok]
        refine ⟨some locator, Scene.looked around records stores 2, ?_, rfl⟩
        rw [run_bind_ok]
        exact ⟨locator, _, (run_bound_ok backends around records stores 1 address _ locator).mpr ⟨bound, rfl⟩, rfl⟩

theorem run_served_ok (backend : BackendRef) (command : Command) (asked : Nat) (after : Scene Stores) (value : command.Answer) :
    run (Scene.answer backends around) (ask (.backend backend command)) (Scene.looked around records stores asked) = (.ok value, after) ↔
      around.fails asked = false ∧ (backends.serve backend command stores).1 = .ok value ∧
        after = ⟨around.left records (asked + 1), (backends.serve backend command stores).2, none, asked + 1,
          if (Federation.Call.backend backend command).Acts then [.backend backend command] else []⟩ := by
  rw [run_ask_last, Scene.answer]
  by_cases fails : around.fails asked = true
  · rw [show (Scene.looked around records stores asked).asked = asked from rfl, if_pos fails]
    simp [fails]
  · rw [show (Scene.looked around records stores asked).asked = asked from rfl, if_neg fails, Scene.noting]
    have served : Scene.serve backends (.backend backend command) ((Scene.looked around records stores asked).next around) =
        ((backends.serve backend command stores).1,
          ⟨around.left records (asked + 1), (backends.serve backend command stores).2, none, asked + 1, []⟩) := rfl
    rw [served]
    have sound : around.fails asked = false := Bool.eq_false_iff.mpr fails
    cases (backends.serve backend command stores).1 with
    | error error =>
        rw [if_neg fun did => Bool.noConfusion did.2]
        simp
    | ok served =>
        by_cases acts : (Federation.Call.backend backend command).Acts
        · rw [if_pos acts, if_pos ⟨acts, rfl⟩, Prod.mk.injEq]
          exact ⟨fun ⟨same, there⟩ => ⟨sound, same, there.symm⟩, fun ⟨_, same, there⟩ => ⟨same, there.symm⟩⟩
        · rw [if_neg acts, if_neg fun did => acts did.1, Prod.mk.injEq]
          exact ⟨fun ⟨same, there⟩ => ⟨sound, same, there.symm⟩, fun ⟨_, same, there⟩ => ⟨same, there.symm⟩⟩

theorem run_resolved_ok {Value : Type} (address : Address) (need : Capability) (next : BackendRef × Target → Federation.Operation Value)
    (after : Scene Stores) (value : Value) :
    run (Scene.answer backends around) (resolve offers address [need] >>= next) (Scene.looked around records stores 0) =
        (.ok value, after) ↔
      ∃ backend target asked, around.Resolves offers records address need backend target asked ∧
        run (Scene.answer backends around) (next (backend, target)) (Scene.looked around records stores asked) = (.ok value, after) := by
  rw [run_bind_ok]
  constructor
  · intro goes
    obtain ⟨⟨backend, target⟩, middle, resolved, rest⟩ := goes
    obtain ⟨asked, resolves, rfl⟩ := (run_resolve_ok backends around offers records stores address need backend target middle).mp resolved
    exact ⟨backend, target, asked, resolves, rest⟩
  · intro goes
    obtain ⟨backend, target, asked, resolves, rest⟩ := goes
    exact ⟨(backend, target), _, (run_resolve_ok backends around offers records stores address need backend target _).mpr
      ⟨asked, resolves, rfl⟩, rest⟩

theorem run_write_ok (address : Address) (value : SecretValue) (written : Storage.Written) (after : Scene Stores) :
    run (Scene.answer backends around) (Federation.write offers (.unbound address) value) (Scene.looked around records stores 0) =
        (.ok written, after) ↔
      ∃ backend target asked, around.Resolves offers records address .write backend target asked ∧ around.fails asked = false ∧
        (backends.serve backend (.write target value) stores).1 = .ok written ∧
        after = ⟨around.left records (asked + 1), (backends.serve backend (.write target value) stores).2, none, asked + 1,
          [.backend backend (.write target value)]⟩ := by
  rw [Federation.write, run_resolved_ok]
  exact exists_congr fun backend => exists_congr fun target => exists_congr fun asked => and_congr_right fun _ =>
    run_served_ok backends around records stores backend (.write target value) asked after written

theorem run_read_ok (address : Address) (revealed : Storage.Revealed) (after : Scene Stores) :
    run (Scene.answer backends around) (Federation.read offers (.unbound address)) (Scene.looked around records stores 0) =
        (.ok revealed, after) ↔
      ∃ backend target asked, around.Resolves offers records address .read backend target asked ∧ around.fails asked = false ∧
        (backends.serve backend (.read target) stores).1 = .ok revealed ∧ after = Scene.looked around records stores (asked + 1) := by
  rw [Federation.read, run_resolved_ok]
  refine exists_congr fun backend => exists_congr fun target => exists_congr fun asked => and_congr_right fun _ => ?_
  have served := run_served_ok backends around records stores backend (.read target) asked after revealed
  rw [backends.looked backend (.read target) stores id] at served
  exact served

end Exact

namespace Local

def putFirst (opened : Option (BackendRef → Option Offer)) (args : PutArgs) : Operation (Address × Storage.Written) := do
  Prog.ensure (args.value.isNone && args.valueFlag.isNone) (.refused
    "put never takes a value on the command line; pipe it on stdin, type it at the prompt, or pass --file with a mode-0600 file")
  let address ← address args.nameSpace args.name
  let backends ← stack opened
  let bytes ← Prog.lift ((ValueInput.read args.source args.raw maxValueBytes).mapError fun refusal => .refused refusal.text)
  let value ← storage (Prog.lift (SecretValue.new bytes))
  let written ← storage (Authorized.perform backends (.write (.unbound address) value))
  pure (address, written)

def readFirst (opened : Option (BackendRef → Option Offer)) (nameSpace name : String) : Operation (Address × Storage.Revealed) := do
  let address ← address nameSpace name
  let backends ← stack opened
  out .prepareOut id
  let revealed ← storage (Authorized.perform backends (.read (.unbound address)))
  out (.commitOut revealed.value.bytes) id
  pure (address, revealed)

section Split
variable (opened : Option (BackendRef → Option Offer))

theorem put_split (args : PutArgs) :
    put opened args = putFirst opened args >>= fun stored =>
      mountOf opened stored.1.scope >>= fun backend => pure (putReport stored.1 stored.2 backend) := by
  simp only [put, putFirst, store, Prog.bind_assoc, Prog.pure_done, Prog.done_bind]

theorem read_split (nameSpace name path : String) :
    Local.read opened nameSpace name path = readFirst opened nameSpace name >>= fun got =>
      mountOf opened got.1.scope >>= fun backend => pure (readReport got.1 path got.2.version backend) := by
  simp only [Local.read, readFirst, Prog.bind_assoc, Prog.pure_done, Prog.done_bind]

theorem put_first_settles (args : PutArgs) : Settles _ (putFirst opened args) := by
  apply looks_ensure
  intro _
  apply looks_address
  intro address
  apply looks_stack
  intro backends
  apply looks_lift
  intro bytes
  apply looks_storage _ _ (Prog.asks_lift _ _)
  intro value
  exact settles_storage _ _ _ _ (authorized_settles backends (.write (.unbound address) value))

theorem read_first_settles (nameSpace name : String) : Settles _ (readFirst opened nameSpace name) := by
  apply looks_address
  intro address
  apply looks_stack
  intro backends
  apply looks_prepare
  intro _
  have looks : (Authorized.perform backends (.read (.unbound address))).Asks fun call => ¬call.Acts := by
    apply Prog.asks_bind _ _ _ (Prog.asks_lift _ _)
    intro _
    exact walk_perform backends _ _ (asks_walk _) (fun _ => id) (fun _ => id) (.read (.unbound address)) fun _ _ => id
  apply looks_storage _ _ looks
  intro revealed answer
  cases answer with
  | error refused => exact ⟨false, .undone (.commitOut _) _ (fun did => by cases did), fun acted => absurd acted Bool.false_ne_true⟩
  | ok made => exact ⟨true, .done (.commitOut _) _ rfl, fun _ => rfl⟩

end Split

section Mounts
variable {Stores : Type} (backends : Backends Stores) (around : Around) (offers : BackendRef → Option Offer) (scope : Scope)
  (scene : Scene Stores)

def mountFound : Except StorageError (Option Namespace) → Except Failure BackendRef
  | .error error => .error (.storage error none)
  | .ok none => .error (.storage .notFound none)
  | .ok (some nameSpace) => .ok nameSpace.effectiveMount

theorem run_mount_of :
    run (Scene.perform backends around) (mountOf (some offers) scope) scene =
      (mountFound (if around.fails scene.asked then .error .unavailable
        else .ok ((scene.next around).records.found (Federation.namespaceKey scope))), scene.next around) := by
  have looked := answer_look backends around (.nameSpace (Federation.namespaceKey scope)) scene id rfl
  have step : Scene.perform backends around (.stack (.config (.nameSpace (Federation.namespaceKey scope)))) scene =
      (if around.fails scene.asked then .error .unavailable
        else .ok ((scene.next around).records.found (Federation.namespaceKey scope)), scene.next around) := looked
  change run _ (Prog.ask (Local.Call.stack (.config (.nameSpace (Federation.namespaceKey scope)))) _) scene = _
  rw [run_ask, step]
  dsimp only
  by_cases fails : around.fails scene.asked = true
  · rw [if_pos fails]
    rfl
  · rw [if_neg fails]
    cases (scene.next around).records.found (Federation.namespaceKey scope) with
    | none => rfl
    | some nameSpace => rfl

end Mounts
end Local

section Effects
variable {Stores : Type} (backends : Backends Stores) (around : Around) (records : Records) (stores : Stores)

theorem run_storage_ok {Value : Type} (operation : Federation.Operation Value) (scene after : Scene Stores) (value : Value) :
    run (Scene.perform backends around) (Local.storage operation) scene = (.ok value, after) ↔
      run (Scene.answer backends around) operation scene = (.ok value, after) := by
  induction operation generalizing scene with
  | done other => simp [Local.storage, Prog.embed]
  | stop error => simp [Local.storage, Prog.embed]
  | ask call next ih => exact ih _ _

theorem run_lift_ok {Error Value : Type} (result : Except Error Value) (refuse : Error → Local.Failure) (scene after : Scene Stores)
    (value : Value) :
    run (Scene.perform backends around) (Prog.lift (result.mapError refuse)) scene = (.ok value, after) ↔
      result = .ok value ∧ scene = after := by
  cases result with
  | error error => simp [Except.mapError, Prog.lift]
  | ok other => simp [Except.mapError, Prog.lift]

theorem run_stack_ok (opened : Option (BackendRef → Option Offer)) (offers : BackendRef → Option Offer) (scene after : Scene Stores) :
    run (Scene.perform backends around) (Local.stack opened) scene = (.ok offers, after) ↔ opened = some offers ∧ scene = after := by
  cases opened with
  | none => simp [Local.stack]
  | some other => simp [Local.stack]

structure Effected (asked : Nat) (scene : Scene Stores) : Prop where
  records : scene.records = around.left records asked
  asked : scene.asked = asked
  touched : ¬(scene.done = [] ∧ scene.out = none)

-- The value that `put` is given gets to its backend after this many lookups, and
-- is taken there.
structure Around.Puts (offers : BackendRef → Option Offer) (args : Local.PutArgs) (address : Address) (asked : Nat) : Prop where
  plain : args.value = none ∧ args.valueFlag = none
  parsed : Address.parse Local.localName args.nameSpace Local.localName args.name = .ok address
  stored : ∃ bytes value backend target written, ValueInput.read args.source args.raw maxValueBytes = .ok bytes ∧
    SecretValue.new bytes = .ok value ∧ around.Resolves offers records address .write backend target asked ∧
    around.fails asked = false ∧ (backends.serve backend (.write target value) stores).1 = .ok written

structure Around.Fetches (offers : BackendRef → Option Offer) (nameSpace name : String) (address : Address) (asked : Nat) : Prop where
  parsed : Address.parse Local.localName nameSpace Local.localName name = .ok address
  prepared : around.prepared = .ok ()
  fetched : ∃ backend target revealed, around.Resolves offers records address .read backend target asked ∧
    around.fails asked = false ∧ (backends.serve backend (.read target) stores).1 = .ok revealed
  committed : around.committed = .ok ()

inductive Around.ReportLost (opened : Option (BackendRef → Option Offer)) : Local.Command → Prop where
  | put (args : Local.PutArgs) (offers : BackendRef → Option Offer) (address : Address) (asked : Nat) (usable : opened = some offers)
      (puts : around.Puts backends records stores offers args address asked)
      (unfound : around.finds records (asked + 1) (Federation.namespaceKey address.scope) = none) : ReportLost opened (.put args)
  | read (name nameSpace path : String) (offers : BackendRef → Option Offer) (address : Address) (asked : Nat)
      (usable : opened = some offers) (fetches : around.Fetches backends records stores offers nameSpace name address asked)
      (unfound : around.finds records (asked + 1) (Federation.namespaceKey address.scope) = none) :
      ReportLost opened (.read name nameSpace path)

theorem put_first_ok (opened : Option (BackendRef → Option Offer)) (args : Local.PutArgs) (address : Address) (written : Storage.Written)
    (after : Scene Stores)
    (ran : run (Scene.perform backends around) (Local.putFirst opened args) (Scene.looked around records stores 0) =
      (.ok (address, written), after)) :
    ∃ offers asked, opened = some offers ∧ around.Puts backends records stores offers args address asked ∧
      Effected around records (asked + 1) after := by
  obtain ⟨_, scene, ensured, ran⟩ := (run_bind_ok _ _ _ _ _ _).mp ran
  rw [run_ensure, Effects.Tx.ensure_ok, Bool.and_eq_true, Option.isNone_iff_eq_none, Option.isNone_iff_eq_none] at ensured
  obtain ⟨plain, rfl⟩ := ensured
  obtain ⟨named, scene, parsing, ran⟩ := (run_bind_ok _ _ _ _ _ _).mp ran
  obtain ⟨parsed, rfl⟩ := (run_lift_ok backends around _ _ _ scene named).mp parsing
  obtain ⟨offers, scene, opening, ran⟩ := (run_bind_ok _ _ _ _ _ _).mp ran
  obtain ⟨usable, rfl⟩ := (run_stack_ok backends around opened offers _ scene).mp opening
  obtain ⟨bytes, scene, reading, ran⟩ := (run_bind_ok _ _ _ _ _ _).mp ran
  obtain ⟨supplied, rfl⟩ := (run_lift_ok backends around _ _ _ scene bytes).mp reading
  obtain ⟨value, scene, taking, ran⟩ := (run_bind_ok _ _ _ _ _ _).mp ran
  rw [run_storage_ok, run_lift, Prod.mk.injEq] at taking
  obtain ⟨taken, rfl⟩ := taking
  obtain ⟨outcome, scene, writing, ended⟩ := (run_bind_ok _ _ _ _ _ _).mp ran
  cases ended
  rw [run_storage_ok, perform_local offers (.write (.unbound address) value) (address_local address args.nameSpace args.name parsed)]
    at writing
  obtain ⟨backend, target, asked, resolves, sound, stored, rfl⟩ :=
    (run_write_ok backends around offers records stores address value written after).mp writing
  exact ⟨offers, asked, usable, ⟨plain, parsed, bytes, value, backend, target, written, supplied, taken, resolves, sound, stored⟩,
    rfl, rfl, fun untouched => List.cons_ne_nil _ _ untouched.1⟩

theorem put_first_stores (offers : BackendRef → Option Offer) (args : Local.PutArgs) (address : Address) (asked : Nat)
    (puts : around.Puts backends records stores offers args address asked) :
    ∃ written after, run (Scene.perform backends around) (Local.putFirst (some offers) args) (Scene.looked around records stores 0) =
      (.ok (address, written), after) ∧ Effected around records (asked + 1) after := by
  obtain ⟨bytes, value, backend, target, written, supplied, taken, resolves, sound, stored⟩ := puts.stored
  have wrote := (run_write_ok backends around offers records stores address value written _).mpr
    ⟨backend, target, asked, resolves, sound, stored, rfl⟩
  refine ⟨written, ⟨around.left records (asked + 1), (backends.serve backend (.write target value) stores).2, none, asked + 1,
    [.backend backend (.write target value)]⟩, ?_, rfl, rfl, fun untouched => List.cons_ne_nil _ _ untouched.1⟩
  rw [Local.putFirst, puts.plain.1, puts.plain.2, Local.address, puts.parsed, supplied]
  change run _ (Local.storage (Prog.lift (SecretValue.new bytes)) >>= fun value =>
    Local.storage (Authorized.perform offers (.write (.unbound address) value)) >>= fun written => pure (address, written)) _ = _
  rw [taken, run_bind_ok]
  refine ⟨value, _, rfl, ?_⟩
  rw [run_bind_ok]
  refine ⟨written, _, ?_, rfl⟩
  rw [run_storage_ok, perform_local offers (.write (.unbound address) value) (address_local address args.nameSpace args.name puts.parsed)]
  exact wrote

theorem run_commit_ok (bytes : Bytes) (scene after : Scene Stores) (done : Unit) :
    run (Scene.perform backends around) (Local.out (.commitOut bytes) id) scene = (.ok done, after) ↔
      around.committed = .ok () ∧ after = { scene with out := some bytes } := by
  rw [Local.out, run_ask, Scene.perform]
  cases around.committed with
  | error refused => simp [Except.mapError, Prog.lift]
  | ok made => simp [Except.mapError, Prog.lift, eq_comm]

theorem run_prepare_ok (scene after : Scene Stores) (done : Unit) :
    run (Scene.perform backends around) (Local.out .prepareOut id) scene = (.ok done, after) ↔
      around.prepared = .ok () ∧ after = scene := by
  rw [Local.out, run_ask, Scene.perform]
  cases around.prepared with
  | error refused => simp [Except.mapError, Prog.lift]
  | ok made => simp [Except.mapError, Prog.lift, eq_comm]

theorem read_first_ok (opened : Option (BackendRef → Option Offer)) (nameSpace name : String) (address : Address)
    (revealed : Storage.Revealed) (after : Scene Stores)
    (ran : run (Scene.perform backends around) (Local.readFirst opened nameSpace name) (Scene.looked around records stores 0) =
      (.ok (address, revealed), after)) :
    ∃ offers asked, opened = some offers ∧ around.Fetches backends records stores offers nameSpace name address asked ∧
      Effected around records (asked + 1) after := by
  obtain ⟨named, scene, parsing, ran⟩ := (run_bind_ok _ _ _ _ _ _).mp ran
  obtain ⟨parsed, rfl⟩ := (run_lift_ok backends around _ _ _ scene named).mp parsing
  obtain ⟨offers, scene, opening, ran⟩ := (run_bind_ok _ _ _ _ _ _).mp ran
  obtain ⟨usable, rfl⟩ := (run_stack_ok backends around opened offers _ scene).mp opening
  obtain ⟨_, scene, preparing, ran⟩ := (run_bind_ok _ _ _ _ _ _).mp ran
  obtain ⟨prepared, rfl⟩ := (run_prepare_ok backends around _ scene _).mp preparing
  obtain ⟨got, scene, reading, ran⟩ := (run_bind_ok _ _ _ _ _ _).mp ran
  obtain ⟨_, last, committing, ended⟩ := (run_bind_ok _ _ _ _ _ _).mp ran
  cases ended
  rw [run_storage_ok, perform_local offers (.read (.unbound address)) (address_local address nameSpace name parsed)] at reading
  obtain ⟨backend, target, asked, resolves, sound, fetched, rfl⟩ :=
    (run_read_ok backends around offers records stores address revealed scene).mp reading
  obtain ⟨committed, rfl⟩ := (run_commit_ok backends around _ _ after _).mp committing
  exact ⟨offers, asked, usable, ⟨parsed, prepared, ⟨backend, target, revealed, resolves, sound, fetched⟩, committed⟩,
    rfl, rfl, fun untouched => Option.some_ne_none _ untouched.2⟩

theorem read_first_makes (offers : BackendRef → Option Offer) (nameSpace name : String) (address : Address) (asked : Nat)
    (fetches : around.Fetches backends records stores offers nameSpace name address asked) :
    ∃ revealed after, run (Scene.perform backends around) (Local.readFirst (some offers) nameSpace name)
      (Scene.looked around records stores 0) = (.ok (address, revealed), after) ∧ Effected around records (asked + 1) after := by
  obtain ⟨backend, target, revealed, resolves, sound, fetched⟩ := fetches.fetched
  have got := (run_read_ok backends around offers records stores address revealed _).mpr
    ⟨backend, target, asked, resolves, sound, fetched, rfl⟩
  refine ⟨revealed, { Scene.looked around records stores (asked + 1) with out := some revealed.value.bytes }, ?_, rfl, rfl,
    fun untouched => Option.some_ne_none _ untouched.2⟩
  rw [Local.readFirst, Local.address, fetches.parsed]
  change run _ (Local.out .prepareOut id >>= fun _ => Local.storage (Authorized.perform offers (.read (.unbound address))) >>=
    fun revealed => Local.out (.commitOut revealed.value.bytes) id >>= fun _ => pure (address, revealed)) _ = _
  rw [run_bind_ok]
  refine ⟨(), _, (run_prepare_ok backends around _ _ ()).mpr ⟨fetches.prepared, rfl⟩, ?_⟩
  rw [run_bind_ok]
  refine ⟨revealed, Scene.looked around records stores (asked + 1), ?_, ?_⟩
  · rw [run_storage_ok, perform_local offers (.read (.unbound address)) (address_local address nameSpace name fetches.parsed)]
    exact got
  · rw [run_bind_ok]
    exact ⟨(), _, (run_commit_ok backends around _ _ _ ()).mpr ⟨fetches.committed, rfl⟩, rfl⟩

theorem report_run (offers : BackendRef → Option Offer) (scope : Scope) (report : BackendRef → Local.Report) (asked : Nat)
    (scene : Scene Stores) (effected : Effected around records asked scene) :
    ∃ ended, run (Scene.perform backends around) (Local.mountOf (some offers) scope >>= fun backend => pure (report backend)) scene =
        (ended, scene.next around) ∧
      (ended.isOk = false ↔ around.finds records asked (Federation.namespaceKey scope) = none) := by
  have left : (scene.next around).records = around.left records (asked + 1) := by
    rw [Scene.next, effected.records, effected.asked]
    rfl
  rw [run_bind, Effects.Tx.bind_run, Local.run_mount_of, left, effected.asked, Around.finds]
  by_cases fails : around.fails asked = true
  · rw [if_pos fails, if_pos fails]
    exact ⟨_, rfl, iff_of_true rfl rfl⟩
  · rw [if_neg fails, if_neg fails]
    cases (around.left records (asked + 1)).found (Federation.namespaceKey scope) with
    | none => exact ⟨_, rfl, iff_of_true rfl rfl⟩
    | some nameSpace => exact ⟨_, rfl, iff_of_false Bool.noConfusion (Option.some_ne_none _)⟩

theorem first_then_report {Value : Type} (first : Local.Operation Value) (settles : Local.Settles Value first)
    (opened : Option (BackendRef → Option Offer)) (scope : Value → Scope) (report : Value → BackendRef → Local.Report)
    (lost : Prop)
    (does : ∀ value after, run (Scene.perform backends around) first (Scene.looked around records stores 0) = (.ok value, after) →
      ∃ offers asked, opened = some offers ∧ Effected around records (asked + 1) after ∧
        (around.finds records (asked + 1) (Federation.namespaceKey (scope value)) = none → lost))
    (loses : lost → ∃ offers asked value after, opened = some offers ∧
      run (Scene.perform backends around) first (Scene.looked around records stores 0) = (.ok value, after) ∧
      Effected around records (asked + 1) after ∧ around.finds records (asked + 1) (Federation.namespaceKey (scope value)) = none)
    (result : Except Local.Failure Local.Report × Scene Stores)
    (ran : run (Scene.perform backends around) (first >>= fun value =>
      Local.mountOf opened (scope value) >>= fun backend => pure (report value backend)) (Scene.start records stores) = result) :
    (result.1.isOk = false → Undone around (Scene.start records stores) result.2) ↔ ¬lost := by
  have begins : Undone around (Scene.start records stores) (Scene.looked around records stores 0) := ⟨rfl, rfl, rfl, rfl⟩
  change run _ _ (Scene.looked around records stores 0) = result at ran
  rw [run_bind, Effects.Tx.bind_run] at ran
  constructor
  · intro untouched isLost
    obtain ⟨offers, asked, value, after, usable, goes, effected, unfound⟩ := loses isLost
    rw [goes, usable] at ran
    obtain ⟨ended, reported, fails⟩ := report_run backends around records offers (scope value) (report value) (asked + 1) after effected
    rw [← ran] at untouched
    dsimp only at untouched
    rw [reported] at untouched
    have kept := untouched (fails.mpr unfound)
    exact effected.touched ⟨kept.done, kept.out⟩
  · intro kept failed
    cases goes : run (Scene.perform backends around) first (Scene.looked around records stores 0) with
    | mk ended after =>
        rw [goes] at ran
        cases ended with
        | error failure =>
            subst ran
            have settled := settles_run backends around _ _ begins first settles
            rw [goes] at settled
            exact settled rfl
        | ok value =>
            obtain ⟨offers, asked, usable, effected, unfound⟩ := does value after goes
            rw [usable] at ran
            obtain ⟨last, reported, fails⟩ := report_run backends around records offers (scope value) (report value) (asked + 1) after effected
            dsimp only at ran
            rw [reported] at ran
            subst ran
            exact absurd (unfound (fails.mp failed)) kept

theorem put_untouched (opened : Option (BackendRef → Option Offer)) (args : Local.PutArgs) :
    ((run (Scene.perform backends around) (Local.put opened args) (Scene.start records stores)).1.isOk = false →
      Undone around (Scene.start records stores) (run (Scene.perform backends around) (Local.put opened args) (Scene.start records stores)).2) ↔
    ¬around.ReportLost backends records stores opened (.put args) := by
  apply first_then_report backends around records stores (Local.putFirst opened args) (Local.put_first_settles opened args) opened
    (fun stored => stored.1.scope) (fun stored backend => Local.putReport stored.1 stored.2 backend)
  · intro (address, written) after ran
    obtain ⟨offers, asked, usable, puts, effected⟩ := put_first_ok backends around records stores opened args address written after ran
    exact ⟨offers, asked, usable, effected, fun unfound => .put args offers address asked usable puts unfound⟩
  · intro lost
    cases lost with
    | put _ offers address asked usable puts unfound =>
        obtain ⟨written, after, ran, effected⟩ := put_first_stores backends around records stores offers args address asked puts
        subst usable
        exact ⟨offers, asked, (address, written), after, rfl, ran, effected, unfound⟩
  · rw [Local.put_split]

theorem read_untouched (opened : Option (BackendRef → Option Offer)) (name nameSpace path : String) :
    ((run (Scene.perform backends around) (Local.read opened nameSpace name path) (Scene.start records stores)).1.isOk = false →
      Undone around (Scene.start records stores)
        (run (Scene.perform backends around) (Local.read opened nameSpace name path) (Scene.start records stores)).2) ↔
    ¬around.ReportLost backends records stores opened (.read name nameSpace path) := by
  apply first_then_report backends around records stores (Local.readFirst opened nameSpace name)
    (Local.read_first_settles opened nameSpace name) opened (fun got => got.1.scope)
    (fun got backend => Local.readReport got.1 path got.2.version backend)
  · intro (address, revealed) after ran
    obtain ⟨offers, asked, usable, fetches, effected⟩ :=
      read_first_ok backends around records stores opened nameSpace name address revealed after ran
    exact ⟨offers, asked, usable, effected, fun unfound => .read name nameSpace path offers address asked usable fetches unfound⟩
  · intro lost
    cases lost with
    | read _ _ _ offers address asked usable fetches unfound =>
        obtain ⟨revealed, after, ran, effected⟩ :=
          read_first_makes backends around records stores offers nameSpace name address asked fetches
        subst usable
        exact ⟨offers, asked, (address, revealed), after, rfl, ran, effected, unfound⟩
  · rw [Local.read_split]

theorem command_untouched (opened : Option (BackendRef → Option Offer)) (command : Local.Command) :
    ((run (Scene.perform backends around) (command.perform opened) (Scene.start records stores)).1.isOk = false →
      Undone around (Scene.start records stores)
        (run (Scene.perform backends around) (command.perform opened) (Scene.start records stores)).2) ↔
    ¬around.ReportLost backends records stores opened command := by
  by_cases reports : command.Reports
  · have settled := settles_run backends around (Scene.start records stores) (Scene.start records stores) ⟨rfl, rfl, rfl, rfl⟩
      (command.perform opened) (Local.command_settles opened command reports)
    apply iff_of_true settled
    intro lost
    cases lost with
    | put args offers address asked usable puts unfound => exact reports
    | read name nameSpace path offers address asked usable fetches unfound => exact reports
  · cases command with
    | put args => exact put_untouched backends around records stores opened args
    | read name nameSpace path => exact read_untouched backends around records stores opened name nameSpace path
    | _ => exact absurd trivial reports

theorem exit_code_pos (error : StorageError) : Local.exitCode error ≠ 0 := by
  rw [Local.exitCode]
  omega

theorem finish_code (json : Bool) (command : String) (notes : List String) (outcome : Except Local.Failure Local.Report) :
    (Local.finish json command notes outcome).code ≠ 0 ↔ outcome.isOk = false := by
  cases outcome with
  | ok report => exact iff_of_false (fun failed => failed rfl) Bool.noConfusion
  | error failure =>
      cases failure with
      | denied denial => exact iff_of_true (exit_code_pos .denied) rfl
      | refused reason => exact iff_of_true (Nat.succ_ne_zero 1) rfl
      | storage error detail => exact iff_of_true (exit_code_pos error) rfl

theorem admitted_untouched (opening : Local.Opening) (cli : Local.Cli) (admitted : Local.denied cli = .ok ()) :
    ((cli.run (Scene.perform backends around) opening (Scene.start records stores)).1.code ≠ 0 →
      Undone around (Scene.start records stores) (cli.run (Scene.perform backends around) opening (Scene.start records stores)).2) ↔
    ¬around.ReportLost backends records stores opening.backends cli.command := by
  rw [Local.Cli.run, admitted]
  dsimp only
  rw [finish_code]
  exact command_untouched backends around records stores opening.backends cli.command

/-- A local command that reports a failure has done nothing, unless it is a `put` or a
`read` that got through and whose report did not find the namespace. -/
theorem failed_untouched (opening : Local.Opening) (cli : Local.Cli) :
    ((cli.run (Scene.perform backends around) opening (Scene.start records stores)).1.code ≠ 0 →
      Undone around (Scene.start records stores) (cli.run (Scene.perform backends around) opening (Scene.start records stores)).2) ↔
    ¬(Local.denied cli = .ok () ∧ around.ReportLost backends records stores opening.backends cli.command) := by
  cases admitted : Local.denied cli with
  | error denial =>
      rw [Local.Cli.run, admitted]
      exact iff_of_true (fun _ => ⟨rfl, rfl, rfl, rfl⟩) fun both => by cases both.1
  | ok done =>
      rw [admitted_untouched backends around records stores opening cli admitted]
      exact not_congr ⟨fun lost => ⟨rfl, lost⟩, fun both => both.2⟩

end Effects

section Unreported

def Backends.ofMap (version : Version) : Backends SecretMap where
  serve _ command map := SecretMap.answer version command map
  refused := by
    intro backend command map refused
    cases command with
    | read target => rfl
    | list scope => rfl
    | write target value => cases refused
    | delete target =>
        dsimp only [SecretMap.answer] at refused ⊢
        split at refused
        · cases refused
        · rename_i missing
          rw [if_neg missing]
    | rename target newName =>
        dsimp only [SecretMap.answer, SecretMap.rename] at refused ⊢
        split
        · rfl
        · rename_i found
          rw [found] at refused
          dsimp only at refused
          split at refused
          · rename_i taken
            rw [if_pos taken]
          · cases refused
  looked := by
    intro backend command map still
    cases command with
    | read target => rfl
    | list scope => rfl
    | write target value => exact absurd trivial still
    | delete target => exact absurd trivial still
    | rename target newName => exact absurd trivial still

def unreadable : Around := ⟨fun asked => decide (asked = 2), fun _ => [], .ok (), .ok ()⟩

def keychainOpening : Local.Opening := ⟨some fun _ => some ⟨Capability.all, false⟩, []⟩

def pipedPut : Local.Cli := ⟨false, Local.localName, Local.localName, .put (pipedArgs [104, 105, 10])⟩

theorem default_found : InMemoryConfig.localStart.found .localDefault = some ⟨.localDefault, none⟩ := by
  have here : InMemoryConfig.localStart.namespaces[NamespaceKey.localDefault]? = some none := ExtTreeMap.getElem?_insert_self
  rw [Records.found, here]
  rfl

theorem piped_resolves : unreadable.Resolves (fun _ => some ⟨Capability.all, false⟩) InMemoryConfig.localStart pipedAddress .write
    .defaultMount ⟨pipedAddress, none⟩ 1 :=
  .plain ⟨.localDefault, none⟩ ⟨Capability.all, false⟩ default_found rfl (by decide) rfl

theorem piped_puts : unreadable.Puts (Backends.ofMap ⟨"1"⟩) InMemoryConfig.localStart ∅ (fun _ => some ⟨Capability.all, false⟩)
    (pipedArgs [104, 105, 10]) pipedAddress 1 where
  plain := ⟨rfl, rfl⟩
  parsed := piped_parsed _
  stored := by
    have supplied := read_supplied (pipedArgs [104, 105, 10]).source [104, 105, 10] false (.pipe _)
    have short : ([104, 105, 10] : Bytes).length ≤ maxValueBytes + 1 := by decide
    rw [List.take_of_length_le short] at supplied
    exact ⟨_, ⟨[104, 105], by decide⟩, _, _, _, supplied, rfl, piped_resolves, rfl, rfl⟩

theorem unreported_put :
    ¬((pipedPut.run (Scene.perform (Backends.ofMap ⟨"1"⟩) unreadable) keychainOpening (Scene.start InMemoryConfig.localStart ∅)).1.code ≠ 0 →
      Undone unreadable (Scene.start InMemoryConfig.localStart ∅)
        (pipedPut.run (Scene.perform (Backends.ofMap ⟨"1"⟩) unreadable) keychainOpening (Scene.start InMemoryConfig.localStart ∅)).2) := by
  rw [admitted_untouched _ _ _ _ _ _ (by decide), not_not]
  exact .put _ _ pipedAddress 1 rfl piped_puts rfl

end Unreported
end Secrets
