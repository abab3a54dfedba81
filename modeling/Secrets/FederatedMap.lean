import Secrets.Placement

set_option autoImplicit false

namespace Secrets

open Std (ExtTreeMap)
open Programs Storage Federation

def SecretMap.tell (map : SecretMap) : (request : Request) → Except StorageError request.Value → SecretMap
  | .secret (.write target value), .ok (.created (some version)) => map.insert target.address ⟨version, value⟩
  | .secret (.write target value), .ok (.replaced (some version)) => map.insert target.address ⟨version, value⟩
  | .secret (.delete target), .ok _ => map.erase target.address
  | .secret (.rename target newName), .ok _ =>
      map[target.address]?.elim map fun held => (map.insert (target.address.renamed newName) held).erase target.address
  | _, _ => map

theorem tell_error (map : SecretMap) (request : Request) (error : StorageError) : map.tell request (.error error) = map := by
  cases request with
  | secret command => cases command <;> rfl
  | _ => rfl

theorem tell_answer (version : Version) (command : Command) (map : SecretMap) :
    map.tell (.secret command) (SecretMap.answer version command map).1 = (SecretMap.answer version command map).2 := by
  cases command with
  | read target => rfl
  | list scope => rfl
  | write target value =>
      rw [SecretMap.answer, SecretMap.written]
      split <;> rfl
  | delete target =>
      rw [SecretMap.answer]
      split <;> rfl
  | rename target newName =>
      rw [SecretMap.answer, SecretMap.rename]
      split
      · rfl
      · rename_i held found
        split
        · rfl
        · rw [SecretMap.tell, found, Option.elim_some]

section Steps
variable {Place : Type} [DecidableEq Place] (registry : Registry Place) (versions : Nat → Version)

def Deployed.faulty (fails : Nat → Bool) : (call : Federation.Call) → Deployed Place × Nat → call.Answer × Deployed Place × Nat :=
  Programs.faulty (Deployed.answer registry versions) (fun _ => .error .unavailable) fails

def Deployed.operate (step : Request × (Nat → Bool)) (deployed : Deployed Place) :
    Except StorageError step.1.Value × Deployed Place :=
  let ran := run (Deployed.faulty registry versions step.2) (step.1.performLocal registry.offers) (deployed, 0)
  (ran.1, ran.2.1)

section Single
variable (deployed : Deployed Place) (map : SecretMap)

def Renders : Prop := ∀ address, map[address]? = deployed.whole registry address

theorem refused_run (command : Command) (refused : StorageError)
    (refuses : deployed.records.refuses registry.offers command = some refused) :
    run (Deployed.answer registry versions) (Federation.perform registry.offers command) deployed = (.error refused, deployed) :=
  (resolved registry.offers deployed.records (Deployed.answer registry versions) deployed ⟨fun _ => rfl, fun _ => rfl⟩ command).refused
    refused refuses

section Commands
variable (command : Command) (inside : command.scope.Local) (place : Place)
  (placed : deployed.records.placeOf registry command.scope = some place)
include inside placed

omit [DecidableEq Place] in
theorem home_inside (address : Address) (within : address.scope = command.scope) :
    deployed.records.home registry address = some place := by
  apply (home_some registry _ _ _).mpr
  rw [within]
  exact ⟨inside.2, placed⟩

omit [DecidableEq Place] inside in
theorem placed_mount : ∃ nameSpace : Namespace, registry nameSpace.effectiveMount = some (.stored place) ∧
    deployed.records.mountOf registry.offers command.scope = some (nameSpace.effectiveMount, ⟨Capability.all, false⟩) := by
  obtain ⟨nameSpace, found, mounted⟩ := (place_of_some registry _ _ _).mp placed
  refine ⟨nameSpace, mounted, ?_⟩
  have offered : registry.offers nameSpace.effectiveMount = some ⟨Capability.all, false⟩ := by
    rw [Registry.offers, mounted]
    rfl
  rw [Records.mountOf, found]
  dsimp only
  rw [offered]
  rfl

variable (shows : Renders registry deployed map)
include shows

omit [DecidableEq Place] in
theorem shows_inside (address : Address) (within : address.scope = command.scope) : map[address]? = (deployed.stores place)[address]? := by
  rw [shows address]
  exact Shards.union_home _ _ _ _ (home_inside registry deployed command inside place placed address within)

theorem served_shows (bound : Address → Option Locator) :
    command.returned bound (Deployed.serve versions place (command.directed bound) deployed).1 =
      (SecretMap.answer (versions deployed.drawn) command map).1 ∧
    Renders registry (Deployed.serve versions place (command.directed bound) deployed).2
      (SecretMap.answer (versions deployed.drawn) command map).2 := by
  obtain ⟨returned, directed⟩ := answer_directed (versions deployed.drawn) command (deployed.stores place) bound
  have agree := answer_agrees (versions deployed.drawn) command map (deployed.stores place)
    (shows_inside registry deployed map command inside place placed shows)
  refine ⟨returned.trans agree.same.symm, ?_⟩
  intro address
  have union := Shards.union_update (deployed.records.home registry) deployed.shards place
    (fun address => ((SecretMap.answer (versions deployed.drawn) command (deployed.stores place)).2)[address]?) address
  rw [Deployed.whole, serve_shards, directed]
  refine Eq.trans ?_ union.symm
  by_cases within : address.scope = command.scope
  · rw [if_pos (home_inside registry deployed command inside place placed address within)]
    exact agree.held address within
  · rw [answer_elsewhere _ _ _ _ within, answer_elsewhere _ _ _ _ within, shows address]
    by_cases lives : deployed.records.home registry address = some place
    · rw [if_pos lives]
      exact Shards.union_home _ _ _ _ lives
    · rw [if_neg lives]
      rfl

theorem single_run (free : deployed.records.refuses registry.offers command = none) : ∃ after,
    run (Deployed.answer registry versions) (Federation.perform registry.offers command) deployed =
      ((SecretMap.answer (versions deployed.drawn) command map).1, after) ∧
    Renders registry after (SecretMap.answer (versions deployed.drawn) command map).2 := by
  obtain ⟨nameSpace, mounted, mount⟩ := placed_mount registry deployed command place placed
  have reads : Reads (Deployed.answer registry versions) deployed.records deployed := ⟨fun _ => rfl, fun _ => rfl⟩
  obtain ⟨backend, offer, there, ran⟩ :=
    (resolved registry.offers deployed.records (Deployed.answer registry versions) deployed reads command).called free
  rw [mount] at there
  obtain ⟨rfl, rfl⟩ := Prod.mk.inj (Option.some.inj there)
  have served := served_shows registry versions deployed map command inside place placed shows
    (deployed.records.locatorFor ⟨Capability.all, false⟩)
  rw [reached, Deployed.answer] at ran
  rw [mounted] at ran
  exact ⟨_, ran.trans (congrArg (fun answer => (answer, _)) served.1), served.2⟩

end Commands

def Storage.Command.Changes : Command → Prop
  | .write _ _ | .delete _ | .rename _ _ => True
  | .read _ | .list _ => False

section Elsewhere
variable (command : Command) (unplaced : deployed.records.placeOf registry command.scope = none)
include unplaced

omit [DecidableEq Place] in
theorem elsewhere_outside (backend : BackendRef) (offer : Offer)
    (mount : deployed.records.mountOf registry.offers command.scope = some (backend, offer)) :
    ∃ answers, registry backend = some (.outside offer answers) := by
  rw [Records.mountOf] at mount
  cases found : deployed.records.found (Federation.namespaceKey command.scope) with
  | none =>
      rw [found] at mount
      cases mount
  | some nameSpace =>
      rw [found] at mount
      obtain ⟨other, offered, same⟩ := Option.map_eq_some_iff.mp mount
      obtain ⟨rfl, rfl⟩ := Prod.mk.inj same
      obtain ⟨backing, backed, rfl⟩ := Option.map_eq_some_iff.mp offered
      cases backing with
      | outside offer answers => exact ⟨answers, backed⟩
      | stored place =>
          have placed := (place_of_some registry _ _ _).mpr ⟨nameSpace, found, backed⟩
          rw [unplaced] at placed
          cases placed

theorem elsewhere_still : (run (Deployed.answer registry versions) (Federation.perform registry.offers command) deployed).2 = deployed := by
  have reads : Reads (Deployed.answer registry versions) deployed.records deployed := ⟨fun _ => rfl, fun _ => rfl⟩
  have ends := resolved registry.offers deployed.records (Deployed.answer registry versions) deployed reads command
  cases refuses : deployed.records.refuses registry.offers command with
  | some refused => rw [ends.refused refused refuses]
  | none =>
      obtain ⟨backend, offer, mount, ran⟩ := ends.called refuses
      obtain ⟨answers, outside⟩ := elsewhere_outside registry deployed command unplaced backend offer mount
      rw [ran, reached, Deployed.answer]
      dsimp only
      rw [outside]

theorem elsewhere_tells (readOnly : registry.ReadOnly) :
    map.tell (.secret command) (run (Deployed.answer registry versions) (Federation.perform registry.offers command) deployed).1 = map := by
  by_cases changes : command.Changes
  · have reads : Reads (Deployed.answer registry versions) deployed.records deployed := ⟨fun _ => rfl, fun _ => rfl⟩
    have ends := resolved registry.offers deployed.records (Deployed.answer registry versions) deployed reads command
    have refuses : ∃ refused, deployed.records.refuses registry.offers command = some refused := by
      rw [Records.refuses]
      cases mount : deployed.records.mountOf registry.offers command.scope with
      | none => exact ⟨_, rfl⟩
      | some place =>
          obtain ⟨backend, offer⟩ := place
          obtain ⟨answers, outside⟩ := elsewhere_outside registry deployed command unplaced backend offer mount
          obtain ⟨unwritten, undeleted⟩ := readOnly backend offer answers outside
          have lacking : ∃ need ∈ command.needs, need ∉ offer.capabilities := by
            cases command with
            | read target => exact changes.elim
            | list scope => exact changes.elim
            | write target value => exact ⟨.write, List.mem_singleton_self _, unwritten⟩
            | delete target => exact ⟨.delete, List.mem_singleton_self _, undeleted⟩
            | rename target newName => exact ⟨.write, List.mem_cons_self, unwritten⟩
          exact ⟨.unsupported, if_pos lacking⟩
    obtain ⟨refused, refuses⟩ := refuses
    rw [ends.refused refused refuses]
    exact tell_error map (.secret command) refused
  · cases command with
    | read target => rfl
    | list scope => rfl
    | write target value => exact absurd trivial changes
    | delete target => exact absurd trivial changes
    | rename target newName => exact absurd trivial changes

end Elsewhere

def Federation.Request.Manages : Request → Prop
  | .secret _ => False
  | _ => True

def Federation.Call.Configures : Federation.Call → Prop
  | .config _ => True
  | .backend _ (.list _) => True
  | .backend _ _ => False

omit [DecidableEq Place] in
theorem may_configures (request : Request) (manages : request.Manages) (call : Federation.Call) (may : request.May call) :
    call.Configures := by
  cases call with
  | config call => trivial
  | backend backend command =>
      cases request with
      | secret command => exact manages.elim
      | removeNamespace key => cases command <;> trivial
      | setMount key mount => cases command <;> trivial
      | _ => exact may.elim

theorem configures_shards (call : Federation.Call) (configures : call.Configures) :
    (Deployed.answer registry versions call deployed).2.shards = deployed.shards := by
  cases call with
  | config call => rfl
  | backend backend command =>
      cases command with
      | list scope =>
          rw [answer_still registry versions (.backend backend (.list scope)) deployed id]
      | read target => exact configures.elim
      | write target value => exact configures.elim
      | delete target => exact configures.elim
      | rename target newName => exact configures.elim

theorem local_sound (sound : deployed.Sound registry) (request : Request) :
    (run (Deployed.answer registry versions) (request.performLocal registry.offers) deployed).2.Sound registry := by
  rcases checked_run (Deployed.answer registry versions) Federation.Call.Acts (Fits registry) (answer_still registry versions)
    (fun _ _ => True) _ (fun _ => True) deployed trivial (local_checked registry versions request) with same | ⟨call, _, fits, same⟩
  · rw [same]
    exact sound
  · rw [same]
    exact answer_sound registry versions deployed sound call fits

theorem secret_shows (shows : Renders registry deployed map) (readOnly : registry.ReadOnly) (command : Command) :
    Renders registry (run (Deployed.answer registry versions) (Authorized.perform registry.offers command) deployed).2
      (map.tell (.secret command) (run (Deployed.answer registry versions) (Authorized.perform registry.offers command) deployed).1) := by
  by_cases inside : command.scope.Local
  · rw [perform_local registry.offers command inside]
    cases placed : deployed.records.placeOf registry command.scope with
    | none =>
        rw [elsewhere_still registry versions deployed command placed, elsewhere_tells registry versions deployed map command placed readOnly]
        exact shows
    | some place =>
        cases refuses : deployed.records.refuses registry.offers command with
        | some refused =>
            rw [refused_run registry versions deployed command refused refuses]
            dsimp only
            rw [tell_error map (.secret command)]
            exact shows
        | none =>
            obtain ⟨after, ran, later⟩ := single_run registry versions deployed map command inside place placed shows refuses
            rw [ran]
            dsimp only
            rw [tell_answer]
            exact later
  · rw [perform_foreign registry.offers command inside, run_stop]
    dsimp only
    rw [tell_error map (.secret command)]
    exact shows

theorem configures_whole (sound : deployed.Sound registry) (request : Request)
    (asks : (request.performLocal registry.offers).Asks Federation.Call.Configures) :
    (run (Deployed.answer registry versions) (request.performLocal registry.offers) deployed).2.whole registry = deployed.whole registry := by
  have shards := within_run (Deployed.answer registry versions) (Effects.Tx.Frame.keeping Deployed.shards) Federation.Call.Configures
    (fun call state configures => configures_shards registry versions state call configures) (request.performLocal registry.offers) asks deployed
  have after := local_sound registry versions deployed sound request
  funext address
  apply Option.ext
  intro held
  have before := Shards.union_some _ _ sound.housed address held
  have later := Shards.union_some _ _ after.housed address held
  rw [shards] at later
  rw [Deployed.whole, shards]
  exact later.trans before.symm

theorem managed_shows (sound : deployed.Sound registry) (shows : Renders registry deployed map) (request : Request) (manages : request.Manages)
    (same : request.performLocal registry.offers = request.perform registry.offers) (silent : ∀ answer, map.tell request answer = map) :
    Renders registry (run (Deployed.answer registry versions) (request.performLocal registry.offers) deployed).2
      (map.tell request (run (Deployed.answer registry versions) (request.performLocal registry.offers) deployed).1) := by
  have asks := request_asks registry.offers _ request (may_configures request manages)
  rw [← same] at asks
  intro address
  rw [silent, configures_whole registry versions deployed sound request asks]
  exact shows address

theorem request_shows (sound : deployed.Sound registry) (shows : Renders registry deployed map) (readOnly : registry.ReadOnly)
    (request : Request) :
    Renders registry (run (Deployed.answer registry versions) (request.performLocal registry.offers) deployed).2
      (map.tell request (run (Deployed.answer registry versions) (request.performLocal registry.offers) deployed).1) := by
  cases request with
  | secret command => exact secret_shows registry versions deployed map shows readOnly command
  | namespaces => exact managed_shows registry versions deployed map sound shows .namespaces trivial rfl fun _ => rfl
  | addNamespace key mount => exact managed_shows registry versions deployed map sound shows (.addNamespace key mount) trivial rfl fun _ => rfl
  | removeNamespace key => exact managed_shows registry versions deployed map sound shows (.removeNamespace key) trivial rfl fun _ => rfl
  | setMount key mount => exact managed_shows registry versions deployed map sound shows (.setMount key mount) trivial rfl fun _ => rfl
  | bind address locator => exact managed_shows registry versions deployed map sound shows (.bind address locator) trivial rfl fun _ => rfl
  | unbind address => exact managed_shows registry versions deployed map sound shows (.unbind address) trivial rfl fun _ => rfl

end Single

section Faults
variable (fails : Nat → Bool) (deployed : Deployed Place)

omit [DecidableEq Place] in
theorem quits_request (request : Request) :
    (request.perform registry.offers).Quits (fun _ => .error StorageError.unavailable) .unavailable := by
  apply walk_request registry.offers (fun _ operation => operation.Quits (fun _ => .error StorageError.unavailable) .unavailable)
  exact
    { done := fun _ _ => trivial
      stop := fun _ _ => trivial
      bind := fun _ _ first next here later => quits_bind _ _ first next here later
      ask := fun call _ => ⟨rfl, fun answer => quits_lift _ _ answer⟩ }

omit [DecidableEq Place] in
theorem quits_local (request : Request) :
    (request.performLocal registry.offers).Quits (fun _ => .error StorageError.unavailable) .unavailable := by
  cases request with
  | secret command =>
      change (Authorized.perform registry.offers command).Quits _ _
      by_cases inside : command.scope.Local
      · rw [perform_local registry.offers command inside]
        exact quits_request registry (.secret command)
      · rw [perform_foreign registry.offers command inside]
        trivial
  | namespaces => exact quits_request registry .namespaces
  | addNamespace key mount => exact quits_request registry (.addNamespace key mount)
  | removeNamespace key => exact quits_request registry (.removeNamespace key)
  | setMount key mount => exact quits_request registry (.setMount key mount)
  | bind address locator => exact quits_request registry (.bind address locator)
  | unbind address => exact quits_request registry (.unbind address)

-- The last call that the request made is one that fails, and nothing was done.
def Deployed.Struck (request : Request) : Prop :=
  ∃ struck, fails struck = true ∧
    run (Deployed.faulty registry versions fails) (request.performLocal registry.offers) (deployed, 0) =
      (.error .unavailable, deployed, struck + 1)

theorem operate_struck (request : Request) (struck : Deployed.Struck registry versions fails deployed request) :
    Deployed.operate registry versions (request, fails) deployed = (.error .unavailable, deployed) := by
  obtain ⟨_, _, failed⟩ := struck
  rw [Deployed.operate, failed]

theorem operate_cases (request : Request) :
    Deployed.Struck registry versions fails deployed request ∨
    Deployed.operate registry versions (request, fails) deployed =
      run (Deployed.answer registry versions) (request.performLocal registry.offers) deployed := by
  rcases faulty_run (Deployed.answer registry versions) (fun _ => .error StorageError.unavailable) Federation.Call.Acts
    (Fits registry) (answer_still registry versions) fails .unavailable (fun _ _ => True) (request.performLocal registry.offers) _
    (local_checked registry versions request) (quits_local registry request) deployed 0 with struck | ⟨count, whole⟩
  · exact .inl struck
  · exact .inr (by rw [Deployed.operate, Deployed.faulty, whole])

variable (map : SecretMap) (shows : Renders registry deployed map)
include shows

theorem operate_shows (sound : deployed.Sound registry) (readOnly : registry.ReadOnly) (step : Request × (Nat → Bool)) :
    (Deployed.operate registry versions step deployed).2.Sound registry ∧
    Renders registry (Deployed.operate registry versions step deployed).2
      (map.tell step.1 (Deployed.operate registry versions step deployed).1) := by
  obtain ⟨request, fails⟩ := step
  rcases operate_cases registry versions fails deployed request with struck | whole
  · rw [operate_struck registry versions fails deployed request struck]
    dsimp only
    rw [tell_error]
    exact ⟨sound, shows⟩
  · rw [whole]
    exact ⟨local_sound registry versions deployed sound request, request_shows registry versions deployed map sound shows readOnly request⟩

-- What a command is answered when no call of it fails: the first refusal that
-- holds, the single map's answer on a mount that the stack writes, and what the
-- backend itself says on any other.
def Records.expects (records : Records) (version : Version) (command : Command) (map : SecretMap) : Except StorageError command.Answer :=
  match records.refuses registry.offers command, records.mountOf registry.offers command.scope with
  | some refused, _ => .error refused
  | none, none => .error .notFound
  | none, some (backend, offer) =>
      match registry backend with
      | some (.outside _ answers) => command.returned (records.locatorFor offer) (answers (command.directed (records.locatorFor offer)))
      | _ => (SecretMap.answer version command map).1

-- A command is answered as one map keyed by address would answer it.
structure AsSingle (command : Command) (answer : Except StorageError command.Answer) : Prop where
  denied : ¬command.scope.Local → answer = .error .denied
  answered : command.scope.Local → answer = deployed.records.expects registry (versions deployed.drawn) command map ∨
    Deployed.Struck registry versions fails deployed (.secret command) ∧ answer = .error .unavailable

theorem local_answer (command : Command) (inside : command.scope.Local) :
    (run (Deployed.answer registry versions) (Federation.perform registry.offers command) deployed).1 =
      deployed.records.expects registry (versions deployed.drawn) command map := by
  rw [Records.expects]
  cases refuses : deployed.records.refuses registry.offers command with
  | some refused => rw [refused_run registry versions deployed command refused refuses]
  | none =>
      have reads : Reads (Deployed.answer registry versions) deployed.records deployed := ⟨fun _ => rfl, fun _ => rfl⟩
      obtain ⟨backend, offer, mount, ran⟩ :=
        (resolved registry.offers deployed.records (Deployed.answer registry versions) deployed reads command).called refuses
      rw [mount]
      dsimp only
      cases placed : deployed.records.placeOf registry command.scope with
      | none =>
          obtain ⟨answers, outside⟩ := elsewhere_outside registry deployed command placed backend offer mount
          rw [ran, reached, Deployed.answer, outside]
      | some place =>
          obtain ⟨after, whole, _⟩ := single_run registry versions deployed map command inside place placed shows refuses
          obtain ⟨nameSpace, mounted, there⟩ := placed_mount registry deployed command place placed
          rw [mount] at there
          obtain ⟨rfl, rfl⟩ := Prod.mk.inj (Option.some.inj there)
          rw [whole, mounted]

theorem answers_single (command : Command) :
    AsSingle registry versions fails deployed map command (Deployed.operate registry versions (.secret command, fails) deployed).1 := by
  constructor
  · intro outside
    have stops : Request.performLocal registry.offers (.secret command) = .stop .denied := perform_foreign registry.offers command outside
    rw [Deployed.operate, stops]
    rfl
  · intro inside
    have alone : (run (Deployed.answer registry versions) (Request.performLocal registry.offers (.secret command)) deployed).1 =
        deployed.records.expects registry (versions deployed.drawn) command map := by
      change (run (Deployed.answer registry versions) (Authorized.perform registry.offers command) deployed).1 = _
      rw [perform_local registry.offers command inside]
      exact local_answer registry versions deployed map shows command inside
    rcases operate_cases registry versions fails deployed (.secret command) with struck | whole
    · exact .inr ⟨struck, congrArg Prod.fst (operate_struck registry versions fails deployed (.secret command) struck)⟩
    · exact .inl ((congrArg Prod.fst whole).trans alone)

end Faults

section Runs

def SecretMap.told (map : SecretMap)
    (history : List (Exchange (Request × (Nat → Bool)) fun step => Except StorageError step.1.Value)) : SecretMap :=
  history.foldl (fun map exchange => map.tell exchange.call.1 exchange.answer) map

theorem runs_shown (readOnly : registry.ReadOnly) (steps : List (Request × (Nat → Bool))) (deployed : Deployed Place) (map : SecretMap)
    (sound : deployed.Sound registry) (shows : Renders registry deployed map) :
    (each (Deployed.operate registry versions) steps deployed).2.Sound registry ∧
    Renders registry (each (Deployed.operate registry versions) steps deployed).2
      (map.told (each (Deployed.operate registry versions) steps deployed).1) := by
  induction steps generalizing deployed map with
  | nil => exact ⟨sound, shows⟩
  | cons step rest ih =>
      obtain ⟨stays, follows⟩ := operate_shows registry versions deployed map shows sound readOnly step
      rw [each_cons]
      exact ih _ _ stays follows

omit [DecidableEq Place] in
theorem start_shows : Renders registry (Deployed.start : Deployed Place) ∅ := by
  intro address
  have empty : (∅ : SecretMap)[address]? = none := ExtTreeMap.getElem?_empty
  rw [empty]
  cases held : (Deployed.start : Deployed Place).whole registry address with
  | none => rfl
  | some secret =>
      obtain ⟨place, here⟩ := (Shards.union_some _ _ (start_sound registry).housed address secret).mp held
      have missing : (Deployed.start : Deployed Place).shards place address = none := ExtTreeMap.getElem?_empty
      rw [missing] at here
      cases here

/-- Mounts cannot be told apart: whatever was mounted, removed and added again before, and
whichever calls failed, every secret is at the effective mount of its namespace only,
and on the mounts that the stack writes commands are answered as by one map. -/
theorem mounts_invisible (readOnly : registry.ReadOnly) (steps : List (Request × (Nat → Bool))) :
    (each (Deployed.operate registry versions) steps Deployed.start).2.Sound registry ∧
    ∀ command fails, AsSingle registry versions fails (each (Deployed.operate registry versions) steps Deployed.start).2
      ((∅ : SecretMap).told (each (Deployed.operate registry versions) steps Deployed.start).1) command
      (Deployed.operate registry versions (.secret command, fails) (each (Deployed.operate registry versions) steps Deployed.start).2).1 := by
  obtain ⟨sound, shows⟩ := runs_shown registry versions readOnly steps Deployed.start ∅ (start_sound registry) (start_shows registry)
  exact ⟨sound, fun command fails => answers_single registry versions fails _ _ shows command⟩

end Runs
end Steps

namespace Sample

def noteName : SecretName := ⟨"note", by decide +kernel⟩

def note : Address := letter.renamed noteName

def deskKey : NamespaceKey := ⟨.defaultName, ⟨"desk", by decide +kernel⟩⟩

def login : Address := ⟨deskKey.userScope, noteName⟩

def word : SecretValue := ⟨[104], by decide⟩

def session : List (Request × (Nat → Bool)) :=
  [(.secret (.write (.unbound letter) word), fun _ => false),
    (.secret (.write (.unbound note) word), fun made => decide (made = 1)),
    (.addNamespace deskKey (some ⟨.onepassword, .defaultName⟩), fun _ => false),
    (.bind login ⟨"item"⟩, fun _ => false),
    (.secret (.rename (.unbound letter) noteName), fun _ => false)]

def told : List (Exchange (Request × (Nat → Bool)) fun step => Except StorageError step.1.Value) × Deployed Unit :=
  each (Deployed.operate keychainRegistry versionsOf) session Deployed.start

def quiet (_ : Nat) : Bool := false

end Sample

theorem session_invisible :
    (Sample.told.2.Sound keychainRegistry ∧
      ∀ command fails, AsSingle keychainRegistry versionsOf fails Sample.told.2 ((∅ : SecretMap).told Sample.told.1) command
        (Deployed.operate keychainRegistry versionsOf (.secret command, fails) Sample.told.2).1) ∧
    (Deployed.operate keychainRegistry versionsOf (.secret (.read (.unbound Sample.note)), Sample.quiet) Sample.told.2).1 =
      .ok ⟨Sample.word, some (versionsOf 0)⟩ ∧
    (Deployed.operate keychainRegistry versionsOf (.secret (.read (.unbound letter)), Sample.quiet) Sample.told.2).1 = .error .notFound ∧
    (Deployed.operate keychainRegistry versionsOf (.secret (.write (.unbound Sample.login) Sample.word), Sample.quiet) Sample.told.2).1 =
      .error .unsupported :=
  ⟨mounts_invisible keychainRegistry versionsOf keychain_read_only Sample.session, by decide +kernel, by decide +kernel,
    by decide +kernel⟩

end Secrets
