import Secrets.FederatedMap

set_option autoImplicit false

namespace Secrets

open Programs Storage Federation

section Interleaving
variable {Place : Type} [DecidableEq Place] (registry : Registry Place) (versions : Nat → Version)

-- Commands of the one user under way, each at its start.
def Registry.started (requests : List Request) : List (Thread Request Federation.Call Federation.Call.Answer StorageError Unit) :=
  requests.map fun request => ⟨request, [], request.performLocal registry.offers >>= fun _ => .done ()⟩

theorem started_informed (requests : List Request) :
    ∀ thread ∈ registry.started requests, Pool.Informed (Deployed.answer registry versions) Federation.Call.Acts (Fits registry) thread := by
  intro thread member
  obtain ⟨request, inside, rfl⟩ := List.mem_map.mp member
  apply Pool.checked_informed
  apply heeds_bind
  apply heeds_mono _ _ _ _ _ _ (local_checked registry versions request)
  intro ended phase _
  cases ended with
  | error error => trivial
  | ok value => trivial

/-- Every interleaving of commands, each of which acts only on answers that it would still
get, keeps every secret at its home and every binding in a namespace. -/
theorem timely_sound (requests : List Request) (deployed : Deployed Place) (sound : deployed.Sound registry) (schedule : List Nat)
    (timely : Pool.Timely (Deployed.answer registry versions) Federation.Call.Acts ⟨deployed, registry.started requests⟩ schedule) :
    (Pool.turns (Deployed.answer registry versions) ⟨deployed, registry.started requests⟩ schedule).shared.Sound registry :=
  Pool.timely_good (Deployed.answer registry versions) Federation.Call.Acts (Fits registry) (answer_still registry versions)
    (fun deployed => deployed.Sound registry) (fun call state _ fits good => answer_sound registry versions state good call fits)
    schedule ⟨deployed, registry.started requests⟩ (started_informed registry versions requests) timely sound

end Interleaving

section Answers

instance (command : Command) : DecidableEq command.Answer :=
  match command with
  | .read _ => inferInstanceAs (DecidableEq Revealed)
  | .write _ _ => inferInstanceAs (DecidableEq Storage.Written)
  | .delete _ => inferInstanceAs (DecidableEq Unit)
  | .rename _ _ => inferInstanceAs (DecidableEq Unit)
  | .list _ => inferInstanceAs (DecidableEq (List Storage.SecretMetadata))

instance (call : ConfigCall) : DecidableEq call.Value :=
  match call with
  | .nameSpace _ => inferInstanceAs (DecidableEq (Option Namespace))
  | .namespaces => inferInstanceAs (DecidableEq (List Namespace))
  | .binding _ => inferInstanceAs (DecidableEq (Option Locator))
  | .hasBindings _ => inferInstanceAs (DecidableEq Bool)
  | .insertNamespace _ => inferInstanceAs (DecidableEq Unit)
  | .removeNamespace _ => inferInstanceAs (DecidableEq Unit)
  | .setMount _ _ => inferInstanceAs (DecidableEq Unit)
  | .insertBinding _ _ => inferInstanceAs (DecidableEq Unit)
  | .removeBinding _ => inferInstanceAs (DecidableEq Unit)

instance (call : Federation.Call) : DecidableEq call.Answer :=
  match call with
  | .config call => inferInstanceAs (DecidableEq (Except StorageError call.Value))
  | .backend _ command => inferInstanceAs (DecidableEq (Except StorageError command.Answer))

end Answers

namespace Sample

def undoing : List Request := [.unbind login, .removeNamespace deskKey, .secret (.write (.unbound letter) word)]

theorem told_sound : told.2.Sound keychainRegistry :=
  (runs_shown keychainRegistry versionsOf keychain_read_only session Deployed.start ∅ (start_sound keychainRegistry)
    (start_shows keychainRegistry)).1

end Sample

theorem write_beside_removal_sound :
    (Pool.turns (Deployed.answer keychainRegistry versionsOf) ⟨Sample.told.2, keychainRegistry.started Sample.undoing⟩
      [2, 0, 1, 1, 2, 1]).shared.Sound keychainRegistry ∧
    (Pool.turns (Deployed.answer keychainRegistry versionsOf) ⟨Sample.told.2, keychainRegistry.started Sample.undoing⟩
      [2, 0, 1, 1, 2, 1]).shared.records.found Sample.deskKey = none := by
  refine ⟨?_, by decide +kernel⟩
  apply timely_sound keychainRegistry versionsOf Sample.undoing Sample.told.2 Sample.told_sound
  exact Pool.timely_run _ _ _ _ (by decide +kernel)

section Staying
variable {Place : Type} [DecidableEq Place] (registry : Registry Place) (versions : Nat → Version)

def Federation.Call.Stays : Federation.Call → Prop
  | .config (.removeNamespace _) | .config (.setMount _ _) => False
  | _ => True

def Federation.Request.Stays : Request → Prop
  | .removeNamespace _ | .setMount _ _ => False
  | _ => True

omit [DecidableEq Place] in
theorem stays_asks (request : Request) (stays : request.Stays) :
    (request.performLocal registry.offers).Asks Federation.Call.Stays := by
  have federated : (request.perform registry.offers).Asks Federation.Call.Stays := by
    apply request_asks
    intro call may
    cases request with
    | removeNamespace key => exact stays.elim
    | setMount key mount => exact stays.elim
    | _ =>
        cases call with
        | backend backend command => trivial
        | config call => cases call <;> trivial
  cases request with
  | secret command =>
      change (Authorized.perform registry.offers command).Asks _
      by_cases inside : command.scope.Local
      · rw [perform_local registry.offers command inside]
        exact federated
      · rw [perform_foreign registry.offers command inside]
        trivial
  | _ => exact federated

theorem found_stable (key : NamespaceKey) (nameSpace : Namespace) :
    Stable (Deployed.answer registry versions) Federation.Call.Stays fun deployed => deployed.records.found key = some nameSpace := by
  intro call deployed stays found
  cases call with
  | backend backend command =>
      rw [Deployed.answer]
      split
      · exact found
      · exact found
      · exact found
  | config call =>
      cases call with
      | removeNamespace other => exact stays.elim
      | setMount other mount => exact stays.elim
      | nameSpace other => exact found
      | namespaces => exact found
      | binding address => exact found
      | hasBindings other => exact found
      | insertNamespace other =>
          change (deployed.records.changed (deployed.records.insertNamespace other)).2.found key = some nameSpace
          rw [Records.insertNamespace]
          by_cases known : deployed.records.namespaces.contains other.key = true
          · rw [if_pos known]
            exact found
          · rw [if_neg known]
            refine (found_insert deployed.records other key).trans ?_
            by_cases same : other.key = key
            · rw [same] at known
              rw [found_none deployed.records key known] at found
              cases found
            · rw [if_neg same]
              exact found
      | insertBinding address locator =>
          change (deployed.records.changed (deployed.records.insertBinding address locator)).2.found key = some nameSpace
          rw [Records.insertBinding]
          split <;> exact found
      | removeBinding address =>
          change (deployed.records.changed (deployed.records.removeBinding address)).2.found key = some nameSpace
          rw [Records.removeBinding]
          split <;> exact found

def Learning {Value : Type} (operation : Operation Value) (known : Deployed Place → Prop) : Prop :=
  operation.Learning (Deployed.answer registry versions) Federation.Call.Acts (Fits registry) Federation.Call.Stays known

-- What only looks loses nothing that is known and stays true.
def Retains (Value : Type) (operation : Operation Value) : Prop :=
  ∀ known, Stable (Deployed.answer registry versions) Federation.Call.Stays known → ∀ (Result : Type) (next : Value → Operation Result),
    (∀ value, Learning registry versions (next value) known) → Learning registry versions (operation >>= next) known

theorem quiet_walk : Walk (fun call => ¬call.Acts) (Retains registry versions) where
  done Value value known stable Result next goes := goes value
  stop Value error known stable Result next goes := trivial
  bind Value Middle first later here after known stable Result next goes := by
    rw [Prog.bind_assoc]
    apply here known stable
    intro value
    exact after value known stable Result next goes
  ask call still known stable Result next goes := by
    apply learning_told _ _ _ _ _ _ known (fun _ => known) still (fun _ => stable) (fun _ knows => knows)
    intro answer
    cases answer with
    | error error => trivial
    | ok value => exact goes value

theorem learning_act (call : Federation.Call) (known : Deployed Place → Prop)
    (stable : Stable (Deployed.answer registry versions) Federation.Call.Stays known)
    (warranted : ∀ deployed, known deployed → Fits registry deployed call) : Learning registry versions (ask call) known := by
  by_cases acts : call.Acts
  · intro answer
    refine ⟨_, .acted known call answer acts warranted, ?_⟩
    cases answer <;> trivial
  · apply learning_told _ _ _ _ _ _ known (fun _ => known) acts (fun _ => stable) (fun _ knows => knows)
    intro answer
    cases answer <;> trivial

theorem learning_found {Value : Type} (key : NamespaceKey) (next : Namespace → Operation Value)
    (goes : ∀ nameSpace, Learning registry versions (next nameSpace) fun deployed => deployed.records.found key = some nameSpace) :
    Learning registry versions (config (.nameSpace key) >>= fun found => orElse found .notFound >>= next) fun _ => True := by
  apply learning_told _ _ _ _ _ _ (fun _ => True) (fun (answer : Except StorageError (Option Namespace)) deployed =>
      ∀ nameSpace, answer = .ok (some nameSpace) → deployed.records.found key = some nameSpace)
  · exact id
  · intro answer call deployed stays knows nameSpace same
    exact found_stable registry versions key nameSpace call deployed stays (knows nameSpace same)
  · intro deployed _ nameSpace same
    exact Except.ok.inj same
  · intro answer
    cases answer with
    | error error => trivial
    | ok found =>
        cases found with
        | none => trivial
        | some nameSpace =>
            apply learning_mono _ _ _ _ _ _ _ _ (goes nameSpace)
            intro deployed knows
            exact knows nameSpace rfl

theorem true_stable : Stable (Deployed.answer registry versions) Federation.Call.Stays fun _ => True := fun _ _ _ _ => trivial

theorem learning_free (call : Federation.Call) (fits : ∀ deployed, Fits registry deployed call) :
    Learning registry versions (ask call) fun _ => True :=
  learning_act registry versions call _ (true_stable registry versions) fun deployed _ => fits deployed

theorem quiet_resolve (address : Address) (needs : List Capability) :
    Retains registry versions _ (resolve registry.offers address needs) := by
  intro known stable Result next goes
  have walked := walk_resolve registry.offers _ _ (quiet_walk registry versions) (fun _ => id) (fun _ => id) address needs .done
    (fun backend locator => (quiet_walk registry versions).done _ (backend, (⟨address, locator⟩ : Target))) known stable Result next goes
  rw [Prog.bind_assoc] at walked
  exact walked

theorem write_learning (target : Target) (value : SecretValue) (own : target.address.scope.user = .defaultName) :
    Learning registry versions (Federation.write registry.offers target value) fun _ => True := by
  have quiet := quiet_walk registry versions
  simp only [Federation.write, resolve, mounted, Prog.bind_assoc, Prog.pure_done, Prog.done_bind]
  apply learning_found
  intro nameSpace
  have stable := found_stable registry versions (namespaceKey target.address.scope) nameSpace
  apply walk_or_else _ _ quiet _ _ _ stable
  intro offer
  apply walk_ensure _ _ quiet _ _ _ stable
  intro _
  have located : Retains registry versions _ (locator offer target.address) := by
    rw [locator]
    split
    · apply quiet.bind _ _ _ _ (quiet.ask (.config (.binding _)) id)
      intro bound
      exact quiet.bind _ _ _ _ (walk_or_else _ _ quiet _ _) fun found => quiet.done _ (some found)
    · exact quiet.done _ none
  apply located _ stable
  intro locator
  apply learning_act _ _ _ _ stable
  intro deployed found
  exact ⟨own, nameSpace, found, rfl⟩

theorem secret_learning (command : Command) (forUser : (Request.secret command).ForUser) :
    Learning registry versions (Federation.perform registry.offers command) fun _ => True := by
  have quiet := quiet_walk registry versions
  have always := true_stable registry versions
  cases command with
  | read target =>
      apply quiet_resolve registry versions _ _ _ always
      intro place
      exact learning_free registry versions _ fun _ => trivial
  | write target value => exact write_learning registry versions target value forUser
  | delete target =>
      apply quiet_resolve registry versions _ _ _ always
      intro place
      exact learning_free registry versions _ fun _ => trivial
  | rename target newName =>
      apply quiet_resolve registry versions _ _ _ always
      intro place
      have looked : Retains registry versions _ (Federation.bound target.address (target.address.renamed newName)) := by
        apply quiet.bind _ _ _ _ (quiet.ask (.config (.binding _)) id)
        intro source
        split
        · exact quiet.done _ true
        · exact quiet.bind _ _ _ _ (quiet.ask (.config (.binding _)) id) fun found => quiet.done _ found.isSome
      apply looked _ always
      intro taken
      apply walk_ensure _ _ quiet _ _ _ always
      intro _
      exact learning_free registry versions _ fun _ => trivial
  | list scope =>
      apply walk_mounted registry.offers _ _ quiet (fun _ => id) scope _ always
      intro place
      apply walk_ensure _ _ quiet _ _ _ always
      intro _
      apply quiet.ask (.backend place.1 (.list scope)) id _ always
      intro rows
      trivial

theorem request_learning (request : Request) (stays : request.Stays) :
    Learning registry versions (request.performLocal registry.offers) fun _ => True := by
  have quiet := quiet_walk registry versions
  have always := true_stable registry versions
  cases request with
  | removeNamespace key => exact stays.elim
  | setMount key mount => exact stays.elim
  | namespaces => exact learning_free registry versions _ fun _ => trivial
  | addNamespace key mount =>
      apply quiet.ask (.config (.nameSpace key)) id _ always
      intro found
      apply walk_ensure _ _ quiet _ _ _ always
      intro _
      apply walk_or_else _ _ quiet _ _ _ always
      intro offer
      exact learning_free registry versions _ fun _ => trivial
  | bind address locator =>
      change Learning registry versions (config (.nameSpace (namespaceKey address.scope)) >>= fun found => orElse found .notFound >>= fun _ =>
        config (.insertBinding address locator)) fun _ => True
      apply learning_found
      intro nameSpace
      apply learning_act _ _ _ _ (found_stable registry versions _ nameSpace)
      intro deployed found
      exact ⟨nameSpace, found⟩
  | unbind address => exact learning_free registry versions _ fun _ => trivial
  | secret command =>
      change Learning registry versions (Authorized.perform registry.offers command) fun _ => True
      by_cases inside : command.scope.Local
      · rw [perform_local registry.offers command inside]
        apply secret_learning
        cases command with
        | write target value => exact inside.2
        | _ => trivial
      · rw [perform_foreign registry.offers command inside]
        trivial

/-- Any interleaving of commands, none of which removes or mounts a namespace, keeps every
secret at its home and every binding in a namespace. -/
theorem staying_sound (requests : List Request) (stays : ∀ request ∈ requests, request.Stays)
    (deployed : Deployed Place) (sound : deployed.Sound registry) (schedule : List Nat) :
    (Pool.turns (Deployed.answer registry versions) ⟨deployed, registry.started requests⟩ schedule).shared.Sound registry := by
  apply Pool.stable_good (Deployed.answer registry versions) Federation.Call.Acts (Fits registry) Federation.Call.Stays
    (answer_still registry versions) (fun deployed => deployed.Sound registry)
    (fun call state _ fits good => answer_sound registry versions state good call fits)
  · intro thread member
    obtain ⟨request, inside, rfl⟩ := List.mem_map.mp member
    apply Pool.learned_start
    · exact Prog.asks_bind _ _ _ (stays_asks registry request (stays request inside)) fun _ => trivial
    · apply heeds_bind
      apply heeds_mono _ _ _ _ _ _ (request_learning registry versions request (stays request inside))
      intro ended phase _
      cases ended with
      | error error => trivial
      | ok value => trivial
  · exact sound

end Staying

namespace Sample

def yardKey : NamespaceKey := ⟨.defaultName, ⟨"yard", by decide +kernel⟩⟩

def joining : List Request :=
  [.secret (.write (.unbound letter) word), .bind letter ⟨"item"⟩, .addNamespace yardKey none, .secret (.delete (.unbound note))]

end Sample

theorem write_beside_bind_sound :
    (Pool.turns (Deployed.answer keychainRegistry versionsOf) ⟨Sample.told.2, keychainRegistry.started Sample.joining⟩
      [0, 1, 3, 2, 1, 0, 2, 3]).shared.Sound keychainRegistry ∧
    ((Pool.turns (Deployed.answer keychainRegistry versionsOf) ⟨Sample.told.2, keychainRegistry.started Sample.joining⟩
      [0, 1, 3, 2, 1, 0, 2, 3]).shared.stores ()).contains letter = true := by
  refine ⟨?_, by decide +kernel⟩
  apply staying_sound keychainRegistry versionsOf Sample.joining _ Sample.told.2 Sample.told_sound
  intro request member
  simp only [Sample.joining, List.mem_cons, List.not_mem_nil, or_false] at member
  rcases member with rfl | rfl | rfl | rfl <;> trivial

end Secrets
