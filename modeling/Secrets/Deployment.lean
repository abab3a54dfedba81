import Secrets.Lib.Checks
import Secrets.LocalAuthorizer
import Secrets.SecretMap

set_option autoImplicit false

namespace Secrets

open Std (ExtTreeMap)
open Programs Storage Federation

-- What a registered reference leads to: a map that the stack writes, or a
-- backend whose contents are not the stack's.
inductive Backing (Place : Type) where
  | stored (place : Place)
  | outside (offer : Offer) (answers : (command : Command) → Except StorageError command.Answer)

def Backing.offer {Place : Type} : Backing Place → Offer
  | .stored _ => ⟨Capability.all, false⟩
  | .outside offer _ => offer

abbrev Registry (Place : Type) : Type := BackendRef → Option (Backing Place)

def Registry.offers {Place : Type} (registry : Registry Place) (backend : BackendRef) : Option Offer :=
  (registry backend).map Backing.offer

-- The configuration, the maps, and how many versions they have given.
structure Deployed (Place : Type) where
  records : Records
  stores : Place → SecretMap
  drawn : Nat

def Storage.Command.draws : Command → Nat
  | .write _ _ => 1
  | _ => 0

namespace Deployed

section Answers
variable {Place : Type} [DecidableEq Place] (registry : Registry Place) (versions : Nat → Version)

def serve (place : Place) (command : Command) (deployed : Deployed Place) : Except StorageError command.Answer × Deployed Place :=
  let served := SecretMap.answer (versions deployed.drawn) command (deployed.stores place)
  (served.1, { deployed with
    stores := Function.update deployed.stores place served.2
    drawn := deployed.drawn + command.draws })

def answer : (call : Federation.Call) → Deployed Place → call.Answer × Deployed Place
  | .config call, deployed =>
      ((InMemoryConfig.perform call deployed.records).1, { deployed with records := (InMemoryConfig.perform call deployed.records).2 })
  | .backend backend command, deployed =>
      match registry backend with
      | some (.stored place) => serve versions place command deployed
      | some (.outside _ answers) => (answers command, deployed)
      | none => (.error .unavailable, deployed)

end Answers

end Deployed

def Federation.Call.Acts : Federation.Call → Prop
  | .config (.nameSpace _) | .config .namespaces | .config (.binding _) | .config (.hasBindings _) => False
  | .backend _ (.read _) | .backend _ (.list _) => False
  | _ => True

instance Federation.Call.decidableActs (call : Federation.Call) : Decidable call.Acts :=
  match call with
  | .config (.nameSpace _) => .isFalse id
  | .config .namespaces => .isFalse id
  | .config (.binding _) => .isFalse id
  | .config (.hasBindings _) => .isFalse id
  | .config (.insertNamespace _) => .isTrue trivial
  | .config (.removeNamespace _) => .isTrue trivial
  | .config (.setMount _ _) => .isTrue trivial
  | .config (.insertBinding _ _) => .isTrue trivial
  | .config (.removeBinding _) => .isTrue trivial
  | .backend _ (.read _) => .isFalse id
  | .backend _ (.list _) => .isFalse id
  | .backend _ (.write _ _) => .isTrue trivial
  | .backend _ (.delete _) => .isTrue trivial
  | .backend _ (.rename _ _) => .isTrue trivial

def NamespaceKey.userScope (key : NamespaceKey) : Scope := ⟨key.tenant, key.nameSpace, .defaultName⟩

section Checks
variable {Place : Type} [DecidableEq Place] (registry : Registry Place) (versions : Nat → Version)

def Unused (deployed : Deployed Place) (nameSpace : Namespace) : Prop :=
  ∀ place, registry nameSpace.effectiveMount = some (.stored place) → (deployed.stores place).rows nameSpace.key.userScope = []

def Fits (deployed : Deployed Place) : Federation.Call → Prop
  | .config (.removeNamespace key) =>
      (∃ nameSpace, deployed.records.found key = some nameSpace ∧ Unused registry deployed nameSpace) ∧ deployed.records.hasBindings key = false
  | .config (.setMount key _) => ∃ nameSpace, deployed.records.found key = some nameSpace ∧ Unused registry deployed nameSpace
  | .config (.insertBinding address _) => ∃ nameSpace, deployed.records.found (namespaceKey address.scope) = some nameSpace
  | .backend backend (.write target _) => target.address.scope.user = .defaultName ∧
      ∃ nameSpace, deployed.records.found (namespaceKey target.address.scope) = some nameSpace ∧ nameSpace.effectiveMount = backend
  | _ => True

theorem answer_still (call : Federation.Call) (deployed : Deployed Place) (still : ¬call.Acts) :
    (Deployed.answer registry versions call deployed).2 = deployed := by
  have served : ∀ backend command, ¬(Federation.Call.backend backend command).Acts →
      (Deployed.answer registry versions (.backend backend command) deployed).2 = deployed := by
    intro backend command still
    rw [Deployed.answer]
    split
    · rename_i place _
      cases command with
      | read target => exact congrArg (fun stores => { deployed with stores := stores }) (Function.update_eq_self place deployed.stores)
      | list scope => exact congrArg (fun stores => { deployed with stores := stores }) (Function.update_eq_self place deployed.stores)
      | write target value => exact absurd trivial still
      | delete target => exact absurd trivial still
      | rename target newName => exact absurd trivial still
    · rfl
    · rfl
  cases call with
  | backend backend command => exact served backend command still
  | config call =>
      cases call with
      | nameSpace key => rfl
      | namespaces => rfl
      | binding address => rfl
      | hasBindings key => rfl
      | insertNamespace nameSpace => exact absurd trivial still
      | removeNamespace key => exact absurd trivial still
      | setMount key mount => exact absurd trivial still
      | insertBinding address locator => exact absurd trivial still
      | removeBinding address => exact absurd trivial still

end Checks

theorem records_found_key (records : Records) (key : NamespaceKey) (nameSpace : Namespace) (found : records.found key = some nameSpace) :
    nameSpace.key = key := by
  obtain ⟨mount, _, rfl⟩ := Option.map_eq_some_iff.mp found
  rfl

def Federation.Request.performLocal (backends : BackendRef → Option Offer) : (request : Request) → Operation request.Value
  | .secret command => Authorized.perform backends command
  | .namespaces => Request.perform backends .namespaces
  | .addNamespace key mount => Request.perform backends (.addNamespace key mount)
  | .removeNamespace key => Request.perform backends (.removeNamespace key)
  | .setMount key mount => Request.perform backends (.setMount key mount)
  | .bind address locator => Request.perform backends (.bind address locator)
  | .unbind address => Request.perform backends (.unbind address)

section Commands
variable {Place : Type} [DecidableEq Place] (registry : Registry Place) (versions : Nat → Version)

def Knowing {Value : Type} (operation : Operation Value) (known : Deployed Place → Prop) : Prop :=
  operation.Knowing (Deployed.answer registry versions) Federation.Call.Acts (Fits registry) known

theorem knowing_look {Value : Type} (call : Federation.Call) (next : call.Value → Operation Value) (known : Deployed Place → Prop)
    (still : ¬call.Acts)
    (goes : ∀ value, Knowing registry versions (next value) fun deployed =>
      known deployed ∧ (Deployed.answer registry versions call deployed).1 = .ok value) :
    Knowing registry versions (ask call >>= next) known := by
  apply knowing_told
  · exact still
  · intro answer
    cases answer with
    | error error => trivial
    | ok value => exact goes value

theorem knowing_act (call : Federation.Call) (known : Deployed Place → Prop)
    (warranted : ∀ deployed, known deployed → Fits registry deployed call) : Knowing registry versions (ask call) known := by
  by_cases acts : call.Acts
  · intro answer
    refine ⟨_, .acted known call answer acts warranted, ?_⟩
    cases answer <;> trivial
  · apply knowing_told _ _ _ _ _ _ acts
    intro answer
    cases answer <;> trivial

theorem knowing_or_else {Value Result : Type} (found : Option Value) (refused : StorageError) (next : Value → Operation Result)
    (known : Deployed Place → Prop) (goes : ∀ value, found = some value → Knowing registry versions (next value) known) :
    Knowing registry versions (orElse found refused >>= next) known := by
  cases found with
  | none => trivial
  | some value => exact goes value rfl

theorem knowing_ensure {Value : Type} (holds : Bool) (refused : StorageError) (next : Unit → Operation Value)
    (known : Deployed Place → Prop) (goes : holds = true → Knowing registry versions (next ()) known) :
    Knowing registry versions (Prog.ensure holds refused >>= next) known := by
  cases holds with
  | false => trivial
  | true => exact goes rfl

theorem knowing_namespace {Value : Type} (key : NamespaceKey) (next : Option Namespace → Operation Value) (known : Deployed Place → Prop)
    (goes : ∀ found, Knowing registry versions (next found) fun deployed => known deployed ∧ deployed.records.found key = found) :
    Knowing registry versions (config (.nameSpace key) >>= next) known := by
  apply knowing_look registry versions (.config (.nameSpace key)) next known id
  intro found
  exact knowing_mono _ _ _ _ _ (fun deployed both => ⟨both.1, Except.ok.inj both.2⟩) _ (goes found)

theorem knowing_mounted {Value : Type} (scope : Scope) (next : BackendRef × Offer → Operation Value) (known : Deployed Place → Prop)
    (goes : ∀ nameSpace offer, Knowing registry versions (next (nameSpace.effectiveMount, offer)) fun deployed =>
      known deployed ∧ deployed.records.found (namespaceKey scope) = some nameSpace) :
    Knowing registry versions (mounted registry.offers scope >>= next) known := by
  rw [mounted, Prog.bind_assoc]
  apply knowing_namespace
  intro found
  rw [Prog.bind_assoc]
  apply knowing_or_else
  intro nameSpace same
  rw [same, Prog.bind_assoc, registered]
  apply knowing_or_else
  intro offer _
  exact goes nameSpace offer

theorem knowing_resolve {Value : Type} (address : Address) (needs : List Capability) (next : BackendRef × Target → Operation Value)
    (known : Deployed Place → Prop)
    (goes : ∀ nameSpace locator, Knowing registry versions (next (nameSpace.effectiveMount, ⟨address, locator⟩)) fun deployed =>
      known deployed ∧ deployed.records.found (namespaceKey address.scope) = some nameSpace) :
    Knowing registry versions (resolve registry.offers address needs >>= next) known := by
  rw [resolve, Prog.bind_assoc]
  apply knowing_mounted
  intro nameSpace offer
  dsimp only
  rw [Prog.bind_assoc, require]
  apply knowing_ensure
  intro _
  rw [Prog.bind_assoc, locator]
  split
  · rw [Prog.bind_assoc]
    apply knowing_look registry versions (.config (.binding address)) _ _ id
    intro bound
    rw [Prog.bind_assoc]
    apply knowing_or_else
    intro locator _
    exact knowing_mono _ _ _ _ _ (fun deployed both => both.1) _ (goes nameSpace (some locator))
  · exact goes nameSpace none

theorem knowing_holds {Value : Type} (nameSpace : Namespace) (next : Bool → Operation Value) (known : Deployed Place → Prop)
    (used : Knowing registry versions (next true) known)
    (unused : Knowing registry versions (next false) fun deployed => known deployed ∧ Unused registry deployed nameSpace) :
    Knowing registry versions (holdsSecrets registry.offers nameSpace >>= next) known := by
  rw [holdsSecrets, Registry.offers]
  cases found : registry nameSpace.effectiveMount with
  | none =>
      apply knowing_mono _ _ _ _ _ _ _ unused
      intro deployed knows
      refine ⟨knows, fun place stored => ?_⟩
      rw [found] at stored
      cases stored
  | some backing =>
      rw [Option.map_some]
      dsimp only
      have listing : Knowing registry versions
          ((ask (.backend nameSpace.effectiveMount (.list nameSpace.key.userScope)) >>= fun rows => pure !rows.isEmpty) >>= next) known := by
        rw [Prog.bind_assoc]
        apply knowing_look registry versions (.backend nameSpace.effectiveMount (.list nameSpace.key.userScope)) _ _ id
        intro rows
        cases rows with
        | cons row rest => exact knowing_mono _ _ _ _ _ (fun deployed both => both.1) _ used
        | nil =>
            apply knowing_mono _ _ _ _ _ _ _ unused
            intro deployed both
            refine ⟨both.1, fun place stored => ?_⟩
            have empty := both.2
            rw [Deployed.answer, stored] at empty
            have sorted : sort ((deployed.stores place).rows nameSpace.key.userScope) = [] := Except.ok.inj empty
            have permuted := sort_perm ((deployed.stores place).rows nameSpace.key.userScope)
            rw [sorted] at permuted
            exact permuted.symm.eq_nil
      split
      · exact listing
      · rename_i unlisted
        apply knowing_mono _ _ _ _ _ _ _ unused
        intro deployed knows
        refine ⟨knows, fun place stored => ?_⟩
        rw [found] at stored
        cases stored
        exact absurd (show Capability.list ∈ Capability.all by decide) unlisted

def Federation.Request.ForUser : Request → Prop
  | .secret (.write target _) => target.address.scope.user = .defaultName
  | _ => True

theorem secret_checked (command : Command) (forUser : (Request.secret command).ForUser) :
    Knowing registry versions (Federation.perform registry.offers command) fun _ => True := by
  cases command with
  | read target =>
      apply knowing_resolve
      intro nameSpace locator
      exact knowing_act registry versions _ _ fun _ _ => trivial
  | write target value =>
      apply knowing_resolve
      intro nameSpace locator
      apply knowing_act
      intro deployed both
      exact ⟨forUser, nameSpace, both.2, rfl⟩
  | delete target =>
      apply knowing_resolve
      intro nameSpace locator
      exact knowing_act registry versions _ _ fun _ _ => trivial
  | rename target newName =>
      apply knowing_resolve
      intro nameSpace locator
      have looked : ∀ taken known, Knowing registry versions (do
          Prog.ensure (!taken) .conflict
          ask (.backend nameSpace.effectiveMount (.rename ⟨target.address, locator⟩ newName))) known := by
        intro taken known
        apply knowing_ensure
        intro _
        exact knowing_act registry versions _ _ fun _ _ => trivial
      dsimp only
      rw [Federation.bound, Prog.bind_assoc]
      apply knowing_look registry versions (.config (.binding target.address)) _ _ id
      intro source
      split
      · exact looked true _
      · rw [Prog.bind_assoc]
        apply knowing_look registry versions (.config (.binding _)) _ _ id
        intro destination
        exact looked destination.isSome _
  | list scope =>
      apply knowing_mounted
      intro nameSpace offer
      apply knowing_ensure
      intro _
      apply knowing_look registry versions (.backend nameSpace.effectiveMount (.list scope)) _ _ id
      intro rows
      trivial

theorem request_checked (request : Request) (forUser : request.ForUser) :
    Knowing registry versions (request.perform registry.offers) fun _ => True := by
  cases request with
  | secret command => exact secret_checked registry versions command forUser
  | namespaces => exact knowing_act registry versions _ _ fun _ _ => trivial
  | addNamespace key mount =>
      apply knowing_namespace
      intro found
      apply knowing_ensure
      intro _
      apply knowing_or_else
      intro offer _
      exact knowing_act registry versions _ _ fun _ _ => trivial
  | removeNamespace key =>
      apply knowing_ensure
      intro _
      apply knowing_namespace
      intro found
      apply knowing_or_else
      intro nameSpace same
      rw [inUse, Prog.bind_assoc]
      apply knowing_look registry versions (.config (.hasBindings nameSpace.key)) _ _ id
      intro bound
      cases bound with
      | true => trivial
      | false =>
          rw [if_neg Bool.false_ne_true]
          apply knowing_holds
          · trivial
          · apply knowing_act
            intro deployed ⟨⟨⟨_, here⟩, unbound⟩, unused⟩
            rw [same] at here
            have named := records_found_key deployed.records key nameSpace here
            rw [named] at unbound
            exact ⟨⟨nameSpace, here, unused⟩, Except.ok.inj unbound⟩
  | setMount key mount =>
      apply knowing_namespace
      intro found
      apply knowing_or_else
      intro nameSpace same
      apply knowing_or_else
      intro offer _
      apply knowing_holds
      · trivial
      · apply knowing_act
        intro deployed ⟨⟨_, here⟩, unused⟩
        rw [same] at here
        exact ⟨nameSpace, here, unused⟩
  | bind address locator =>
      apply knowing_namespace
      intro found
      apply knowing_or_else
      intro nameSpace same
      apply knowing_act
      intro deployed ⟨_, here⟩
      rw [same] at here
      exact ⟨nameSpace, here⟩
  | unbind address => exact knowing_act registry versions _ _ fun _ _ => trivial

theorem local_checked (request : Request) : Knowing registry versions (request.performLocal registry.offers) fun _ => True := by
  cases request with
  | secret command =>
      change Knowing registry versions (Authorized.perform registry.offers command) fun _ => True
      by_cases inside : command.scope.Local
      · rw [perform_local registry.offers command inside]
        apply secret_checked
        cases command with
        | write target value => exact inside.2
        | _ => trivial
      · rw [perform_foreign registry.offers command inside]
        trivial
  | namespaces => exact request_checked registry versions .namespaces trivial
  | addNamespace key mount => exact request_checked registry versions (.addNamespace key mount) trivial
  | removeNamespace key => exact request_checked registry versions (.removeNamespace key) trivial
  | setMount key mount => exact request_checked registry versions (.setMount key mount) trivial
  | bind address locator => exact request_checked registry versions (.bind address locator) trivial
  | unbind address => exact request_checked registry versions (.unbind address) trivial

end Commands
end Secrets
