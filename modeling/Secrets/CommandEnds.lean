import Secrets.Deployment
import Secrets.PutWhole

set_option autoImplicit false

namespace Secrets

open Programs Storage Federation
open Framing (Bytes)

-- A change that was made.
def Federation.Call.Done (call : Federation.Call) (answer : call.Answer) : Prop := call.Acts ∧ answer.isOk = true

instance (call : Federation.Call) (answer : call.Answer) : Decidable (call.Done answer) := inferInstanceAs (Decidable (_ ∧ _))

section Settling

inductive Federation.Moves : Bool → (call : Federation.Call) → call.Answer → Bool → Prop where
  | undone (call : Federation.Call) (answer : call.Answer) (still : ¬call.Done answer) : Moves false call answer false
  | done (call : Federation.Call) (answer : call.Answer) (did : call.Done answer) : Moves false call answer true

def Local.Call.Done : (call : Local.Call) → call.Answer → Prop
  | .stack call, answer => call.Done answer
  | .prepareOut, _ => False
  | .commitOut _, answer => answer = .ok ()

inductive Local.Moves : Bool → (call : Local.Call) → call.Answer → Bool → Prop where
  | undone (call : Local.Call) (answer : call.Answer) (still : ¬call.Done answer) : Moves false call answer false
  | done (call : Local.Call) (answer : call.Answer) (did : call.Done answer) : Moves false call answer true

def Succeeds {Error Value : Type} (ended : Except Error Value) (acted : Bool) : Prop := acted = true → ended.isOk = true

def Federation.Settles (Value : Type) (operation : Operation Value) : Prop := operation.Heeds Federation.Moves Succeeds false

def Local.Settles (Value : Type) (operation : Local.Operation Value) : Prop := operation.Heeds Local.Moves Succeeds false

-- What only looks, before whatever settles.
def Federation.Looks (Value : Type) (operation : Operation Value) : Prop :=
  ∀ (Result : Type) (next : Value → Operation Result), (∀ value, Federation.Settles Result (next value)) →
    Federation.Settles Result (operation >>= next)

def Local.Looks (Value : Type) (operation : Local.Operation Value) : Prop :=
  ∀ (Result : Type) (next : Value → Local.Operation Result), (∀ value, Local.Settles Result (next value)) →
    Local.Settles Result (operation >>= next)

namespace Federation

theorem looks_walk : Walk (fun call => ¬call.Acts) Looks where
  done Value value Result next goes := goes value
  stop Value error Result next goes := fun acted => absurd acted Bool.false_ne_true
  bind Value Middle first later here after Result next goes := by
    rw [Prog.bind_assoc]
    apply here
    intro value
    exact after value Result next goes
  ask call still Result next goes := by
    intro answer
    refine ⟨false, .undone call answer fun did => still did.1, ?_⟩
    cases answer with
    | error error => exact fun acted => absurd acted Bool.false_ne_true
    | ok value => exact goes value

theorem settles_ask (call : Federation.Call) : Settles call.Value (ask call) := by
  intro answer
  by_cases did : call.Done answer
  · refine ⟨true, .done call answer did, ?_⟩
    cases answer with
    | error error => cases did.2
    | ok value => exact fun _ => rfl
  · refine ⟨false, .undone call answer did, ?_⟩
    cases answer with
    | error error => exact fun acted => absurd acted Bool.false_ne_true
    | ok value => exact fun _ => rfl

section Requests
variable (backends : BackendRef → Option Offer)

theorem looks_resolve (address : Address) (needs : List Capability) : Looks _ (resolve backends address needs) := by
  intro Result next goes
  have walked := walk_resolve backends _ _ looks_walk (fun _ => id) (fun _ => id) address needs .done
    (fun backend locator => looks_walk.done _ (backend, (⟨address, locator⟩ : Target))) Result next goes
  rw [Prog.bind_assoc] at walked
  exact walked

theorem perform_settles (command : Command) : Settles command.Answer (Federation.perform backends command) := by
  cases command with
  | read target =>
      apply looks_resolve
      intro place
      exact settles_ask _
  | write target value =>
      apply looks_resolve
      intro place
      exact settles_ask _
  | delete target =>
      apply looks_resolve
      intro place
      exact settles_ask _
  | rename target newName =>
      apply looks_resolve
      intro place
      have looked : Looks _ (Federation.bound target.address (target.address.renamed newName)) := by
        apply looks_walk.bind _ _ _ _ (looks_walk.ask (.config (.binding _)) id)
        intro source
        split
        · exact looks_walk.done _ true
        · exact looks_walk.bind _ _ _ _ (looks_walk.ask (.config (.binding _)) id) fun found => looks_walk.done _ found.isSome
      apply looked
      intro taken
      apply walk_ensure _ _ looks_walk
      intro _
      exact settles_ask _
  | list scope =>
      apply walk_mounted backends _ _ looks_walk fun _ => id
      intro place
      apply walk_ensure _ _ looks_walk
      intro _
      apply looks_walk.ask (.backend place.1 (.list scope)) id
      intro rows acted
      exact absurd acted Bool.false_ne_true

theorem request_settles (request : Request) : Settles request.Value (request.perform backends) := by
  cases request with
  | secret command => exact perform_settles backends command
  | namespaces => exact settles_ask _
  | addNamespace key mount =>
      apply looks_walk.ask (.config (.nameSpace key)) id
      intro found
      apply walk_ensure _ _ looks_walk
      intro _
      apply walk_or_else _ _ looks_walk
      intro offer
      exact settles_ask _
  | removeNamespace key =>
      apply walk_ensure _ _ looks_walk
      intro _
      apply looks_walk.ask (.config (.nameSpace key)) id
      intro found
      apply walk_or_else _ _ looks_walk
      intro nameSpace
      have looked : Looks _ (inUse backends nameSpace) := by
        apply looks_walk.bind _ _ _ _ (looks_walk.ask (.config (.hasBindings _)) id)
        intro bound
        split
        · exact looks_walk.done _ true
        · exact walk_holds backends _ _ looks_walk (fun _ _ => id) nameSpace
      apply looked
      intro used
      apply walk_ensure _ _ looks_walk
      intro _
      exact settles_ask _
  | setMount key mount =>
      apply looks_walk.ask (.config (.nameSpace key)) id
      intro found
      apply walk_or_else _ _ looks_walk
      intro nameSpace
      apply walk_or_else _ _ looks_walk
      intro offer
      apply walk_holds backends _ _ looks_walk fun _ _ => id
      intro used
      apply walk_ensure _ _ looks_walk
      intro _
      exact settles_ask _
  | bind address locator =>
      apply looks_walk.ask (.config (.nameSpace (namespaceKey address.scope))) id
      intro found
      apply walk_or_else _ _ looks_walk
      intro nameSpace
      exact settles_ask _
  | unbind address => exact settles_ask _

end Requests
end Federation

namespace Local

theorem looks_done (Value : Type) (value : Value) : Looks Value (.done value) := fun _ _ goes => goes value

theorem looks_stop (Value : Type) (failure : Failure) : Looks Value (.stop failure) :=
  fun _ _ _ acted => absurd acted Bool.false_ne_true

theorem looks_bind (Value Result : Type) (first : Operation Value) (next : Value → Operation Result) (here : Looks Value first)
    (after : ∀ value, Looks Result (next value)) : Looks Result (first >>= next) := by
  intro Last last goes
  rw [Prog.bind_assoc]
  apply here
  intro value
  exact after value Last last goes

theorem looks_lift (Value : Type) (result : Except Failure Value) : Looks Value (Prog.lift result) := by
  cases result with
  | error failure => exact looks_stop Value failure
  | ok value => exact looks_done Value value

theorem looks_ensure (holds : Bool) (refused : Failure) : Looks Unit (Prog.ensure holds refused) := by
  cases holds with
  | false => exact looks_stop Unit refused
  | true => exact looks_done Unit ()

theorem looks_prepare : Looks Unit (out .prepareOut id) := by
  intro Result next goes answer
  refine ⟨false, .undone .prepareOut answer id, ?_⟩
  exact looks_lift Unit _ Result next goes

theorem looks_storage (Value : Type) (operation : Federation.Operation Value) (looks : operation.Asks fun call => ¬call.Acts) :
    Looks Value (storage operation) := by
  intro Result next goes
  induction operation with
  | done value => exact goes value
  | stop error => exact looks_stop Value _ Result next goes
  | ask call later ih =>
      intro answer
      exact ⟨false, .undone (.stack call) answer fun did => looks.1 did.1, ih answer (looks.2 answer)⟩

theorem settles_storage (Value Result : Type) (operation : Federation.Operation Value) (report : Value → Result)
    (settles : Federation.Settles Value operation) :
    Settles Result (storage operation >>= fun value => pure (report value)) := by
  apply heeds_bind
  apply heeds_embed Federation.Moves .stack (fun _ answer => answer) _ Local.Moves
  · intro acted call answer after moved
    cases moved with
    | undone _ _ still => exact .undone (.stack call) answer still
    | done _ _ did => exact .done (.stack call) answer did
  · apply heeds_mono _ _ _ _ _ _ settles
    intro ended acted succeeds
    cases ended with
    | error error => exact fun did => Bool.noConfusion (succeeds did)
    | ok value => exact fun _ => rfl

section Commands
variable (opened : Option (BackendRef → Option Offer))

theorem looks_stack : Looks _ (stack opened) := by
  cases opened with
  | none => exact looks_stop _ _
  | some backends => exact looks_done _ backends

theorem looks_or_else (Value : Type) (found : Option Value) (refused : StorageError) : Looks Value (storage (orElse found refused)) := by
  cases found with
  | none => exact looks_stop Value _
  | some value => exact looks_done Value value

theorem looks_mount_of (scope : Scope) : Looks _ (mountOf opened scope) := by
  apply looks_bind _ _ _ _ (looks_stack opened)
  intro backends
  apply looks_bind _ _ _ _ (looks_storage _ _ (asks_ask _ _ id))
  intro found
  exact looks_bind _ _ _ _ (looks_or_else _ found .notFound) fun nameSpace => looks_done _ nameSpace.effectiveMount

theorem looks_parse_mount (text : String) : Looks _ (parseMount text) := by
  rw [parseMount]
  dsimp only
  split
  · exact looks_stop _ _
  · exact looks_bind _ _ _ _ (looks_lift _ _) fun label => looks_done _ _

theorem looks_listed (backends : BackendRef → Option Offer) (scope : Scope) :
    Looks _ (storage (Authorized.perform backends (.list scope))) := by
  apply looks_storage
  apply Prog.asks_bind _ _ _ (Prog.asks_lift _ _)
  intro _
  exact walk_perform backends _ _ (asks_walk _) (fun _ => id) (fun _ => id) (.list scope) fun _ _ => id

theorem looks_rows_of (backends : BackendRef → Option Offer) (scopes : List Scope) : Looks _ (rowsOf opened backends scopes) := by
  induction scopes with
  | nil => exact looks_done _ []
  | cons scope rest ih =>
      apply looks_bind _ _ _ _ (looks_listed backends scope)
      intro rows
      apply looks_bind _ _ _ _ (looks_mount_of opened scope)
      intro backend
      exact looks_bind _ _ _ _ ih fun others => looks_done _ _

theorem looks_address (nameSpace name : String) : Looks _ (address nameSpace name) := looks_lift _ _

theorem looks_key (nameSpace : String) : Looks _ (namespaceKey nameSpace) := looks_lift _ _

theorem looks_manage (resource : Resource) : Looks _ (manage resource) := looks_lift _ _

theorem looks_scopes (nameSpace : String) (all : Bool) : Looks _ (scopes opened nameSpace all) := by
  rw [scopes]
  split
  · apply looks_bind _ _ _ _ (looks_stack opened)
    intro _
    apply looks_bind _ _ _ _ (looks_storage _ _ (asks_ask _ _ id))
    intro namespaces
    exact looks_done _ _
  · exact looks_bind _ _ _ _ (looks_bind _ _ _ _ (looks_lift _ _) fun key => looks_done _ (inNamespace key)) fun scope => looks_done _ [scope]

theorem settles_done (report : Report) : Settles Report (.done report) := fun _ => rfl

theorem describe_settles (nameSpace name : String) : Settles Report (describe opened nameSpace name) := by
  apply looks_address
  intro address
  apply looks_stack
  intro backends
  apply looks_listed
  intro rows
  apply looks_or_else
  intro listed
  apply looks_mount_of
  intro backend
  exact settles_done _

theorem list_settles (nameSpace : String) (all : Bool) : Settles Report (list opened nameSpace all) := by
  apply looks_scopes
  intro scopes
  apply looks_stack
  intro backends
  apply looks_rows_of
  intro rows
  exact settles_done _

theorem authorized_settles (backends : BackendRef → Option Offer) (command : Storage.Command) :
    Federation.Settles _ (Authorized.perform backends command) := by
  by_cases inside : command.scope.Local
  · rw [perform_local backends command inside]
    exact perform_settles backends command
  · rw [perform_foreign backends command inside]
    exact fun acted => absurd acted Bool.false_ne_true

theorem delete_settles (nameSpace name : String) : Settles Report (delete opened nameSpace name) := by
  apply looks_address
  intro address
  apply looks_stack
  intro backends
  exact settles_storage _ _ _ _ (authorized_settles backends (.delete (.unbound address)))

theorem rename_settles (nameSpace name newName : String) : Settles Report (rename opened nameSpace name newName) := by
  apply looks_lift
  intro names
  apply looks_stack
  intro backends
  exact settles_storage _ _ _ _ (authorized_settles backends (.rename (.unbound names.1) names.2))

theorem looks_mount_argument (mount : Option String) : Looks _ (mountArgument mount) := by
  cases mount with
  | none => exact looks_done _ _
  | some text => exact looks_bind _ _ _ _ (looks_parse_mount text) fun mount => looks_done _ (some mount)

theorem namespace_add_settles (name : String) (mount : Option String) : Settles Report (namespaceAdd opened name mount) := by
  apply looks_key
  intro key
  apply looks_mount_argument
  intro mount
  apply looks_manage
  intro _
  apply looks_stack
  intro backends
  exact settles_storage _ _ _ _ (request_settles backends (.addNamespace key mount))

theorem namespace_list_settles : Settles Report (namespaceList opened) := by
  apply looks_manage
  intro _
  apply looks_stack
  intro backends
  exact settles_storage _ _ _ _ (request_settles backends .namespaces)

theorem namespace_remove_settles (name : String) : Settles Report (namespaceRemove opened name) := by
  apply looks_key
  intro key
  apply looks_manage
  intro _
  apply looks_stack
  intro backends
  exact settles_storage _ _ _ _ (request_settles backends (.removeNamespace key))

theorem mount_set_settles (nameSpace mount : String) : Settles Report (mountSet opened nameSpace mount) := by
  apply looks_key
  intro key
  apply looks_parse_mount
  intro mount
  apply looks_manage
  intro _
  apply looks_stack
  intro backends
  exact settles_storage _ _ _ _ (request_settles backends (.setMount key mount))

theorem bind_settles (nameSpace name locator : String) : Settles Report (Local.bind opened nameSpace name locator) := by
  apply looks_address
  intro address
  apply looks_manage
  intro _
  apply looks_stack
  intro backends
  exact settles_storage _ _ _ _ (request_settles backends (.bind address ⟨locator⟩))

theorem unbind_settles (nameSpace name : String) : Settles Report (unbind opened nameSpace name) := by
  apply looks_address
  intro address
  apply looks_manage
  intro _
  apply looks_stack
  intro backends
  exact settles_storage _ _ _ _ (request_settles backends (.unbind address))

def Command.Reports : Command → Prop
  | .put _ => False
  | .read _ _ _ => False
  | _ => True

theorem command_settles (command : Command) (reports : command.Reports) : Settles Report (command.perform opened) := by
  cases command with
  | put args => exact reports.elim
  | read name nameSpace path => exact reports.elim
  | describe name nameSpace => exact describe_settles opened nameSpace name
  | list nameSpace all => exact list_settles opened nameSpace all
  | delete name nameSpace => exact delete_settles opened nameSpace name
  | rename name newName nameSpace => exact rename_settles opened nameSpace name newName
  | namespaceAdd name mount => exact namespace_add_settles opened name mount
  | namespaceList => exact namespace_list_settles opened
  | namespaceRemove name => exact namespace_remove_settles opened name
  | mountSet nameSpace mount => exact mount_set_settles opened nameSpace mount
  | bind name locator nameSpace => exact bind_settles opened nameSpace name locator
  | unbind name nameSpace => exact unbind_settles opened nameSpace name

end Commands
end Local
end Settling

end Secrets
