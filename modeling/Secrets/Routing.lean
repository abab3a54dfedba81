import Secrets.Federation

set_option autoImplicit false

namespace Secrets

open Effects Programs Storage Federation

namespace Storage.Command

def scope : Command → Scope
  | .read target | .write target _ | .delete target | .rename target _ => target.address.scope
  | .list scope => scope

def needs : Command → List Capability
  | .read _ => [.read]
  | .write _ _ => [.write]
  | .delete _ => [.delete]
  | .rename _ _ => [.write, .delete]
  | .list _ => [.list]

def address : Command → Option Address
  | .read target | .write target _ | .delete target | .rename target _ => some target.address
  | .list _ => none

def moved : Command → List Address
  | .rename target newName => [target.address, target.address.renamed newName]
  | _ => []

def directed (bound : Address → Option Locator) : Command → Command
  | .read target => .read ⟨target.address, bound target.address⟩
  | .write target value => .write ⟨target.address, bound target.address⟩ value
  | .delete target => .delete ⟨target.address, bound target.address⟩
  | .rename target newName => .rename ⟨target.address, bound target.address⟩ newName
  | .list scope => .list scope

def returned (bound : Address → Option Locator) : (command : Command) →
    Except StorageError (command.directed bound).Answer → Except StorageError command.Answer
  | .read _, answer | .write _ _, answer | .delete _, answer | .rename _ _, answer => answer
  | .list scope, answer => answer.map fun rows => rows.filter fun row => decide (row.address.scope = scope)

end Storage.Command

def Records.mountOf (records : Records) (backends : BackendRef → Option Offer) (scope : Scope) : Option (BackendRef × Offer) :=
  match records.found (namespaceKey scope) with
  | none => none
  | some nameSpace => (backends nameSpace.effectiveMount).map fun offer => (nameSpace.effectiveMount, offer)

def Records.locatorFor (records : Records) (offer : Offer) (address : Address) : Option Locator :=
  if offer.requiresBinding then records.bindings[address]? else none

def Records.refuses (records : Records) (backends : BackendRef → Option Offer) (command : Command) : Option StorageError :=
  match records.mountOf backends command.scope with
  | none => some .notFound
  | some (_, offer) =>
      if ∃ need ∈ command.needs, need ∉ offer.capabilities then some .unsupported
      else if offer.requiresBinding ∧ ∃ address ∈ command.address, records.bindings[address]? = none then some .notFound
      else if ∃ name ∈ command.moved, (records.bindings[name]?).isSome then some .conflict
      else none

-- A configuration beside backends that answer anything, their calls on record.
structure Traffic where
  records : Records
  calls : List (BackendRef × Command)

abbrev Oracle : Type := List (BackendRef × Command) → BackendRef → (command : Command) → Except StorageError command.Answer

def Oracle.answer (oracle : Oracle) : (call : Federation.Call) → Traffic → call.Answer × Traffic
  | .config call, traffic =>
      ((InMemoryConfig.perform call traffic.records).1, { traffic with records := (InMemoryConfig.perform call traffic.records).2 })
  | .backend backend command, traffic =>
      (oracle traffic.calls backend command, { traffic with calls := traffic.calls ++ [(backend, command)] })

section Asking
variable {State Value : Type} (perform : (call : Federation.Call) → State → call.Answer × State)

theorem run_ask_ok (call : Federation.Call) (next : call.Value → Operation Value) (state after : State) (value : call.Value)
    (answered : perform call state = (.ok value, after)) :
    run perform (ask call >>= next) state = run perform (next value) after := by
  rw [ask, Prog.ask_bind, run_ask, answered]
  rfl

theorem run_ask_error (call : Federation.Call) (next : call.Value → Operation Value) (state after : State) (error : StorageError)
    (answered : perform call state = (.error error, after)) :
    run perform (ask call >>= next) state = (.error error, after) := by
  rw [ask, Prog.ask_bind, run_ask, answered]
  rfl

theorem run_ask_last (call : Federation.Call) (state : State) : run perform (ask call) state = perform call state := by
  rw [ask, run_ask, run_lift]

end Asking

-- In this state the configuration answers lookups from these records.
structure Reads {State : Type} (perform : (call : Federation.Call) → State → call.Answer × State) (records : Records) (state : State) :
    Prop where
  nameSpace : ∀ key, perform (.config (.nameSpace key)) state = (.ok (records.found key), state)
  binding : ∀ address : Address, perform (.config (.binding address)) state = (.ok records.bindings[address]?, state)

section Resolution
variable (backends : BackendRef → Option Offer) (records : Records)

def Records.resolves (address : Address) (needs : List Capability) : Except StorageError (BackendRef × Target) :=
  match records.mountOf backends address.scope with
  | none => .error .notFound
  | some (backend, offer) =>
      if ∃ need ∈ needs, need ∉ offer.capabilities then .error .unsupported
      else if offer.requiresBinding ∧ records.bindings[address]? = none then .error .notFound
      else .ok (backend, ⟨address, records.locatorFor offer address⟩)

theorem refuses_addressed (command : Command) (address : Address) (addressed : command.address = some address)
    (placed : command.scope = address.scope) :
    records.refuses backends command =
      match records.resolves backends address command.needs with
      | .error refused => some refused
      | .ok _ => if ∃ name ∈ command.moved, (records.bindings[name]?).isSome then some .conflict else none := by
  unfold Records.refuses Records.resolves
  rw [placed]
  cases records.mountOf backends address.scope with
  | none => rfl
  | some place =>
      obtain ⟨backend, offer⟩ := place
      simp only [addressed, Option.mem_def, Option.some.injEq, exists_eq_left']
      by_cases lacking : ∃ need ∈ command.needs, need ∉ offer.capabilities
      · rw [if_pos lacking, if_pos lacking]
      · rw [if_neg lacking, if_neg lacking]
        by_cases unbound : offer.requiresBinding ∧ records.bindings[address]? = none
        · rw [if_pos unbound, if_pos unbound]
        · rw [if_neg unbound, if_neg unbound]

theorem resolves_ok (address : Address) (needs : List Capability) (backend : BackendRef) (target : Target)
    (resolved : records.resolves backends address needs = .ok (backend, target)) :
    ∃ offer, records.mountOf backends address.scope = some (backend, offer) ∧ target = ⟨address, records.locatorFor offer address⟩ := by
  unfold Records.resolves at resolved
  cases found : records.mountOf backends address.scope with
  | none =>
      rw [found] at resolved
      cases resolved
  | some place =>
      obtain ⟨mounted, offer⟩ := place
      rw [found] at resolved
      dsimp only at resolved
      split at resolved
      · cases resolved
      · split at resolved
        · cases resolved
        · cases resolved
          exact ⟨offer, rfl, rfl⟩

section Running
variable {State : Type} (perform : (call : Federation.Call) → State → call.Answer × State) (state : State)

theorem run_require {Value : Type} (offer : Offer) (needs : List Capability) (next : Unit → Operation Value) :
    run perform (require offer needs >>= next) state =
      if ∃ need ∈ needs, need ∉ offer.capabilities then (.error .unsupported, state)
      else run perform (next ()) state := by
  unfold require Prog.ensure
  by_cases lacking : ∃ need ∈ needs, need ∉ offer.capabilities
  · obtain ⟨need, asked, missing⟩ := lacking
    have short : (needs.all fun need => decide (need ∈ offer.capabilities)) = false :=
      List.all_eq_false.mpr ⟨need, asked, by simpa using missing⟩
    rw [short, if_neg Bool.false_ne_true, if_pos ⟨need, asked, missing⟩]
    rfl
  · have all : (needs.all fun need => decide (need ∈ offer.capabilities)) = true := by
      refine List.all_eq_true.mpr fun need asked => decide_eq_true ?_
      by_contra missing
      exact lacking ⟨need, asked, missing⟩
    rw [all, if_pos rfl, if_neg lacking]
    rfl

variable (reads : Reads perform records state)
include reads

theorem run_mounted {Value : Type} (scope : Scope) (next : BackendRef × Offer → Operation Value) :
    run perform (mounted backends scope >>= next) state =
      match records.mountOf backends scope with
      | none => (.error .notFound, state)
      | some place => run perform (next place) state := by
  unfold mounted config
  rw [Prog.bind_assoc, run_ask_ok perform (.config (.nameSpace (namespaceKey scope))) _ _ state
    (records.found (namespaceKey scope)) (reads.nameSpace _)]
  unfold Records.mountOf
  cases found : records.found (namespaceKey scope) with
  | none => rfl
  | some nameSpace =>
      rw [orElse, Prog.done_bind, registered]
      dsimp only
      cases backends nameSpace.effectiveMount with
      | none => rfl
      | some offer => rfl

theorem run_locator {Value : Type} (offer : Offer) (address : Address) (next : Option Locator → Operation Value) :
    run perform (locator offer address >>= next) state =
      if offer.requiresBinding ∧ records.bindings[address]? = none then (.error .notFound, state)
      else run perform (next (records.locatorFor offer address)) state := by
  unfold locator Records.locatorFor
  by_cases needed : offer.requiresBinding = true
  · rw [if_pos needed, if_pos needed, config, Prog.bind_assoc, run_ask_ok perform (.config (.binding address)) _ _
      state records.bindings[address]? (reads.binding _)]
    cases records.bindings[address]? with
    | none =>
        rw [if_pos ⟨needed, rfl⟩]
        rfl
    | some there =>
        rw [if_neg (by simp)]
        rfl
  · rw [if_neg needed, if_neg needed, if_neg (fun both => needed both.1)]
    rfl

theorem run_resolve {Value : Type} (address : Address) (needs : List Capability) (next : BackendRef × Target → Operation Value) :
    run perform (resolve backends address needs >>= next) state =
      match records.resolves backends address needs with
      | .error refused => (.error refused, state)
      | .ok place => run perform (next place) state := by
  unfold resolve Records.resolves
  rw [Prog.bind_assoc, run_mounted backends records perform state reads]
  cases records.mountOf backends address.scope with
  | none => rfl
  | some place =>
      obtain ⟨backend, offer⟩ := place
      dsimp only
      rw [Prog.bind_assoc, run_require]
      by_cases lacking : ∃ need ∈ needs, need ∉ offer.capabilities
      · rw [if_pos lacking, if_pos lacking]
      · rw [if_neg lacking, if_neg lacking, Prog.bind_assoc, run_locator records perform state reads]
        by_cases unbound : offer.requiresBinding ∧ records.bindings[address]? = none
        · rw [if_pos unbound, if_pos unbound]
        · rw [if_neg unbound, if_neg unbound]
          rfl

theorem run_bound {Value : Type} (address renamed : Address) (next : Bool → Operation Value) :
    run perform (Federation.bound address renamed >>= next) state =
      run perform (next ((records.bindings[address]?).isSome || (records.bindings[renamed]?).isSome)) state := by
  unfold Federation.bound config
  rw [Prog.bind_assoc, run_ask_ok perform (.config (.binding address)) _ _ state records.bindings[address]? (reads.binding _)]
  cases records.bindings[address]? with
  | some there => rfl
  | none =>
      rw [Option.isSome_none, if_neg Bool.false_ne_true, Bool.false_or, Prog.bind_assoc,
        run_ask_ok perform (.config (.binding renamed)) _ _ state records.bindings[renamed]? (reads.binding _)]
      rfl

def reached (backend : BackendRef) (bound : Address → Option Locator) (command : Command) : Except StorageError command.Answer × State :=
  (command.returned bound (perform (.backend backend (command.directed bound)) state).1,
    (perform (.backend backend (command.directed bound)) state).2)

-- A command is refused, or a backend answers it.
structure Resolved (command : Command) : Prop where
  refused : ∀ refused, records.refuses backends command = some refused →
    run perform (Federation.perform backends command) state = (.error refused, state)
  called : records.refuses backends command = none → ∃ backend offer,
    records.mountOf backends command.scope = some (backend, offer) ∧
    run perform (Federation.perform backends command) state = reached perform state backend (records.locatorFor offer) command

theorem resolved_addressed (command : Command) (address : Address) (addressed : command.address = some address)
    (placed : command.scope = address.scope) (next : BackendRef × Target → Operation command.Answer)
    (program : Federation.perform backends command = resolve backends address command.needs >>= next)
    (goes : ∀ backend offer, run perform (next (backend, ⟨address, records.locatorFor offer address⟩)) state =
      if ∃ name ∈ command.moved, (records.bindings[name]?).isSome then (.error .conflict, state)
      else reached perform state backend (records.locatorFor offer) command) :
    Resolved backends records perform state command := by
  have refuses := refuses_addressed backends records command address addressed placed
  have ran := run_resolve backends records perform state reads address command.needs next
  rw [← program] at ran
  cases resolved : records.resolves backends address command.needs with
  | error reason =>
      rw [resolved] at refuses ran
      constructor
      · intro refused same
        cases refuses.symm.trans same
        exact ran
      · intro none
        cases refuses.symm.trans none
  | ok place =>
      obtain ⟨backend, target⟩ := place
      obtain ⟨offer, mounted, rfl⟩ := resolves_ok backends records address command.needs backend target resolved
      rw [resolved] at refuses ran
      dsimp only at refuses ran
      rw [goes] at ran
      by_cases bound : ∃ name ∈ command.moved, (records.bindings[name]?).isSome
      · rw [if_pos bound] at refuses ran
        constructor
        · intro refused same
          cases refuses.symm.trans same
          exact ran
        · intro none
          cases refuses.symm.trans none
      · rw [if_neg bound] at refuses ran
        constructor
        · intro refused same
          cases refuses.symm.trans same
        · intro _
          rw [placed]
          exact ⟨backend, offer, mounted, ran⟩

omit reads in
theorem none_moved (command : Command) (still : command.moved = []) : ¬∃ name ∈ command.moved, (records.bindings[name]?).isSome := by
  rw [still]
  intro ⟨name, member, _⟩
  cases member

theorem resolved_rename (target : Target) (newName : SecretName) : Resolved backends records perform state (.rename target newName) := by
  have moved : (∃ name ∈ (Command.rename target newName).moved, (records.bindings[name]?).isSome) ↔
      ((records.bindings[target.address]?).isSome || (records.bindings[target.address.renamed newName]?).isSome) = true := by
    simp [Command.moved]
  apply resolved_addressed backends records perform state reads _ target.address rfl rfl _ rfl
  intro backend offer
  dsimp only
  rw [run_bound records perform state reads]
  by_cases taken : ∃ name ∈ (Command.rename target newName).moved, (records.bindings[name]?).isSome
  · rw [if_pos taken, moved.mp taken]
    rfl
  · rw [if_neg taken, Bool.eq_false_iff.mpr fun found => taken (moved.mpr found)]
    exact run_ask_last _ _ _

theorem resolved_list (scope : Scope) : Resolved backends records perform state (.list scope) := by
  have ran : run perform (Federation.perform backends (.list scope)) state = _ :=
    run_mounted backends records perform state reads scope _
  have refuses : records.refuses backends (.list scope) = match records.mountOf backends scope with
      | none => some .notFound
      | some (_, offer) => if ∃ need ∈ [Capability.list], need ∉ offer.capabilities then some .unsupported else none := by
    unfold Records.refuses
    simp [Command.address, Command.moved, Command.scope, Command.needs]
  cases found : records.mountOf backends scope with
  | none =>
      rw [found] at ran refuses
      constructor
      · intro refused same
        cases refuses.symm.trans same
        exact ran
      · intro none
        cases refuses.symm.trans none
  | some place =>
      obtain ⟨backend, offer⟩ := place
      rw [found] at ran refuses
      dsimp only at ran refuses
      rw [run_require] at ran
      by_cases lacking : ∃ need ∈ [Capability.list], need ∉ offer.capabilities
      · rw [if_pos lacking] at ran refuses
        constructor
        · intro refused same
          cases refuses.symm.trans same
          exact ran
        · intro none
          cases refuses.symm.trans none
      · rw [if_neg lacking] at ran refuses
        constructor
        · intro refused same
          cases refuses.symm.trans same
        · intro _
          refine ⟨backend, offer, found, ran.trans ?_⟩
          rw [reached]
          cases reply : perform (.backend backend (.list scope)) state with
          | mk rows after =>
              cases rows with
              | error error =>
                  rw [run_ask_error perform (.backend backend (.list scope)) _ _ after error reply]
                  simp only [Command.returned, Command.directed, reply]
                  rfl
              | ok rows =>
                  rw [run_ask_ok perform (.backend backend (.list scope)) _ _ after rows reply]
                  simp only [Command.returned, Command.directed, reply]
                  rfl

theorem resolved (command : Command) : Resolved backends records perform state command := by
  cases command with
  | read target =>
      apply resolved_addressed backends records perform state reads (.read target) target.address rfl rfl _ rfl
      intro backend offer
      rw [if_neg (none_moved records (.read target) rfl)]
      exact run_ask_last _ _ _
  | write target value =>
      apply resolved_addressed backends records perform state reads (.write target value) target.address rfl rfl _ rfl
      intro backend offer
      rw [if_neg (none_moved records (.write target value) rfl)]
      exact run_ask_last _ _ _
  | delete target =>
      apply resolved_addressed backends records perform state reads (.delete target) target.address rfl rfl _ rfl
      intro backend offer
      rw [if_neg (none_moved records (.delete target) rfl)]
      exact run_ask_last _ _ _
  | rename target newName => exact resolved_rename backends records perform state reads target newName
  | list scope => exact resolved_list backends records perform state reads scope

end Running
end Resolution

section Routed
variable (oracle : Oracle) (backends : BackendRef → Option Offer) (records : Records) (calls : List (BackendRef × Command))

structure Routed (command : Command) : Prop where
  refused : ∀ refused, records.refuses backends command = some refused →
    run oracle.answer (Federation.perform backends command) ⟨records, calls⟩ = (.error refused, ⟨records, calls⟩)
  called : records.refuses backends command = none → ∃ backend offer,
    records.mountOf backends command.scope = some (backend, offer) ∧
    run oracle.answer (Federation.perform backends command) ⟨records, calls⟩ =
      (command.returned (records.locatorFor offer) (oracle calls backend (command.directed (records.locatorFor offer))),
        ⟨records, calls ++ [(backend, command.directed (records.locatorFor offer))]⟩)

theorem routed (command : Command) : Routed oracle backends records calls command := by
  have reads : Reads oracle.answer records ⟨records, calls⟩ := ⟨fun _ => rfl, fun _ => rfl⟩
  have ends := resolved backends records oracle.answer ⟨records, calls⟩ reads command
  exact ⟨ends.refused, ends.called⟩

end Routed

section Walks

def Federation.Request.May : Request → Federation.Call → Prop
  | .secret _, .config (.nameSpace _) | .secret _, .config (.binding _) => True
  | .secret command, .backend _ other => ∃ bound, other = command.directed bound
  | .namespaces, .config .namespaces => True
  | .addNamespace _ _, .config (.nameSpace _) | .addNamespace _ _, .config (.insertNamespace _) => True
  | .removeNamespace key, .config (.removeNamespace other) => other = key ∧ key.nameSpace ≠ .defaultName
  | .removeNamespace _, .config (.nameSpace _) | .removeNamespace _, .config (.hasBindings _)
  | .removeNamespace _, .backend _ (.list _) => True
  | .setMount _ _, .config (.nameSpace _) | .setMount _ _, .config (.setMount _ _) | .setMount _ _, .backend _ (.list _) => True
  | .bind _ _, .config (.nameSpace _) | .bind _ _, .config (.insertBinding _ _) => True
  | .unbind _, .config (.removeBinding _) => True
  | _, _ => False

structure Walk (may : Federation.Call → Prop) (holds : (Value : Type) → Operation Value → Prop) : Prop where
  done : ∀ (Value : Type) (value : Value), holds Value (.done value)
  stop : ∀ (Value : Type) (error : StorageError), holds Value (.stop error)
  bind : ∀ (Value Result : Type) (first : Operation Value) (next : Value → Operation Result), holds Value first →
    (∀ value, holds Result (next value)) → holds Result (first >>= next)
  ask : ∀ call, may call → holds call.Value (ask call)

variable (backends : BackendRef → Option Offer) (may : Federation.Call → Prop) (holds : (Value : Type) → Operation Value → Prop)
  (walk : Walk may holds)
include walk

theorem walk_or_else {Value : Type} (found : Option Value) (refused : StorageError) : holds Value (orElse found refused) := by
  cases found with
  | none => exact walk.stop _ _
  | some value => exact walk.done _ _

theorem walk_ensure (kept : Bool) (refused : StorageError) : holds Unit (Prog.ensure kept refused) := by
  cases kept with
  | false => exact walk.stop _ _
  | true => exact walk.done _ _

theorem walk_mounted (lookup : ∀ key, may (.config (.nameSpace key))) (scope : Scope) : holds _ (mounted backends scope) := by
  apply walk.bind _ _ _ _ (walk.ask _ (lookup _))
  intro found
  apply walk.bind _ _ _ _ (walk_or_else may holds walk _ _)
  intro nameSpace
  exact walk.bind _ _ _ _ (walk_or_else may holds walk _ _) fun _ => walk.done _ _

theorem walk_resolve {Value : Type} (lookup : ∀ key, may (.config (.nameSpace key))) (binding : ∀ address, may (.config (.binding address)))
    (address : Address) (needs : List Capability) (next : BackendRef × Target → Operation Value)
    (goes : ∀ backend locator, holds Value (next (backend, ⟨address, locator⟩))) : holds Value (resolve backends address needs >>= next) := by
  rw [resolve, Prog.bind_assoc]
  apply walk.bind _ _ _ _ (walk_mounted backends may holds walk lookup _)
  intro place
  rw [Prog.bind_assoc]
  apply walk.bind _ _ _ _ (walk_ensure may holds walk _ _)
  intro _
  rw [Prog.bind_assoc]
  apply walk.bind
  · rw [locator]
    split
    · apply walk.bind _ _ _ _ (walk.ask _ (binding _))
      intro bound
      exact walk.bind _ _ _ _ (walk_or_else may holds walk _ _) fun _ => walk.done _ _
    · exact walk.done _ _
  · exact goes place.1

theorem walk_holds (serves : ∀ backend scope, may (.backend backend (.list scope))) (nameSpace : Namespace) :
    holds _ (holdsSecrets backends nameSpace) := by
  rw [holdsSecrets]
  split
  · exact walk.done _ _
  · split
    · exact walk.bind _ _ _ _ (walk.ask _ (serves _ _)) fun _ => walk.done _ _
    · exact walk.done _ _

theorem walk_perform (lookup : ∀ key, may (.config (.nameSpace key))) (binding : ∀ address, may (.config (.binding address)))
    (command : Command) (serves : ∀ backend bound, may (.backend backend (command.directed bound))) :
    holds _ (Federation.perform backends command) := by
  cases command with
  | read target => exact walk_resolve backends may holds walk lookup binding _ _ _ fun backend locator => walk.ask _ (serves backend fun _ => locator)
  | write target value =>
      exact walk_resolve backends may holds walk lookup binding _ _ _ fun backend locator => walk.ask _ (serves backend fun _ => locator)
  | delete target =>
      exact walk_resolve backends may holds walk lookup binding _ _ _ fun backend locator => walk.ask _ (serves backend fun _ => locator)
  | rename target newName =>
      apply walk_resolve backends may holds walk lookup binding
      intro backend locator
      have looks : holds _ (Federation.bound target.address (target.address.renamed newName)) := by
        apply walk.bind _ _ _ _ (walk.ask _ (binding _))
        intro source
        split
        · exact walk.done _ _
        · exact walk.bind _ _ _ _ (walk.ask _ (binding _)) fun _ => walk.done _ _
      apply walk.bind _ _ _ _ looks
      intro taken
      exact walk.bind _ _ _ _ (walk_ensure may holds walk _ _) fun _ => walk.ask _ (serves backend fun _ => locator)
  | list scope =>
      apply walk.bind _ _ _ _ (walk_mounted backends may holds walk lookup _)
      intro place
      apply walk.bind _ _ _ _ (walk_ensure may holds walk _ _)
      intro _
      exact walk.bind _ _ _ _ (walk.ask _ (serves place.1 fun _ => none)) fun _ => walk.done _ _

omit walk in
theorem walk_request (request : Request) (walk : Walk request.May holds) : holds _ (request.perform backends) := by
  cases request with
  | secret command =>
      exact walk_perform backends _ holds walk (fun _ => trivial) (fun _ => trivial) command fun _ bound => ⟨bound, rfl⟩
  | namespaces => exact walk.ask (.config .namespaces) trivial
  | addNamespace key mount =>
      apply walk.bind _ _ _ _ (walk.ask (.config (.nameSpace key)) trivial)
      intro found
      apply walk.bind _ _ _ _ (walk_ensure _ holds walk _ _)
      intro _
      exact walk.bind _ _ _ _ (walk_or_else _ holds walk _ _) fun _ =>
        walk.ask (.config (.insertNamespace ⟨key, mount⟩)) trivial
  | removeNamespace key =>
      by_cases isDefault : key.nameSpace = .defaultName
      · change holds _ (Federation.removeNamespace backends key)
        rw [Federation.removeNamespace, decide_eq_false (not_not.mpr isDefault)]
        exact walk.stop _ _
      · apply walk.bind _ _ _ _ (walk_ensure _ holds walk _ _)
        intro _
        apply walk.bind _ _ _ _ (walk.ask (.config (.nameSpace key)) trivial)
        intro found
        apply walk.bind _ _ _ _ (walk_or_else _ holds walk _ _)
        intro nameSpace
        have used : holds _ (inUse backends nameSpace) := by
          apply walk.bind _ _ _ _ (walk.ask (.config (.hasBindings nameSpace.key)) trivial)
          intro bound
          split
          · exact walk.done _ _
          · exact walk_holds backends _ holds walk (fun _ _ => trivial) nameSpace
        apply walk.bind _ _ _ _ used
        intro used
        exact walk.bind _ _ _ _ (walk_ensure _ holds walk _ _) fun _ =>
          walk.ask (.config (.removeNamespace key)) ⟨rfl, isDefault⟩
  | setMount key mount =>
      apply walk.bind _ _ _ _ (walk.ask (.config (.nameSpace key)) trivial)
      intro found
      apply walk.bind _ _ _ _ (walk_or_else _ holds walk _ _)
      intro nameSpace
      apply walk.bind _ _ _ _ (walk_or_else _ holds walk _ _)
      intro _
      apply walk.bind _ _ _ _ (walk_holds backends _ holds walk (fun _ _ => trivial) nameSpace)
      intro used
      exact walk.bind _ _ _ _ (walk_ensure _ holds walk _ _) fun _ =>
        walk.ask (.config (.setMount key mount)) trivial
  | bind address locator =>
      apply walk.bind _ _ _ _ (walk.ask (.config (.nameSpace (namespaceKey address.scope))) trivial)
      intro found
      exact walk.bind _ _ _ _ (walk_or_else _ holds walk _ _) fun _ =>
        walk.ask (.config (.insertBinding address locator)) trivial
  | unbind address => exact walk.ask (.config (.removeBinding address)) trivial

omit walk in
theorem asks_ask (call : Federation.Call) (fits : may call) : (ask call).Asks may :=
  ⟨fits, fun answer => Prog.asks_lift may answer⟩

omit walk in
theorem asks_walk : Walk may fun _ operation => operation.Asks may where
  done _ _ := trivial
  stop _ _ := trivial
  bind _ _ first next here later := Prog.asks_bind may first next here later
  ask call fits := asks_ask may call fits

omit walk in
theorem request_asks (request : Request) (fits : ∀ call, request.May call → may call) : (request.perform backends).Asks may :=
  Prog.asks_mono _ _ fits _ (walk_request backends _ request (asks_walk request.May))

end Walks

section Bindings
variable (backends : BackendRef → Option Offer)

def Federation.Call.sparesBindings : Federation.Call → Prop
  | .config (.insertBinding _ _) | .config (.removeBinding _) => False
  | _ => True

def Federation.Request.binds : Request → Prop
  | .bind _ _ | .unbind _ => True
  | _ => False

theorem spares_bindings (request : Request) (other : ¬request.binds) :
    (request.perform backends).Asks Federation.Call.sparesBindings := by
  apply request_asks
  intro call may
  cases call with
  | backend backend command => trivial
  | config call =>
      cases call with
      | insertBinding address locator => cases request <;> first | exact other trivial | exact may
      | removeBinding address => cases request <;> first | exact other trivial | exact may
      | _ => trivial

theorem changed_bindings (records : Records) (change : Except StorageError Records)
    (kept : ∀ after, change = .ok after → after.bindings = records.bindings) : (records.changed change).2.bindings = records.bindings := by
  cases change with
  | ok after => exact kept after rfl
  | error error => rfl

theorem perform_bindings (call : ConfigCall) (records : Records) (spares : (Federation.Call.config call).sparesBindings) :
    (InMemoryConfig.perform call records).2.bindings = records.bindings := by
  cases call with
  | insertNamespace nameSpace =>
      apply changed_bindings
      intro after made
      rw [Records.insertNamespace] at made
      split at made <;> cases made
      rfl
  | removeNamespace key =>
      apply changed_bindings
      intro after made
      rw [Records.removeNamespace] at made
      split at made <;> cases made
      rfl
  | setMount key mount =>
      apply changed_bindings
      intro after made
      rw [Records.setMount] at made
      split at made <;> cases made
      rfl
  | insertBinding address locator => exact absurd spares id
  | removeBinding address => exact absurd spares id
  | nameSpace key => rfl
  | namespaces => rfl
  | binding address => rfl
  | hasBindings key => rfl

theorem request_bindings (oracle : Oracle) (request : Request) (other : ¬request.binds) (traffic : Traffic) :
    (run oracle.answer (request.perform backends) traffic).2.records.bindings = traffic.records.bindings := by
  refine within_run oracle.answer (Tx.Frame.keeping fun traffic : Traffic => traffic.records.bindings)
    Federation.Call.sparesBindings ?_ _ (spares_bindings backends request other) traffic
  intro call state spares
  cases call with
  | config call => exact perform_bindings call state.records spares
  | backend backend command => rfl

end Bindings

/-- One backend and no fallback: the first refusal that holds, with no backend called, or
one call of the same kind on the mounted backend. Only bind and unbind touch bindings. -/
theorem one_backend (oracle : Oracle) (backends : BackendRef → Option Offer) (traffic : Traffic) :
    (∀ command, Routed oracle backends traffic.records traffic.calls command) ∧
    ∀ request : Request, ¬request.binds →
      (run oracle.answer (request.perform backends) traffic).2.records.bindings = traffic.records.bindings :=
  ⟨routed oracle backends traffic.records traffic.calls, fun request other => request_bindings backends oracle request other traffic⟩

end Secrets
