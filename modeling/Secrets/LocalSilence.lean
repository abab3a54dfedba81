import Secrets.FailedCommands
import Secrets.KeychainMap
import Secrets.KeychainSilence

set_option autoImplicit false

namespace Secrets

open Std (ExtTreeMap)
open Programs Storage Federation Twins
open Framing (Bytes)

inductive Federation.Call.Pairs (like : ValueLikeness) : Pairing Federation.Call Federation.Call.Answer where
  | config (call : ConfigCall) : Pairs like (.config call) (.config call) Eq
  | backend (backend : BackendRef) (left right : Command) (alike : left.Answer → right.Answer → Prop)
      (paired : Command.Pairs like left right alike) : Pairs like (.backend backend left) (.backend backend right) (Ends alike)

def Federation.Call.Plain : Federation.Call → Prop
  | .backend _ (.read _) | .backend _ (.write _ _) => False
  | _ => True

namespace Federation

section Commands
variable (like : ValueLikeness) (backends : BackendRef → Option Offer)

theorem plain_pairs (call : Federation.Call) (plain : call.Plain) : Call.Pairs like call call Eq := by
  have served : ∀ backend command, Command.Pairs like command command Eq →
      Call.Pairs like (.backend backend command) (.backend backend command) Eq := by
    intro backend command paired
    rw [← ends_same]
    exact .backend backend command command Eq paired
  cases call with
  | config call => exact .config call
  | backend backend command =>
      cases command with
      | read target => exact plain.elim
      | write target value => exact plain.elim
      | delete target => exact served backend _ (.delete target)
      | rename target newName => exact served backend _ (.rename target newName)
      | list scope => exact served backend _ (.list scope)

theorem resolve_plain (address : Address) (needs : List Capability) : (resolve backends address needs).Asks Call.Plain :=
  asks_first _ _ Prog.done
    (walk_resolve backends _ _ (asks_walk _) (fun _ => trivial) (fun _ => trivial) address needs _ fun _ _ => trivial)

theorem ask_together (backend : BackendRef) (left right : Command) (alike : left.Answer → right.Answer → Prop)
    (paired : Command.Pairs like left right alike) :
    Together (Call.Pairs like) alike (ask (.backend backend left)) (ask (.backend backend right)) := by
  apply Together.ask _ _ _ (.backend backend left right alike paired)
  intro given other same
  exact together_lift _ _ _ _ same

theorem perform_together (left right : Command) (alike : left.Answer → right.Answer → Prop) (paired : Command.Pairs like left right alike) :
    Together (Call.Pairs like) alike (Federation.perform backends left) (Federation.perform backends right) := by
  cases paired with
  | read target =>
      apply together_after _ Call.Plain (plain_pairs like) _ _ (resolve_plain backends target.address [.read])
      intro place
      exact ask_together like place.1 _ _ _ (.read place.2)
  | write target value other both =>
      apply together_after _ Call.Plain (plain_pairs like) _ _ (resolve_plain backends target.address [.write])
      intro place
      exact ask_together like place.1 _ _ _ (.write place.2 value other both)
  | delete target =>
      exact together_same _ Call.Plain (plain_pairs like) _
        (walk_perform backends _ _ (asks_walk _) (fun _ => trivial) (fun _ => trivial) (.delete target) fun _ _ => trivial)
  | rename target newName =>
      exact together_same _ Call.Plain (plain_pairs like) _
        (walk_perform backends _ _ (asks_walk _) (fun _ => trivial) (fun _ => trivial) (.rename target newName) fun _ _ => trivial)
  | list scope =>
      exact together_same _ Call.Plain (plain_pairs like) _
        (walk_perform backends _ _ (asks_walk _) (fun _ => trivial) (fun _ => trivial) (.list scope) fun _ _ => trivial)

theorem paired_scope (left right : Command) (alike : left.Answer → right.Answer → Prop) (paired : Command.Pairs like left right alike) :
    left.scope = right.scope := by
  cases paired <;> rfl

theorem authorized_together (left right : Command) (alike : left.Answer → right.Answer → Prop) (paired : Command.Pairs like left right alike) :
    Together (Call.Pairs like) alike (Authorized.perform backends left) (Authorized.perform backends right) := by
  have scopes := paired_scope like left right alike paired
  by_cases inside : left.scope.Local
  · rw [perform_local backends left inside, perform_local backends right (scopes ▸ inside)]
    exact perform_together like backends left right alike paired
  · rw [perform_foreign backends left inside, perform_foreign backends right (scopes ▸ inside)]
    exact .stop StorageError.denied

end Commands
end Federation

namespace Local

inductive Call.Pairs (like : ValueLikeness) : Pairing Local.Call Local.Call.Answer where
  | stack (left right : Federation.Call) (answers : left.Answer → right.Answer → Prop) (paired : Federation.Call.Pairs like left right answers) :
      Pairs like (.stack left) (.stack right) answers
  | prepareOut : Pairs like .prepareOut .prepareOut Eq
  | commitOut (bytes other : Bytes) : Pairs like (.commitOut bytes) (.commitOut other) Eq

def Call.Plain : Local.Call → Prop
  | .stack call => call.Plain
  | .prepareOut => True
  | .commitOut _ => False

-- What `put` takes from its input in the two worlds.
structure PutArgs.Veils (like : ValueLikeness) (left right : PutArgs) : Prop where
  name : left.name = right.name
  nameSpace : left.nameSpace = right.nameSpace
  value : left.value.isNone = right.value.isNone
  valueFlag : left.valueFlag.isNone = right.valueFlag.isNone
  input : Ends (fun bytes other => Ends like (SecretValue.new bytes) (SecretValue.new other))
    (ValueInput.read left.source left.raw maxValueBytes) (ValueInput.read right.source right.raw maxValueBytes)

inductive Command.Veils (like : ValueLikeness) : Command → Command → Prop where
  | put (left right : PutArgs) (veils : left.Veils like right) : Veils like (.put left) (.put right)
  | same (command : Command) (other : ∀ args, command ≠ .put args) : Veils like command command

structure Cli.Veils (like : ValueLikeness) (left right : Cli) : Prop where
  json : left.json = right.json
  tenant : left.tenant = right.tenant
  user : left.user = right.user
  command : left.command.Veils like right.command

section Commands
variable (like : ValueLikeness) (opened : Option (BackendRef → Option Offer))

theorem plain_pairs (call : Local.Call) (plain : call.Plain) : Call.Pairs like call call Eq := by
  cases call with
  | stack call => exact .stack call call Eq (Federation.plain_pairs like call plain)
  | prepareOut => exact .prepareOut
  | commitOut bytes => exact plain.elim

theorem storage_together {Left Right : Type} (alike : Left → Right → Prop) (left : Federation.Operation Left) (right : Federation.Operation Right)
    (together : Together (Federation.Call.Pairs like) alike left right) : Together (Call.Pairs like) alike (storage left) (storage right) :=
  together_embed _ _ _ _ _ _ (fun left right answers paired => .stack left right answers paired) left right together

theorem storage_plain {Value : Type} (operation : Federation.Operation Value) (asks : operation.Asks Federation.Call.Plain) :
    (storage operation).Asks Call.Plain :=
  Prog.asks_embed _ _ _ _ _ asks

theorem or_else_plain {Value : Type} (found : Option Value) (refused : StorageError) : (storage (orElse found refused)).Asks Call.Plain := by
  cases found <;> trivial

theorem stack_plain : (stack opened).Asks Call.Plain := by
  cases opened <;> trivial

theorem mount_of_plain (scope : Scope) : (mountOf opened scope).Asks Call.Plain := by
  apply Prog.asks_bind _ _ _ (stack_plain opened)
  intro _
  apply Prog.asks_bind _ _ _ (storage_plain _ (asks_ask _ (.config (.nameSpace _)) trivial))
  intro found
  exact Prog.asks_bind _ _ _ (or_else_plain found _) fun _ => trivial

theorem authorized_plain (backends : BackendRef → Option Offer) (command : Storage.Command)
    (plain : ∀ backend bound, (Federation.Call.backend backend (command.directed bound)).Plain) :
    (storage (Authorized.perform backends command)).Asks Call.Plain := by
  apply storage_plain
  by_cases inside : command.scope.Local
  · rw [perform_local backends command inside]
    exact walk_perform backends _ _ (asks_walk _) (fun _ => trivial) (fun _ => trivial) command plain
  · rw [perform_foreign backends command inside]
    trivial

theorem request_plain (backends : BackendRef → Option Offer) (request : Federation.Request) (manages : ∀ command, request ≠ .secret command) :
    (storage (request.perform backends)).Asks Call.Plain := by
  apply storage_plain
  apply request_asks
  intro call may
  cases call with
  | config call => trivial
  | backend backend command =>
      cases request with
      | secret other => exact absurd rfl (manages other)
      | removeNamespace key => cases command <;> trivial
      | setMount key mount => cases command <;> trivial
      | _ => exact may.elim

theorem reported_plain {Value : Type} (step : Operation Value) (report : Value → Report) (asks : step.Asks Call.Plain) :
    (step >>= fun value => pure (report value)).Asks Call.Plain :=
  Prog.asks_bind _ _ _ asks fun _ => trivial

theorem rows_of_plain (backends : BackendRef → Option Offer) (scopes : List Scope) : (rowsOf opened backends scopes).Asks Call.Plain := by
  induction scopes with
  | nil => trivial
  | cons scope rest ih =>
      apply Prog.asks_bind _ _ _ (authorized_plain backends (.list scope) fun _ _ => trivial)
      intro rows
      apply Prog.asks_bind _ _ _ (mount_of_plain opened scope)
      intro backend
      exact Prog.asks_bind _ _ _ ih fun _ => trivial

theorem parse_mount_plain (text : String) : (parseMount text).Asks Call.Plain := by
  rw [parseMount]
  dsimp only
  split
  · trivial
  · exact Prog.asks_bind _ _ _ (Prog.asks_lift _ _) fun _ => trivial

theorem scopes_plain (nameSpace : String) (all : Bool) : (scopes opened nameSpace all).Asks Call.Plain := by
  rw [scopes]
  split
  · apply Prog.asks_bind _ _ _ (stack_plain opened)
    intro _
    apply Prog.asks_bind _ _ _ (storage_plain _ (asks_ask _ (.config .namespaces) trivial))
    intro namespaces
    trivial
  · have parsed : (localScope nameSpace).Asks Call.Plain := Prog.asks_bind _ _ _ (Prog.asks_lift _ _) fun _ => trivial
    exact Prog.asks_bind _ _ _ parsed fun _ => trivial

theorem command_plain (command : Command) (unput : ∀ args, command ≠ .put args)
    (unread : ∀ name nameSpace path, command ≠ .read name nameSpace path) : (command.perform opened).Asks Call.Plain := by
  cases command with
  | put args => exact absurd rfl (unput args)
  | read name nameSpace path => exact absurd rfl (unread name nameSpace path)
  | describe name nameSpace =>
      apply Prog.asks_bind _ _ _ (Prog.asks_lift _ _)
      intro address
      apply Prog.asks_bind _ _ _ (stack_plain opened)
      intro backends
      apply Prog.asks_bind _ _ _ (authorized_plain backends (.list address.scope) fun _ _ => trivial)
      intro rows
      apply Prog.asks_bind _ _ _ (or_else_plain _ _)
      intro listed
      exact reported_plain _ _ (mount_of_plain opened address.scope)
  | list nameSpace all =>
      apply Prog.asks_bind _ _ _ (scopes_plain opened nameSpace all)
      intro scopes
      apply Prog.asks_bind _ _ _ (stack_plain opened)
      intro backends
      exact reported_plain _ _ (rows_of_plain opened backends scopes)
  | delete name nameSpace =>
      apply Prog.asks_bind _ _ _ (Prog.asks_lift _ _)
      intro address
      apply Prog.asks_bind _ _ _ (stack_plain opened)
      intro backends
      exact reported_plain _ _ (authorized_plain backends (.delete (.unbound address)) fun _ _ => trivial)
  | rename name newName nameSpace =>
      apply Prog.asks_bind _ _ _ (Prog.asks_lift _ _)
      intro names
      apply Prog.asks_bind _ _ _ (stack_plain opened)
      intro backends
      exact reported_plain _ _ (authorized_plain backends (.rename (.unbound names.1) names.2) fun _ _ => trivial)
  | namespaceAdd name mount =>
      apply Prog.asks_bind _ _ _ (Prog.asks_lift _ _)
      intro key
      have argument : (mountArgument mount).Asks Call.Plain := by
        cases mount with
        | none => trivial
        | some text => exact Prog.asks_bind _ _ _ (parse_mount_plain text) fun _ => trivial
      apply Prog.asks_bind _ _ _ argument
      intro mount
      apply Prog.asks_bind _ _ _ (Prog.asks_lift _ _)
      intro _
      apply Prog.asks_bind _ _ _ (stack_plain opened)
      intro backends
      exact reported_plain _ _ (request_plain backends (.addNamespace key mount) (by simp))
  | namespaceList =>
      apply Prog.asks_bind _ _ _ (Prog.asks_lift _ _)
      intro _
      apply Prog.asks_bind _ _ _ (stack_plain opened)
      intro backends
      exact reported_plain _ _ (request_plain backends .namespaces (by simp))
  | namespaceRemove name =>
      apply Prog.asks_bind _ _ _ (Prog.asks_lift _ _)
      intro key
      apply Prog.asks_bind _ _ _ (Prog.asks_lift _ _)
      intro _
      apply Prog.asks_bind _ _ _ (stack_plain opened)
      intro backends
      exact reported_plain _ _ (request_plain backends (.removeNamespace key) (by simp))
  | mountSet nameSpace mount =>
      apply Prog.asks_bind _ _ _ (Prog.asks_lift _ _)
      intro key
      apply Prog.asks_bind _ _ _ (parse_mount_plain mount)
      intro mount
      apply Prog.asks_bind _ _ _ (Prog.asks_lift _ _)
      intro _
      apply Prog.asks_bind _ _ _ (stack_plain opened)
      intro backends
      exact reported_plain _ _ (request_plain backends (.setMount key mount) (by simp))
  | bind name locator nameSpace =>
      apply Prog.asks_bind _ _ _ (Prog.asks_lift _ _)
      intro address
      apply Prog.asks_bind _ _ _ (Prog.asks_lift _ _)
      intro _
      apply Prog.asks_bind _ _ _ (stack_plain opened)
      intro backends
      exact reported_plain _ _ (request_plain backends (.bind address ⟨locator⟩) (by simp))
  | unbind name nameSpace =>
      apply Prog.asks_bind _ _ _ (Prog.asks_lift _ _)
      intro address
      apply Prog.asks_bind _ _ _ (Prog.asks_lift _ _)
      intro _
      apply Prog.asks_bind _ _ _ (stack_plain opened)
      intro backends
      exact reported_plain _ _ (request_plain backends (.unbind address) (by simp))

theorem store_together (backends : BackendRef → Option Offer) (address : Address) (value other : SecretValue) (both : like value other) :
    Together (Call.Pairs like) Eq (store opened backends address value) (store opened backends address other) := by
  have wrote := Federation.authorized_together like backends (.write (.unbound address) value) (.write (.unbound address) other) Eq
    (.write (.unbound address) value other both)
  apply together_bind _ Eq _ _ _ _ _ (storage_together like Eq _ _ wrote)
  intro written twin same
  subst same
  exact together_same _ Call.Plain (plain_pairs like) _ (reported_plain _ _ (mount_of_plain opened address.scope))

theorem put_together (left right : PutArgs) (veils : left.Veils like right) :
    Together (Call.Pairs like) Eq (put opened left) (put opened right) := by
  rw [put, put, veils.name, veils.nameSpace, veils.value, veils.valueFlag]
  apply together_after _ Call.Plain (plain_pairs like) _ _ (Prog.asks_ensure _ _ _)
  intro _
  apply together_after _ Call.Plain (plain_pairs like) _ _ (Prog.asks_lift _ _)
  intro address
  apply together_after _ Call.Plain (plain_pairs like) _ _ (stack_plain opened)
  intro backends
  apply together_bind _ (fun bytes other => Ends like (SecretValue.new bytes) (SecretValue.new other)) _ _ _ _ _
  · apply together_lift
    rcases ends_cases _ _ _ veils.input with ⟨refusal, here, there⟩ | ⟨bytes, other, here, there, both⟩
    · rw [here, there]
      exact rfl
    · rw [here, there]
      exact both
  · intro bytes other fits
    apply together_bind _ like _ _ _ _ _ (storage_together like like _ _ (together_lift _ _ _ _ fits))
    intro value twin both
    exact store_together like opened backends address value twin both

theorem read_together (nameSpace name path : String) :
    Together (Call.Pairs like) Eq (read opened nameSpace name path) (read opened nameSpace name path) := by
  apply together_after _ Call.Plain (plain_pairs like) _ _ (Prog.asks_lift _ _)
  intro address
  apply together_after _ Call.Plain (plain_pairs like) _ _ (stack_plain opened)
  intro backends
  apply together_after _ Call.Plain (plain_pairs like) _ _ (show (out .prepareOut id).Asks Call.Plain from ⟨trivial, fun _ => Prog.asks_lift _ _⟩)
  intro _
  have fetched := Federation.authorized_together like backends (.read (.unbound address)) (.read (.unbound address)) (Revealed.Like like)
    (.read (.unbound address))
  apply together_bind _ (Revealed.Like like) _ _ _ _ _ (storage_together like _ _ _ fetched)
  intro revealed twin shown
  apply Together.ask _ _ _ (.commitOut revealed.value.bytes twin.value.bytes)
  intro given other same
  subst same
  rw [shown.version]
  cases given with
  | error refusal => exact .stop _
  | ok value => exact together_same _ Call.Plain (plain_pairs like) _ (reported_plain _ _ (mount_of_plain opened address.scope))

theorem command_together (left right : Command) (veils : left.Veils like right) :
    Together (Call.Pairs like) Eq (left.perform opened) (right.perform opened) := by
  cases veils with
  | put left right veils => exact put_together like opened left right veils
  | same _ unput =>
      by_cases unread : ∀ name nameSpace path, left ≠ .read name nameSpace path
      · exact together_same _ Call.Plain (plain_pairs like) _ (command_plain opened left unput unread)
      · simp only [not_forall, not_not] at unread
        obtain ⟨name, nameSpace, path, rfl⟩ := unread
        exact read_together like opened nameSpace name path

end Commands

-- What a local command meets: the mounts on the credential store with the
-- services of their entries, which calls of the store fail, and the other mounts.
structure Setting (State : Type) where
  around : Around
  services : BackendRef → Option String
  search : Keychain.Search
  versions : Nat → Uuid
  locked : Nat → Bool
  others : BackendRef → (command : Storage.Command) → State → Except StorageError command.Answer × State

structure Surroundings (State : Type) where
  records : Records
  trial : Keychain.Trial
  others : State
  out : Option Bytes
  asked : Nat

section Worlds
variable {State : Type} (setting : Setting State)

def Surroundings.next (surroundings : Surroundings State) : Surroundings State :=
  { surroundings with
    records := surroundings.records.without (setting.around.removed surroundings.asked)
    asked := surroundings.asked + 1 }

def Setting.serve : (call : Federation.Call) → Surroundings State → call.Answer × Surroundings State
  | .config call, surroundings =>
      ((InMemoryConfig.perform call surroundings.records).1,
        { surroundings with records := (InMemoryConfig.perform call surroundings.records).2 })
  | .backend backend command, surroundings =>
      match setting.services backend with
      | some service =>
          let ran := run (Keychain.faulty setting.search (setting.versions surroundings.trial.made) setting.locked)
            (Keychain.perform service command) surroundings.trial
          (ran.1, { surroundings with trial := ran.2 })
      | none =>
          let served := setting.others backend command surroundings.others
          (served.1, { surroundings with others := served.2 })

def Setting.perform : (call : Local.Call) → Surroundings State → call.Answer × Surroundings State
  | .stack call, surroundings =>
      if setting.around.fails surroundings.asked then (.error .unavailable, surroundings.next setting)
      else setting.serve call (surroundings.next setting)
  | .prepareOut, surroundings => (setting.around.prepared, surroundings)
  | .commitOut bytes, surroundings =>
      (setting.around.committed, if setting.around.committed = .ok () then { surroundings with out := some bytes } else surroundings)

variable (like : ValueLikeness) (related : State → State → Prop)

def Setting.OthersSilent : Prop :=
  ∀ backend command twin alike, Storage.Command.Pairs like command twin alike → ∀ left right, related left right →
    Ends alike (setting.others backend command left).1 (setting.others backend twin right).1 ∧
      related (setting.others backend command left).2 (setting.others backend twin right).2

structure Veiled (left right : Surroundings State) : Prop where
  records : left.records = right.records
  trial : Keychain.SameTrial like left.trial right.trial
  others : related left.others right.others
  out : left.out.isSome = right.out.isSome
  asked : left.asked = right.asked

section Steps
variable (blind : Keychain.Blind setting.search) (silent : setting.OthersSilent like related) (left right : Surroundings State)
  (same : Veiled like related left right)
include same

theorem next_veiled : Veiled like related (left.next setting) (right.next setting) := by
  obtain ⟨records, trial, others, out, asked⟩ := same
  refine ⟨?_, trial, others, out, congrArg (· + 1) asked⟩
  rw [Surroundings.next, Surroundings.next, records, asked]

include blind silent

theorem serve_veiled (call twin : Federation.Call) (answers : call.Answer → twin.Answer → Prop)
    (paired : Federation.Call.Pairs like call twin answers) :
    answers (setting.serve call left).1 (setting.serve twin right).1 ∧
      Veiled like related (setting.serve call left).2 (setting.serve twin right).2 := by
  cases paired with
  | config call =>
      rw [Setting.serve, Setting.serve, same.records]
      exact ⟨rfl, rfl, same.trial, same.others, same.out, same.asked⟩
  | backend backend command other alike paired =>
      rw [Setting.serve, Setting.serve]
      cases setting.services backend with
      | some service =>
          have ran := Keychain.operation_silent like setting.search blind (setting.versions right.trial.made) setting.locked service
            command other alike paired left.trial right.trial same.trial
          dsimp only
          rw [same.trial.made]
          exact ⟨ran.1, same.records, ran.2, same.others, same.out, same.asked⟩
      | none =>
          have served := silent backend command other alike paired left.others right.others same.others
          exact ⟨served.1, same.records, same.trial, served.2, same.out, same.asked⟩

theorem perform_veiled (call twin : Local.Call) (answers : call.Answer → twin.Answer → Prop) (paired : Call.Pairs like call twin answers) :
    answers (setting.perform call left).1 (setting.perform twin right).1 ∧
      Veiled like related (setting.perform call left).2 (setting.perform twin right).2 := by
  cases paired with
  | prepareOut => exact ⟨rfl, same⟩
  | commitOut bytes other =>
      rw [Setting.perform, Setting.perform]
      refine ⟨rfl, ?_⟩
      by_cases linked : setting.around.committed = .ok ()
      · rw [if_pos linked, if_pos linked]
        exact ⟨same.records, same.trial, same.others, rfl, same.asked⟩
      · rw [if_neg linked, if_neg linked]
        exact same
  | stack call twin answers paired =>
      have after := next_veiled setting like related left right same
      rw [Setting.perform, Setting.perform, same.asked]
      by_cases fails : setting.around.fails right.asked = true
      · rw [if_pos fails, if_pos fails]
        cases paired with
        | config call => exact ⟨rfl, after⟩
        | backend backend command other alike paired => exact ⟨rfl, after⟩
      · rw [if_neg fails, if_neg fails]
        exact serve_veiled setting like related blind silent _ _ after call twin answers paired

end Steps

theorem veils_decision (left right : Command) (veils : left.Veils like right) : left.decision = right.decision := by
  cases veils <;> rfl

theorem veiled_decision (left right : Cli) (veils : left.Veils like right) :
    denied left = denied right ∧ left.command.decision = right.command.decision := by
  have decisions := veils_decision like left.command right.command veils.command
  refine ⟨?_, decisions⟩
  rw [denied, denied, veils.tenant, veils.user, decisions]

/-- What a command prints, and its exit code, show nothing of the values that are stored or
piped in. -/
theorem command_silent (blind : Keychain.Blind setting.search) (silent : setting.OthersSilent like related) (opening : Opening)
    (cli twin : Cli) (veils : cli.Veils like twin) (left right : Surroundings State) (same : Veiled like related left right) :
    (cli.run setting.perform opening left).1 = (twin.run setting.perform opening right).1 ∧
      Veiled like related (cli.run setting.perform opening left).2 (twin.run setting.perform opening right).2 := by
  obtain ⟨denials, decisions⟩ := veiled_decision like cli twin veils
  obtain ⟨ended, after⟩ := together_run setting.perform setting.perform (Call.Pairs like) (Veiled like related)
    (fun call other answers paired state other' step => perform_veiled setting like related blind silent state other' step call other answers paired)
    Eq _ _ (command_together like opening.backends cli.command twin.command veils.command) left right same
  have outcomes := ends_eq _ _ ended
  rw [Cli.run, Cli.run, denials]
  cases denied twin with
  | error denial =>
      rw [veils.json, decisions]
      exact ⟨rfl, same⟩
  | ok _ =>
      dsimp only
      rw [veils.json, decisions, outcomes]
      exact ⟨rfl, after⟩

end Worlds

section Sample

theorem every_entry_blind : Keychain.Blind Keychain.everyEntry := by
  intro left right same
  have keys : left.keys = right.keys := by
    have perm : left.keys.Perm right.keys := by
      apply (List.perm_ext_iff_of_nodup ExtTreeMap.nodup_keys ExtTreeMap.nodup_keys).mpr
      intro entry
      rw [ExtTreeMap.mem_keys, ExtTreeMap.mem_keys, ← ExtTreeMap.contains_iff_mem, ← ExtTreeMap.contains_iff_mem, same entry]
    apply perm.eq_of_pairwise _ ExtTreeMap.ordered_keys ExtTreeMap.ordered_keys
    intro first second _ _ before behind
    exact absurd (Std.OrientedCmp.gt_of_lt before) (by rw [behind]; decide)
  funext service
  rw [Keychain.everyEntry, Keychain.everyEntry, keys]

def keychainSetting : Setting Unit where
  around := unreadable
  services backend := if backend = .defaultMount then some "b10x-secrets" else none
  search := Keychain.everyEntry
  versions _ := Keychain.nilVersion
  locked _ := false
  others _ _ state := (.error .unavailable, state)

def surroundedBy (ring : Keychain.Ring) : Surroundings Unit := ⟨InMemoryConfig.localStart, ⟨ring, 0, 0⟩, (), none, 0⟩

def tokenRead : Cli := ⟨true, localName, localName, .read "token" localName "token.bin"⟩

theorem holding_same (like : ValueLikeness) (value other : SecretValue) (both : like value other) :
    Keychain.SameRing like (Keychain.holding (Keychain.blobOf Keychain.nilVersion value.bytes))
      (Keychain.holding (Keychain.blobOf Keychain.nilVersion other.bytes)) := by
  apply Keychain.same_insert like ∅ ∅
  · intro entry
    rw [ExtTreeMap.getElem?_empty]
    exact .none
  · exact Keychain.sealed_same like Keychain.nilVersion value other both

theorem token_silent :
    (tokenRead.run keychainSetting.perform keychainOpening
      (surroundedBy (Keychain.holding (Keychain.blobOf Keychain.nilVersion [104, 105])))).1 =
    (tokenRead.run keychainSetting.perform keychainOpening
      (surroundedBy (Keychain.holding (Keychain.blobOf Keychain.nilVersion [98, 121, 101])))).1 := by
  have worlds : Veiled (fun _ _ => True) Eq (surroundedBy (Keychain.holding (Keychain.blobOf Keychain.nilVersion [104, 105])))
      (surroundedBy (Keychain.holding (Keychain.blobOf Keychain.nilVersion [98, 121, 101]))) :=
    ⟨rfl, ⟨holding_same _ ⟨[104, 105], by decide⟩ ⟨[98, 121, 101], by decide⟩ trivial, rfl⟩, rfl, rfl, rfl⟩
  exact (command_silent keychainSetting (fun _ _ => True) Eq every_entry_blind (fun _ _ _ _ _ _ _ equal => ⟨rfl, equal⟩) keychainOpening
    tokenRead tokenRead ⟨rfl, rfl, rfl, .same _ (by simp [tokenRead])⟩ _ _ worlds).1

end Sample
end Local
end Secrets
