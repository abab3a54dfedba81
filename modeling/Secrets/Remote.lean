import Secrets.Client
import Secrets.Storage

set_option autoImplicit false

namespace Secrets

open Programs Separated Storage
open Framing (Bytes)

namespace Remote

-- What the service's router lets through of a body.
def serviceBodyLimit : Nat := 1024 * 1024

def reference (address : Address) : SecretRef :=
  { tenant := address.scope.tenant.text
    nameSpace := address.scope.nameSpace.text
    key := address.scope.user.text ++ "/" ++ address.name.text }

def address (scope : Scope) (reference : SecretRef) : Option Address :=
  if reference.tenant ≠ scope.tenant.text ∨ reference.nameSpace ≠ scope.nameSpace.text then none
  else
    match splitOnce '/' reference.key.toList with
    | none => none
    | some (user, name) =>
        if String.ofList user ≠ scope.user.text then none
        else (SecretName.parse (String.ofList name)).toOption.map fun name => ⟨scope, name⟩

def put (reference : SecretRef) (owner : String) (value : Bytes) (disclosure : Disclosure) (labels : Labels) : PutSecret :=
  { reference := reference
    ownerSubject := owner
    value := value
    disclosure := disclosure
    labels := labels }

def envelopeBytes : Nat :=
  let segment := String.ofList (List.replicate maxSegmentBytes 'a')
  let name := String.ofList (List.replicate maxNameBytes 'a')
  let widest : SecretRef := { tenant := segment, nameSpace := segment, key := segment ++ "/" ++ name }
  let batch : PrepareRequest := ⟨segment, [.put (put widest segment [] .workloadOnly Labels.new), .delete widest]⟩
  (prepareRequestCodec.print batch).length

def maxValueBytes : Nat := (serviceBodyLimit - envelopeBytes) / 4 * 3

def refusal : Client.Error → StorageError
  | .transport | .service => .unavailable
  | .notFound => .notFound
  | .refused => .denied

def version (metadata : Secrets.SecretMetadata) : Version := ⟨simple metadata.id ++ "." ++ toString metadata.version⟩

abbrev Operation (Value : Type) := Prog Client.Call Client.Call.Answer StorageError Value

def call (call : Client.Call) : Operation call.Value :=
  .ask call fun
    | .ok value => .done value
    | .error error => .stop (refusal error)

def owner (address : Address) : ScopeName := address.scope.user

def read (target : Target) : Operation Revealed := do
  let reference := reference target.address
  let stored ← call (.get reference)
  Prog.ensure (decide (stored.metadata.reference = reference)) .notFound
  let value ← Prog.lift ((SecretValue.new stored.value).mapError fun _ => .unavailable)
  pure ⟨value, some (version stored.metadata)⟩

def write (target : Target) (value : SecretValue) : Operation Storage.Written := do
  Prog.ensure (decide (value.bytes.length ≤ maxValueBytes)) .tooLarge
  let input := put (reference target.address) (owner target.address).text value.bytes .workloadOnly Labels.new
  let metadata ← call (.put input)
  let written := some (version metadata)
  pure (if metadata.version = 1 then .created written else .replaced written)

def delete (target : Target) : Operation Unit :=
  call (.delete (reference target.address) (owner target.address).text)

def moves (address : Address) (newName : SecretName) (stored : StoredSecret) : List Mutation :=
  [.put (put (reference (address.renamed newName)) (owner address).text stored.value stored.metadata.disclosure
      stored.metadata.labels),
    .delete (reference address)]

-- A commit that fails is followed by an abort whose answer is dropped.
def commit (tenant : String) (transaction : Uuid) : Operation Unit :=
  .ask (.commit tenant transaction) fun
    | .ok done => .done done
    | .error error => .ask (.abort tenant transaction) fun _ => .stop (refusal error)

def rename (transaction : Uuid) (target : Target) (newName : SecretName) : Operation Unit := do
  let source := reference target.address
  let stored ← call (.get source)
  let taken ← call (.exists (reference (target.address.renamed newName)))
  Prog.ensure (!taken) .conflict
  call (.prepare source.tenant transaction (owner target.address).text (moves target.address newName stored))
  commit source.tenant transaction

def row (scope : Scope) (metadata : Secrets.SecretMetadata) : Option Storage.SecretMetadata :=
  (address scope metadata.reference).map fun address => ⟨address, some (version metadata)⟩

def list (scope : Scope) : Operation (List Storage.SecretMetadata) := do
  let references ← call (.references scope.tenant.text scope.nameSpace.text)
  let active := references.filter fun metadata => decide (metadata.state = .active)
  pure (sort (active.filterMap (row scope)))

def perform (transaction : Uuid) : (command : Command) → Operation command.Answer
  | .read target => read target
  | .write target value => write target value
  | .delete target => delete target
  | .rename target newName => rename transaction target newName
  | .list scope => list scope

end Remote

section Running
variable {State Value : Type} (perform : (call : Client.Call) → State → call.Answer × State)

theorem run_call (call : Client.Call) (next : call.Value → Remote.Operation Value) (state : State) :
    (∃ error, (perform call state).1 = .error error ∧
      run perform (Remote.call call >>= next) state = (.error (Remote.refusal error), (perform call state).2)) ∨
    ∃ value, (perform call state).1 = .ok value ∧
      run perform (Remote.call call >>= next) state = run perform (next value) (perform call state).2 := by
  rw [Remote.call, Prog.ask_bind, run_ask]
  cases answered : (perform call state).1 with
  | error error => exact .inl ⟨error, rfl, rfl⟩
  | ok value => exact .inr ⟨value, rfl, rfl⟩

end Running

section References

theorem split_key (user : ScopeName) (name : String) :
    splitOnce '/' (user.text ++ "/" ++ name).toList = some (user.text.toList, name.toList) := by
  have parts : (user.text ++ "/" ++ name).toList = user.text.toList ++ '/' :: name.toList := by
    simp [String.toList_append]
  rw [parts, split_once_join '/' _ _ (scope_name_no_slash user)]

theorem address_reference (scope : Scope) (address : Address) :
    Remote.address scope (Remote.reference address) = some address ↔ address.scope = scope := by
  obtain ⟨own, name⟩ := address
  constructor
  · intro found
    rw [Remote.address] at found
    split at found
    · cases found
    · split at found
      · cases found
      · split at found
        · cases found
        · obtain ⟨other, _, same⟩ := Option.map_eq_some_iff.mp found
          exact (congrArg Address.scope same).symm
  · rintro rfl
    rw [Remote.address, if_neg (by simp [Remote.reference])]
    simp only [Remote.reference, split_key, String.ofList_toList, ne_eq, not_true_eq_false, if_false,
      (secret_name_parse name name.text).mpr rfl]
    rfl

theorem address_some (scope : Scope) (reference : SecretRef) (address : Address)
    (found : Remote.address scope reference = some address) : address.scope = scope ∧ Remote.reference address = reference := by
  rw [Remote.address] at found
  split at found
  · cases found
  rename_i here
  simp only [ne_eq, not_or, not_not] at here
  split at found
  · cases found
  rename_i user name split
  split at found
  · cases found
  rename_i own
  obtain ⟨parsed, named, rfl⟩ := Option.map_eq_some_iff.mp found
  refine ⟨rfl, ?_⟩
  have text : String.ofList name = parsed.text := by
    cases made : SecretName.parse (String.ofList name) with
    | error reason =>
        rw [made] at named
        cases named
    | ok made' =>
        rw [made] at named
        cases named
        exact (secret_name_parse parsed _).mp made
  obtain ⟨whole, _⟩ := split_once_some '/' _ _ _ split
  obtain ⟨tenant, nameSpace, key⟩ := reference
  have keyed : scope.user.text ++ "/" ++ parsed.text = key := by
    rw [← String.toList_inj, whole, ← text, ← not_not.mp own]
    simp [String.toList_append]
  obtain ⟨rfl, rfl⟩ : tenant = scope.tenant.text ∧ nameSpace = scope.nameSpace.text := here
  simp only [Remote.reference, keyed]

theorem reference_injective (first second : Address) (same : Remote.reference first = Remote.reference second) :
    first = second := by
  have tenant := scope_name_injective _ _ (congrArg SecretRef.tenant same)
  have nameSpace := scope_name_injective _ _ (congrArg SecretRef.nameSpace same)
  have keys := congrArg (fun reference => splitOnce '/' reference.key.toList) same
  simp only [Remote.reference, split_key, Option.some.injEq, Prod.mk.injEq, String.toList_inj] at keys
  obtain ⟨⟨firstTenant, firstSpace, firstUser⟩, firstName⟩ := first
  obtain ⟨⟨secondTenant, secondSpace, secondUser⟩, secondName⟩ := second
  obtain rfl := scope_name_injective firstUser secondUser keys.1
  obtain rfl := secret_name_injective firstName secondName keys.2
  cases tenant
  cases nameSpace
  rfl

end References

namespace Sample

def custody : Custody where
  service :=
    { platform := countingPlatform
      store := oldStore
      clocks := fun _ => clockAt 2
      userAuthority := fun _ _ => .ok ⟨"alice", "t", ["*"]⟩
      workloadAuthority := fun _ _ => .ok ⟨"workload:one", "t", ["*"]⟩ }
  extractors := wireExtractors

def alice : Scope := ⟨⟨"t", by decide +kernel⟩, ⟨"n", by decide +kernel⟩, ⟨"alice", by decide +kernel⟩⟩

def openai : SecretName := ⟨"openai", by decide +kernel⟩
def work : SecretName := ⟨"team/work", by decide +kernel⟩

def held : Target := .unbound ⟨alice, openai⟩

def token : SecretValue := ⟨[1, 2, 3], by decide⟩

end Sample
end Secrets
