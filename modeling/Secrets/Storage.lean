import Mathlib.Data.List.Lex
import Mathlib.Data.List.Sort
import Mathlib.Data.String.Basic
import Secrets.Lib.Codec
import Secrets.Names

set_option autoImplicit false

namespace Secrets

open Framing (Bytes)

inductive StorageError where
  | notFound
  | denied
  | unsupported
  | unavailable
  | invalidName
  | tooLarge
  | conflict
deriving DecidableEq, Repr

def maxValueBytes : Nat := 1024 * 1024

structure SecretValue where
  bytes : Bytes
  short : bytes.length ≤ maxValueBytes
deriving DecidableEq

def SecretValue.new (value : Bytes) : Except StorageError SecretValue :=
  if short : value.length ≤ maxValueBytes then .ok ⟨value, short⟩ else .error .tooLarge

theorem secret_value_new (value : SecretValue) (bytes : Bytes) : SecretValue.new bytes = .ok value ↔ bytes = value.bytes := by
  constructor
  · intro made
    rw [SecretValue.new] at made
    split at made <;> cases made
    rfl
  · rintro rfl
    rw [SecretValue.new, dif_pos value.short]

inductive Capability where
  | read
  | write
  | delete
  | list
deriving DecidableEq, Repr

def Capability.all : List Capability := [.read, .write, .delete, .list]

inductive BackendKind where
  | keychain
  | onepassword
  | remote
deriving DecidableEq, Repr

def BackendKind.capabilities : BackendKind → List Capability
  | .onepassword => [.read]
  | .keychain | .remote => Capability.all

structure BackendRef where
  kind : BackendKind
  label : ScopeName
deriving DecidableEq

def BackendRef.defaultMount : BackendRef := ⟨.keychain, .defaultName⟩

namespace Storage

structure Locator where
  text : String
deriving DecidableEq, Repr

structure Version where
  text : String
deriving DecidableEq, Repr

structure Target where
  address : Address
  locator : Option Locator
deriving DecidableEq

def Target.unbound (address : Address) : Target := ⟨address, none⟩

structure Revealed where
  value : SecretValue
  version : Option Version
deriving DecidableEq

inductive Written where
  | created (version : Option Version)
  | replaced (version : Option Version)
deriving DecidableEq, Repr

structure SecretMetadata where
  address : Address
  version : Option Version
deriving DecidableEq

-- The SecretStorage trait, one constructor a method.
inductive Command where
  | read (target : Target)
  | write (target : Target) (value : SecretValue)
  | delete (target : Target)
  | rename (target : Target) (newName : SecretName)
  | list (scope : Scope)
deriving DecidableEq

abbrev Command.Answer : Command → Type
  | .read _ => Revealed
  | .write _ _ => Written
  | .delete _ => Unit
  | .rename _ _ => Unit
  | .list _ => List SecretMetadata

def SecretMetadata.fields (listed : SecretMetadata) : List String :=
  let scope := listed.address.scope
  [scope.tenant.text, scope.nameSpace.text, scope.user.text, listed.address.name.text] ++
    (listed.version.map Version.text).toList

def sort (listed : List SecretMetadata) : List SecretMetadata :=
  listed.insertionSort fun first second => first.fields ≤ second.fields

theorem sort_perm (listed : List SecretMetadata) : (sort listed).Perm listed := List.perm_insertionSort _ _

theorem mem_sort (listed : List SecretMetadata) (entry : SecretMetadata) : entry ∈ sort listed ↔ entry ∈ listed :=
  (sort_perm listed).mem_iff

def Sorted (listed : List SecretMetadata) : Prop := listed.Pairwise fun first second => first.fields ≤ second.fields

theorem sorted_sort (listed : List SecretMetadata) : Sorted (sort listed) := by
  have : IsTrans SecretMetadata fun first second => first.fields ≤ second.fields :=
    ⟨fun _ _ _ first second => le_trans first second⟩
  have : Std.Total fun first second : SecretMetadata => first.fields ≤ second.fields :=
    ⟨fun first second => le_total first.fields second.fields⟩
  exact List.pairwise_insertionSort _ _

end Storage

def Address.renamed (address : Address) (newName : SecretName) : Address := ⟨address.scope, newName⟩

def simple (id : Uuid) : String :=
  String.ofList (id.toList.flatMap fun byte =>
    [Char.ofNat (Codecs.hexDigit (byte.toNat / 16)).toNat, Char.ofNat (Codecs.hexDigit (byte.toNat % 16)).toNat])

end Secrets
