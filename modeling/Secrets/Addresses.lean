import Secrets.Storage

set_option autoImplicit false

namespace Secrets

inductive Part where
  | tenant
  | nameSpace
  | user
  | name
  | newName
deriving DecidableEq, Repr

structure AddressError where
  part : Part
  reason : NameError
deriving DecidableEq, Repr

def inPart {Value : Type} (part : Part) (result : Except NameError Value) : Except AddressError Value :=
  result.mapError fun reason => ⟨part, reason⟩

theorem except_bind_ok {Error Value Result : Type} (first : Except Error Value) (next : Value → Except Error Result) (result : Result) :
    (first >>= next) = .ok result ↔ ∃ value, first = .ok value ∧ next value = .ok result := by
  cases first <;> simp [bind, Except.bind]

def NamespaceKey.parse (tenant nameSpace : String) : Except AddressError NamespaceKey :=
  if nameSpace.utf8ByteSize > maxSegmentBytes then .error ⟨.nameSpace, .tooLong⟩
  else do
    let tenant ← inPart .tenant (ScopeName.parse tenant)
    let nameSpace ← inPart .nameSpace (ScopeName.parse nameSpace)
    pure ⟨tenant, nameSpace⟩

namespace Address

def parseChecked (tenant nameSpace user name : String) : Except AddressError Address := do
  let tenant ← inPart .tenant (ScopeName.parse tenant)
  let nameSpace ← inPart .nameSpace (ScopeName.parse nameSpace)
  let user ← inPart .user (ScopeName.parse user)
  let name ← inPart .name (SecretName.parse name)
  pure ⟨⟨tenant, nameSpace, user⟩, name⟩

def parse (tenant nameSpace user name : String) : Except AddressError Address := do
  inPart .name (SecretName.checkLength name)
  parseChecked tenant nameSpace user name

def parseRename (tenant nameSpace user name newName : String) : Except AddressError (Address × SecretName) := do
  inPart .name (SecretName.checkLength name)
  inPart .newName (SecretName.checkLength newName)
  let address ← parseChecked tenant nameSpace user name
  let newName ← inPart .newName (SecretName.parse newName)
  pure (address, newName)

end Address

namespace StorageError

def all : List StorageError := [.notFound, .denied, .unsupported, .unavailable, .invalidName, .tooLarge, .conflict]

def code : StorageError → String
  | .notFound => "not-found"
  | .denied => "denied"
  | .unsupported => "unsupported"
  | .unavailable => "unavailable"
  | .invalidName => "invalid-name"
  | .tooLarge => "too-large"
  | .conflict => "conflict"

end StorageError

def NameError.code : NameError → String
  | .tooLong => "too-long"
  | .segmentTooLong => "segment-too-long"
  | .emptySegment => "empty-segment"
  | .badStart => "bad-start"
  | .badCharacter => "bad-character"

end Secrets
