import Secrets.LocalCommands

set_option autoImplicit false

namespace Secrets

open Programs Storage
open Framing (Bytes)

section Trimming
variable (bytes input : Bytes)

end Trimming

namespace ValueInput

end ValueInput

section Kept
variable (input : Bytes) (long : maxValueBytes + 1 < input.length)
include long

end Kept

section Reading
variable (raw : Bool) (input : Bytes)

end Reading

-- A value comes from a file that its owner alone can access, or from a pipe.
inductive Supplies : ValueInput.Source → Bytes → Prop where
  | file (mode : Nat) (stdin : ValueInput.Stdin) (input : Bytes) (protects : mode &&& 0o077 = 0) :
      Supplies ⟨some (some ⟨true, mode, some input⟩), stdin⟩ input
  | pipe (input : Bytes) : Supplies ⟨none, .pipe (some input)⟩ input

theorem read_supplied (source : ValueInput.Source) (input : Bytes) (raw : Bool) (supplies : Supplies source input) :
    ValueInput.read source raw maxValueBytes = .ok (ValueInput.trimmed raw (input.take (maxValueBytes + 1))) := by
  cases supplies with
  | file mode stdin input protects =>
      have opened : ValueInput.readProtected (some ⟨true, mode, some input⟩) maxValueBytes = .ok (input.take (maxValueBytes + 1)) := by
        simp only [ValueInput.readProtected, Bool.not_true, Bool.false_eq_true, if_false, protects, ne_eq, not_true_eq_false]
        rfl
      simp only [ValueInput.read, opened]
      rfl
  | pipe input => rfl

def Local.Call.Stores (whole : Bytes) : Local.Call → Prop
  | .stack (.backend _ (.write _ value)) => value.bytes = whole
  | _ => True

section Command
variable (backends : BackendRef → Option Offer) (args : Local.PutArgs) (address : Address)

theorem local_name (name : ScopeName) (part : Part) (parsed : inPart part (ScopeName.parse Local.localName) = .ok name) :
    name = .defaultName := by
  rw [(scope_name_parse .defaultName Local.localName).mpr rfl] at parsed
  cases parsed
  rfl

theorem address_local (nameSpace name : String) (parsed : Address.parse Local.localName nameSpace Local.localName name = .ok address) :
    address.scope.Local := by
  simp only [Address.parse, Address.parseChecked, except_bind_ok] at parsed
  obtain ⟨_, _, tenant, own, _, _, user, self, _, _, made⟩ := parsed
  cases made
  exact ⟨local_name tenant _ own, local_name user _ self⟩

section Taken
variable (input : Bytes) (supplies : Supplies args.source input) (plain : args.value = none ∧ args.valueFlag = none)
  (parsed : Address.parse Local.localName args.nameSpace Local.localName args.name = .ok address)
include supplies plain parsed

end Taken
end Command

def pipedArgs (input : Bytes) : Local.PutArgs where
  name := "a"
  nameSpace := Local.localName
  source := ⟨none, .pipe (some input)⟩
  raw := false
  value := none
  valueFlag := none

def pipedAddress : Address := ⟨⟨.defaultName, .defaultName, .defaultName⟩, ⟨"a", by decide +kernel⟩⟩

theorem piped_parsed (input : Bytes) :
    Address.parse Local.localName (pipedArgs input).nameSpace Local.localName (pipedArgs input).name = .ok pipedAddress := by
  change Address.parse Local.localName Local.localName Local.localName "a" = .ok pipedAddress
  decide +kernel

section Cut

end Cut
end Secrets
