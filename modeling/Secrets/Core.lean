import Mathlib.Data.Vector.Basic
import Secrets.Lib.Framing

set_option autoImplicit false

namespace Secrets

open Framing (Bytes)

def textBytes (text : String) : Bytes := text.toByteArray.data.toList

theorem text_bytes_injective (first second : String) (same : textBytes first = textBytes second) :
    first = second := by
  apply String.toByteArray_inj.mp
  apply ByteArray.ext
  exact Array.toList_inj.mp same

def nul : Char := Char.ofNat 0

def hasNul (text : String) : Bool := decide (nul ∈ text.toList)

abbrev Uuid := Vector UInt8 16

def i64Max : Int := 2 ^ 63 - 1
def i64Min : Int := -(2 ^ 63)
def i64Succ (value : Int) : Int := if value = i64Max then i64Min else value + 1

inductive Disclosure where
  | workloadOnly
  | userRevealable
deriving DecidableEq, Repr

structure SecretRef where
  tenant : String
  nameSpace : String
  key : String
deriving DecidableEq, Repr

structure Labels where
  entries : List (String × String)
  sorted : (entries.map Prod.fst).Pairwise (· < ·)
deriving DecidableEq, Repr

def Labels.new : Labels := ⟨[], .nil⟩

structure PutSecret where
  reference : SecretRef
  ownerSubject : String
  value : Bytes
  disclosure : Disclosure
  labels : Labels
deriving DecidableEq, Repr

inductive SecretState where
  | active
  | revoked
deriving DecidableEq, Repr

structure SecretMetadata where
  id : Uuid
  reference : SecretRef
  ownerSubject : String
  disclosure : Disclosure
  state : SecretState
  version : Int
  labels : Labels
  createdAt : Int
  updatedAt : Int
deriving DecidableEq, Repr

structure StoredSecret where
  metadata : SecretMetadata
  value : Bytes
deriving DecidableEq, Repr

inductive Mutation where
  | put (secret : PutSecret)
  | delete (reference : SecretRef)
deriving DecidableEq, Repr

def Mutation.reference : Mutation → SecretRef
  | .put secret => secret.reference
  | .delete reference => reference

inductive InvalidInput where
  | malformedReference
  | invalidReference
  | emptyBatch
  | crossTenantBatch
deriving DecidableEq, Repr

inductive StoreError where
  | notFound
  | deleteTargetMissing
  | conflict
  | invalid (rule : InvalidInput)
  | unavailable
  | crypto
deriving DecidableEq, Repr

def validateRef (reference : SecretRef) : Except StoreError Unit :=
  let parts := [reference.tenant, reference.nameSpace, reference.key]
  if parts.any fun value => value.isEmpty || hasNul value then .error (.invalid .malformedReference)
  else if parts.any fun value => decide (value.utf8ByteSize > 255) then .error (.invalid .invalidReference)
  else .ok ()

theorem valid_ref_no_nul (reference : SecretRef) (valid : validateRef reference = .ok ()) :
    nul ∉ reference.tenant.toList ∧ nul ∉ reference.nameSpace.toList ∧ nul ∉ reference.key.toList := by
  unfold validateRef at valid
  dsimp only at valid
  split at valid
  · cases valid
  · rename_i clean
    simp only [List.any_cons, List.any_nil, Bool.or_false, hasNul, Bool.or_eq_true, decide_eq_true_eq, not_or] at clean
    exact ⟨clean.1.2, clean.2.1.2, clean.2.2.2⟩

end Secrets
