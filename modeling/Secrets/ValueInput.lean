import Secrets.Storage

set_option autoImplicit false

namespace Secrets

open Framing (Bytes)

namespace ValueInput

inductive Refusal where
  | exposed
  | notAFile
  | uncheckedStdin
  | unreadable
deriving DecidableEq, Repr

def Refusal.text : Refusal → String
  | .exposed => "the file is accessible to its group or to others; make it readable by its owner only (chmod 600)"
  | .notAFile => "the path is not a regular file"
  | .uncheckedStdin =>
      "stdin is neither a terminal nor a pipe; pipe the value in, type it at the prompt, or pass --file with a mode-0600 file"
  | .unreadable => "the value could not be read"

def newline : UInt8 := 10

def carriageReturn : UInt8 := 13

def bounded (contents : Option Bytes) (limit : Nat) : Except Refusal Bytes :=
  match contents with
  | none => .error .unreadable
  | some bytes => .ok (bytes.take (limit + 1))

-- A file as opened: what it is, its mode, and its contents if they can be read.
structure OpenFile where
  regular : Bool
  mode : Nat
  contents : Option Bytes

def readProtected (file : Option OpenFile) (limit : Nat) : Except Refusal Bytes :=
  match file with
  | none => .error .unreadable
  | some file =>
      if !file.regular then .error .notAFile
      else if file.mode &&& 0o077 ≠ 0 then .error .exposed
      else bounded file.contents limit

inductive Stdin where
  | terminal (typed : Option Bytes)
  | pipe (contents : Option Bytes)
  | other

def trimNewline (bytes : Bytes) : Bytes :=
  if bytes.getLast? = some newline then
    if bytes.dropLast.getLast? = some carriageReturn then bytes.dropLast.dropLast else bytes.dropLast
  else bytes

def trimmed (raw : Bool) (bytes : Bytes) : Bytes := if raw then bytes else trimNewline bytes

structure Source where
  file : Option (Option OpenFile)
  stdin : Stdin

def read (source : Source) (raw : Bool) (limit : Nat) : Except Refusal Bytes :=
  match source.file with
  | some file => (readProtected file limit).map (trimmed raw)
  | none =>
      match source.stdin with
      | .terminal typed => match typed with
          | none => .error .unreadable
          | some bytes => .ok bytes
      | .pipe contents => (bounded contents limit).map (trimmed raw)
      | .other => .error .uncheckedStdin

end ValueInput
end Secrets
