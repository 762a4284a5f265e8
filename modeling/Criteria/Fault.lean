import Criteria.Decimal.Numeral

/-!
# Faults

A fault ends an operation without an answer. Problems that a user can mend are reported
as data instead; what stays a fault is a value of a kind that an operation cannot take, a
number that is too long to be written, and a refusal by a hook.
-/

namespace Criteria

inductive Fault where
  | digitLimit
  | numeral (error : Numeral.Error)
  | calendar (message : String)
  /-- A hook refused its input. -/
  | refused (message : String)
  | notText
  /-- A value of a kind that the operation does not take. -/
  | wrongKind
  | unknownWord
  /-- Nothing where a numeral should be. -/
  | noNumeral
  | noCharacter (code : Nat)
  deriving DecidableEq, Repr

def isWordSized (code : Nat) : Bool :=
  code < Nat.pow 2 31

def Fault.message? : Fault → Option String
  | .digitLimit =>
    some <| s!"Exceeds the limit ({Numeral.digitLimit} digits) for integer string " ++
      "conversion; use sys.set_int_max_str_digits() to increase the limit"
  | .numeral error => some error.message
  | .calendar message => some message
  | .refused message => some message
  | .noCharacter code =>
    if isWordSized code then some "chr() arg not in range(0x110000)" else none
  | .notText | .wrongKind | .unknownWord | .noNumeral => none

end Criteria
