import Criteria.Decimal.Numeral
import Criteria.Text.Utf8

/-!
# Percent encoding

In a form, a space is written as a plus sign and every octet of a character that is
neither a letter, a digit nor one of `_.-~` as a percent sign with two hexadecimal digits.
Reading takes a percent sign without two digits for itself.
-/

namespace Criteria.Form

open Criteria.Text

def isUnreserved (c : Char) : Bool :=
  c.isAlphanum || c == '_' || c == '.' || c == '-' || c == '~'

def hexDigit (n : Nat) : Char :=
  (Nat.digitChar n).toUpper

def escapeOctet (n : Nat) : List Char :=
  ['%', hexDigit (n / 16), hexDigit (n % 16)]

def encodeFormChar (c : Char) : List Char :=
  if c = ' ' then ['+']
  else if isUnreserved c then [c]
  else (encodeChar c).flatMap escapeOctet

def encode (cs : List Char) : List Char :=
  cs.flatMap encodeFormChar

def octet? (high low : Char) : Option Nat := do
  return (← Numeral.digitIn? 16 high) * 16 + (← Numeral.digitIn? 16 low)

/-- Decode a text whose last octets are `pending`, in reverse. Characters beyond ASCII stand
for themselves and end a row of octets. -/
def decodeWith (pending : List Nat) : List Char → List Char
  | [] => decodeOctets pending.reverse
  | '%' :: high :: low :: rest =>
    match octet? high low with
    | some n => decodeWith (n :: pending) rest
    | none => decodeWith ('%'.toNat :: pending) (high :: low :: rest)
  | c :: rest =>
    if c.toNat < 0x80 then decodeWith (c.toNat :: pending) rest
    else decodeOctets pending.reverse ++ c :: decodeWith [] rest

def decode (cs : List Char) : List Char :=
  decodeWith [] (cs.map fun c => if c = '+' then ' ' else c)

end Criteria.Form
