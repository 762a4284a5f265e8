/-!
# Octets in base 64

Octets written with 64 characters of six bits each, four characters to a group. Reading
passes over all other characters. The equals signs that complete a group end the text.
-/

namespace Criteria.Text

def sextet? (c : Char) : Option Nat :=
  if 'A' ≤ c ∧ c ≤ 'Z' then some (c.toNat - 'A'.toNat)
  else if 'a' ≤ c ∧ c ≤ 'z' then some (c.toNat - 'a'.toNat + 26)
  else if '0' ≤ c ∧ c ≤ '9' then some (c.toNat - '0'.toNat + 52)
  else if c = '+' then some 62
  else if c = '/' then some 63
  else none

/-- The octets of a group. Bits that complete no octet are dropped. -/
def groupOctets : List Nat → List UInt8
  | [a, b] => [.ofNat (a * 4 + b / 16)]
  | [a, b, c] => [.ofNat (a * 4 + b / 16), .ofNat (b % 16 * 16 + c / 4)]
  | [a, b, c, d] =>
    [.ofNat (a * 4 + b / 16), .ofNat (b % 16 * 16 + c / 4), .ofNat (c % 4 * 64 + d)]
  | _ => []

/-- The octets that follow a group of which some characters, and then some equals signs,
are there. A group that stays incomplete has no octets. -/
def octetsFrom (group : List Nat) (signs : Nat) : List Char → Option (List UInt8)
  | [] => if group.isEmpty then some [] else none
  | c :: rest =>
    if c = '=' then
      if group.length < 2 then octetsFrom group signs rest
      else if group.length + signs < 3 then octetsFrom group (signs + 1) rest
      else some (groupOctets group)
    else
      match sextet? c with
      | none => octetsFrom group signs rest
      | some s =>
        if group.length < 3 then octetsFrom (group ++ [s]) 0 rest
        else (groupOctets (group ++ [s]) ++ ·) <$> octetsFrom [] 0 rest

def octetsOfBase64? (cs : List Char) : Option (List UInt8) :=
  octetsFrom [] 0 cs

end Criteria.Text
