import Criteria.Text.Printable

/-!
# Quoted text

Text inside a message or a list is shown in quotes: single ones, unless the text holds a
single quote and no double quote. Backslashes, the quote in use and characters that
cannot be printed are escaped. Octets are shown in the same way.
-/

namespace Criteria.Text

def hexDigits (width n : Nat) : List Char :=
  let digits := Nat.toDigits 16 n
  List.replicate (width - digits.length) '0' ++ digits

def quoteFor (cs : List Char) : Char :=
  if cs.contains '\'' && !cs.contains '"' then '"' else '\''

def escapeQuoted (quote c : Char) : List Char :=
  if c = quote ∨ c = '\\' then ['\\', c]
  else if c = '\n' then ['\\', 'n']
  else if c = '\r' then ['\\', 'r']
  else if c = '\t' then ['\\', 't']
  else if isPrintable c then [c]
  else if c.toNat < 0x100 then '\\' :: 'x' :: hexDigits 2 c.toNat
  else if c.toNat < 0x10000 then '\\' :: 'u' :: hexDigits 4 c.toNat
  else '\\' :: 'U' :: hexDigits 8 c.toNat

def quoteChars (cs : List Char) : List Char :=
  let quote := quoteFor cs
  quote :: cs.flatMap (escapeQuoted quote) ++ [quote]

def quoted (s : String) : String :=
  String.ofList (quoteChars s.toList)

def escapeOctet (quote : Char) (o : UInt8) : List Char :=
  if o < 0x80 then escapeQuoted quote (Char.ofNat o.toNat)
  else '\\' :: 'x' :: hexDigits 2 o.toNat

def quotedOctets (os : List UInt8) : String :=
  let quote := quoteFor (os.map fun o => Char.ofNat o.toNat)
  String.ofList ('b' :: quote :: os.flatMap (escapeOctet quote) ++ [quote])

end Criteria.Text
