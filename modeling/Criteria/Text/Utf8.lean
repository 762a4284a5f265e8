/-!
# UTF-8 octets

Text as octets and back. Octets that form no character are replaced: every longest
beginning of a character that is not completed becomes one replacement character, and so
does every octet that begins none.
-/

namespace Criteria.Text

def replacement : Char := '\uFFFD'

def encodeChar (c : Char) : List Nat :=
  let n := c.toNat
  if n < 0x80 then [n]
  else if n < 0x800 then [0xC0 + n / 64, 0x80 + n % 64]
  else if n < 0x10000 then [0xE0 + n / 4096, 0x80 + n / 64 % 64, 0x80 + n % 64]
  else [0xF0 + n / 262144, 0x80 + n / 4096 % 64, 0x80 + n / 64 % 64, 0x80 + n % 64]

def encodeText (cs : List Char) : List Nat :=
  cs.flatMap encodeChar

def isContinuation (n : Nat) : Bool :=
  0x80 ≤ n && n ≤ 0xBF

/-- Whether `n` may follow a leading octet of three; overlong forms and surrogates start
differently. -/
def isSecondOfThree (lead n : Nat) : Bool :=
  isContinuation n && (lead != 0xE0 || 0xA0 ≤ n) && (lead != 0xED || n ≤ 0x9F)

def isSecondOfFour (lead n : Nat) : Bool :=
  isContinuation n && (lead != 0xF0 || 0x90 ≤ n) && (lead != 0xF4 || n ≤ 0x8F)

def decodeFirst (lead : Nat) (rest : List Nat) : Char × Nat :=
  if lead < 0x80 then (Char.ofNat lead, 1)
  else if 0xC2 ≤ lead ∧ lead ≤ 0xDF then
    match rest with
    | b :: _ =>
      if isContinuation b then (Char.ofNat ((lead - 0xC0) * 64 + (b - 0x80)), 2)
      else (replacement, 1)
    | [] => (replacement, 1)
  else if 0xE0 ≤ lead ∧ lead ≤ 0xEF then
    match rest with
    | b :: rest =>
      if isSecondOfThree lead b then
        match rest with
        | c :: _ =>
          if isContinuation c then
            (Char.ofNat ((lead - 0xE0) * 4096 + (b - 0x80) * 64 + (c - 0x80)), 3)
          else (replacement, 2)
        | [] => (replacement, 2)
      else (replacement, 1)
    | [] => (replacement, 1)
  else if 0xF0 ≤ lead ∧ lead ≤ 0xF4 then
    match rest with
    | b :: rest =>
      if isSecondOfFour lead b then
        match rest with
        | c :: rest =>
          if isContinuation c then
            match rest with
            | d :: _ =>
              if isContinuation d then
                (Char.ofNat
                  ((lead - 0xF0) * 262144 + (b - 0x80) * 4096 + (c - 0x80) * 64 + (d - 0x80)), 4)
              else (replacement, 3)
            | [] => (replacement, 3)
          else (replacement, 2)
        | [] => (replacement, 2)
      else (replacement, 1)
    | [] => (replacement, 1)
  else (replacement, 1)

/-- The characters of a row of octets; `skip` octets belong to the character before. -/
def decodeFrom : Nat → List Nat → List Char
  | _, [] => []
  | skip + 1, _ :: rest => decodeFrom skip rest
  | 0, lead :: rest =>
    let (c, count) := decodeFirst lead rest
    c :: decodeFrom (count - 1) rest

def decodeOctets (octets : List Nat) : List Char :=
  decodeFrom 0 octets

end Criteria.Text
