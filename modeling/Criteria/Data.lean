import Criteria.Calendar

/-!
# Values without a schema

Raw values, wire values and the contents of a configuration file have no type that is
known beforehand. `Data` is what such a value can be. A record keeps its entries in the
order in which they were written.
-/

namespace Criteria

inductive Data where
  | null
  | bool (value : Bool)
  | int (value : Int)
  | float (value : Binary64)
  | text (value : String)
  | octets (value : List UInt8)
  | list (items : List Data)
  | tuple (items : List Data)
  | set (items : List Data)
  | record (entries : List (Data × Data))
  | date (value : Date)
  | moment (value : Moment)
  deriving Repr, Inhabited

namespace Data

def kindName : Data → String
  | null => "NoneType"
  | bool _ => "bool"
  | int _ => "int"
  | float _ => "float"
  | text _ => "str"
  | octets _ => "bytes"
  | list _ => "list"
  | tuple _ => "tuple"
  | set _ => "set"
  | record _ => "dict"
  | date _ => "date"
  | moment _ => "datetime"

/-- The name of a value's kind where it is told apart by its family. -/
def fullKindName : Data → String
  | date _ => "datetime.date"
  | moment _ => "datetime.datetime"
  | d => d.kindName

/-- Whether a value counts as present: neither null, zero, false nor empty. -/
def isTruthy : Data → Bool
  | null => false
  | bool b => b
  | int n => n != 0
  | float x => !x.isZero
  | text s => !s.isEmpty
  | octets os => !os.isEmpty
  | list xs | tuple xs | set xs => !xs.isEmpty
  | record es => !es.isEmpty
  | date _ | moment _ => true

def isNull : Data → Bool
  | null => true
  | _ => false

def text? : Data → Option String
  | text s => some s
  | _ => none

def ofOption : Option Data → Data
  | some d => d
  | none => null

def lookup (key : String) : List (Data × Data) → Option Data
  | [] => none
  | (text k, value) :: rest => if k = key then some value else lookup key rest
  | _ :: rest => lookup key rest

/-- The elements of a value that has elements: characters of a text, numbers of octets, keys
of a record. -/
def elements? : Data → Option (List Data)
  | text s => some (s.toList.map fun c => text (String.singleton c))
  | octets os => some (os.map fun o => int o.toNat)
  | list xs | tuple xs | set xs => some xs
  | record es => some (es.map (·.1))
  | _ => none

def sequence? : Data → Option (List Data)
  | list xs | tuple xs => some xs
  | _ => none

mutual

/-- Whether a value never changes, which a key or a member of a set must not. -/
def isConstant : Data → Bool
  | list _ | set _ | record _ => false
  | tuple xs => allConstant xs
  | _ => true

def allConstant : List Data → Bool
  | [] => true
  | x :: xs => x.isConstant && allConstant xs

end

end Data

end Criteria
