import Mathlib.Data.List.DropRight
import Mathlib.Data.Rat.Defs

/-!
# The values that the catalogue script works on

What `json.load` gives, the accesses that the script makes, and the exceptions
that they raise.  A text is a list of code points, among which there may be
surrogates that have no partner.
-/

namespace EvoPlatform
namespace StripeCatalogue

/-- A string of Python. -/
abbrev PyString := List Nat

def ofText (text : String) : PyString := text.toList.map Char.toNat

inductive PyFloat
  | finite (value : Rat)
  | infinity (negative : Bool)
  | nan
  deriving DecidableEq

/-- A value that was read from a file. -/
inductive PyValue
  | none
  | bool (value : Bool)
  | int (value : Int)
  | float (value : PyFloat)
  | str (value : PyString)
  | list (items : List PyValue)
  | dict (items : List (PyString × PyValue))

/-- What the script raises. -/
inductive PyError
  | attributeError
  | typeError
  | keyError
  | indexError
  | valueError
  | overflowError
  | unicodeEncodeError
  | timeoutError
  | remoteDisconnected
  | incompleteRead
  | jsonDecodeError
  /-- `StripeError`. -/
  | stripe (message : String)
  /-- No error of the script: a listing has more pages than were allowed. -/
  | unfinished
  deriving DecidableEq

def PyError.isStripe : PyError → Bool
  | .stripe _ => true
  | _ => false

/-! ## Texts -/

/-- The white space that `strip` removes. -/
def isSpace (point : Nat) : Bool :=
  (0x09 ≤ point && point ≤ 0x0D) || (0x1C ≤ point && point ≤ 0x20) ||
    point = 0x85 || point = 0xA0 || point = 0x1680 ||
    (0x2000 ≤ point && point ≤ 0x200A) || point = 0x2028 || point = 0x2029 ||
    point = 0x202F || point = 0x205F || point = 0x3000

/-- `text.strip()`. -/
def strip (text : PyString) : PyString :=
  (text.dropWhile isSpace).rdropWhile isSpace

/-- A text that can be encoded: it has no surrogates. -/
def encodes (text : PyString) : Bool :=
  text.all fun point => !(0xD800 ≤ point && point ≤ 0xDFFF)

namespace PyValue

/-- `bool(value)`. -/
def truthy : PyValue → Bool
  | .none => false
  | .bool value => value
  | .int value => value ≠ 0
  | .float value => value ≠ .finite 0
  | .str value => !value.isEmpty
  | .list items => !items.isEmpty
  | .dict items => !items.isEmpty

/-- A value that can be in a set. -/
def hashable : PyValue → Bool
  | .list _ => false
  | .dict _ => false
  | _ => true

/-- The number that a value is, where True is one and False is zero. -/
def number : PyValue → Option PyFloat
  | .bool value => some (.finite (if value then 1 else 0))
  | .int value => some (.finite value)
  | .float value => some value
  | _ => Option.none

/-- `left == right`, for values that can be in a set.  There is one object for
NaN, and in a tuple it is equal to itself. -/
def equals (left right : PyValue) : Bool :=
  match left, right with
  | .none, .none => true
  | .str left, .str right => left = right
  | left, right => left.number.isSome && left.number = right.number

/-- `isinstance(value, int)` and no bool. -/
def asInt : PyValue → Option Int
  | .int value => some value
  | _ => Option.none

def asStr : PyValue → Option PyString
  | .str value => some value
  | _ => Option.none

/-- The items of a list that is not empty. -/
def asItems : PyValue → Option (List PyValue)
  | .list [] => Option.none
  | .list items => some items
  | _ => Option.none

/-- The members of an object. -/
def asDict : PyValue → Option (List (PyString × PyValue))
  | .dict items => some items
  | _ => Option.none

/-- What an object has under a key. -/
def lookup (items : List (PyString × PyValue)) (key : String) :
    Option PyValue :=
  (items.find? fun item => item.1 = ofText key).map Prod.snd

/-- `value.get(key)`, and `value.get(key, default)` by `getD`. -/
def get (value : PyValue) (key : String) : Except PyError (Option PyValue) :=
  match value with
  | .dict items => .ok (lookup items key)
  | _ => .error .attributeError

/-- `value[key]`. -/
def item (value : PyValue) (key : String) : Except PyError PyValue :=
  match value with
  | .dict items =>
      match lookup items key with
      | Option.none => .error .keyError
      | some value => .ok value
  | _ => .error .typeError

/-- What a `for` goes through.  Of what `validate` refuses, nothing is read. -/
def iterate : PyValue → Except PyError (List PyValue)
  | .list items => .ok items
  | _ => .error .typeError

/-- A text, for a method of texts. -/
def text : PyValue → Except PyError PyString
  | .str value => .ok value
  | _ => .error .attributeError

/-- `int(value)`.  Of what `validate` refuses, no text is read. -/
def toInt : PyValue → Except PyError Int
  | .int value => .ok value
  | .bool value => .ok (if value then 1 else 0)
  | .float (.finite value) => .ok (if 0 ≤ value then value.floor else value.ceil)
  | .float (.infinity _) => .error .overflowError
  | .float .nan => .error .valueError
  | .str _ => .error .valueError
  | _ => .error .typeError

/-- The texts that `urlencode(form, doseq=True)` quotes for a value, as far as
they need not be encodable. -/
def formTexts : PyValue → List PyString
  | .str value => [value]
  | .list items => items.filterMap asStr
  | .dict items => items.map Prod.fst
  | _ => []

end PyValue

end StripeCatalogue
end EvoPlatform
