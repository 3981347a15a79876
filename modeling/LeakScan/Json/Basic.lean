import LeakScan.Number.Numeral
import LeakScan.Number.Shortest
import LeakScan.Text.Quoted

/-!
# JSON values

The values a JSON text holds. Integers have any size; a number written with a point or an
exponent is a floating-point value. An object keeps its keys in the order they were first
written, and the last value written for a key counts. Texts and keys may be torn.
-/

set_option autoImplicit false

namespace LeakScan

/-- A JSON value. -/
inductive Json where
  | null
  | bool (b : Bool)
  | int (i : Int)
  | num (d : Double)
  | str (s : Text.Loose)
  | arr (items : List Json)
  | obj (fields : List (Text.Loose × Json))
deriving Repr, Inhabited

namespace Json

/-- The fields of an object. -/
abbrev Fields := List (Text.Loose × Json)

/-- The value of a key in an object's fields. -/
def lookup (key : Text.Loose) : Fields → Option Json
  | [] => none
  | (k, v) :: fields => if k = key then some v else lookup key fields

/-- Sets a key: in place when it is there, at the end when it is new. -/
def insert (key : Text.Loose) (value : Json) : Fields → Fields
  | [] => [(key, value)]
  | (k, v) :: fields =>
    if k = key then (k, value) :: fields else (k, v) :: insert key value fields

/-- Whether a value counts as present: nothing, false, zero and whatever is empty do not. -/
def isPresent : Json → Bool
  | null => false
  | bool b => b
  | int i => i != 0
  | num d => !d.isZero
  | str s => s != .whole ""
  | arr items => !items.isEmpty
  | obj fields => !fields.isEmpty

mutual

/-- How a value shows in a message: texts in quotes, items between brackets. -/
def shown : Json → String
  | null => "None"
  | bool b => if b then "True" else "False"
  | int i => Numeral.ofInt i
  | num d => d.text
  | str s => s.quoted
  | arr items => "[" ++ shownItems items ++ "]"
  | obj fields => "\x7b" ++ shownFields fields ++ "\x7d"

/-- The items of a list, between commas. -/
def shownItems : List Json → String
  | [] => ""
  | [v] => shown v
  | v :: w :: items => shown v ++ ", " ++ shownItems (w :: items)

/-- The fields of an object, between commas. -/
def shownFields : List (Text.Loose × Json) → String
  | [] => ""
  | [(k, v)] => k.quoted ++ ": " ++ shown v
  | (k, v) :: f :: fields => k.quoted ++ ": " ++ shown v ++ ", " ++ shownFields (f :: fields)

end

mutual

/-- Whether a value can be shown: every integer in it has a text. -/
def isShowable : Json → Bool
  | int i => (Numeral.ofInt? i).isSome
  | arr items => areShowable items
  | obj fields => areFieldsShowable fields
  | _ => true

/-- Whether the items of a list can be shown. -/
def areShowable : List Json → Bool
  | [] => true
  | v :: items => isShowable v && areShowable items

/-- Whether the fields of an object can be shown. -/
def areFieldsShowable : List (Text.Loose × Json) → Bool
  | [] => true
  | (_, v) :: fields => isShowable v && areFieldsShowable fields

end

/-- A value as plain text: a text as it is, another value as it shows. -/
def plain : Json → String
  | str s => s.repaired
  | v => v.shown

@[simp] theorem lookup_nil (key : Text.Loose) : lookup key [] = none := rfl

end Json
end LeakScan
