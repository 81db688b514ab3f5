import Tabletop.Binary64.Decimal
import Tabletop.Text.Quoted

/-!
# Values of records

The values that log records and answers carry: nothing, truth values, whole numbers, numbers with a point, texts, lists
and objects with their fields in order.
-/

namespace Tabletop

inductive Value where
  | null
  | boolean (b : Bool)
  | integer (n : Int)
  | real (x : Binary64)
  | text (s : String)
  | list (items : List Value)
  | object (fields : List (String × Value))
  deriving Repr

namespace Value

def ofOption {α : Type} (f : α → Value) : Option α → Value
  | none => null
  | some a => f a

def quotedText (s : String) : String := String.ofList (Text.quoted s.toList)

mutual

/-- The form of a value inside another one. -/
def inner : Value → String
  | null => "None"
  | boolean b => if b then "True" else "False"
  | integer n => toString n
  | real x => x.text
  | text s => quotedText s
  | list items => "[" ++ ", ".intercalate (innerItems items) ++ "]"
  | object fields => "\x7b" ++ ", ".intercalate (innerFields fields) ++ "\x7d"

def innerItems : List Value → List String
  | [] => []
  | v :: rest => inner v :: innerItems rest

def innerFields : List (String × Value) → List String
  | [] => []
  | (name, v) :: rest => (quotedText name ++ ": " ++ inner v) :: innerFields rest

end

/-- The form of a value on its own: a text is shown as it is. -/
def shown : Value → String
  | text s => s
  | v => v.inner

/-- The form of a value among others on a line: a text that would not stand out as one word is quoted. -/
def word : Value → String
  | text s => if s.toList.any fun c => " \t=\r\n\"'".toList.contains c then quotedText s else s
  | v => v.inner

/-- What a value is called when another kind of value is wanted. -/
def kindName : Value → String
  | null => "NoneType"
  | boolean _ => "bool"
  | integer _ => "int"
  | real _ => "float"
  | text _ => "str"
  | list _ => "list"
  | object _ => "dict"

/-- Nothing, zero, and what holds nothing. -/
def isEmpty : Value → Bool
  | null => true
  | boolean b => !b
  | integer n => n == 0
  | real x => x.significand == 0
  | text s => s.isEmpty
  | list items => items.isEmpty
  | object fields => fields.isEmpty

/-- Truth values count as the numbers one and zero. -/
def asInteger? : Value → Option Int
  | boolean b => some (if b then 1 else 0)
  | integer n => some n
  | _ => none

end Value

end Tabletop
