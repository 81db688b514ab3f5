import Tabletop.Value

/-!
# Values as JSON

A value is written on one line in plain ASCII: every other character is escaped by its UTF-16 units.
-/

namespace Tabletop.Value

/-- The UTF-16 units of a character. -/
def units16 (n : Nat) : List Nat :=
  if n < 0x10000 then [n]
  else [0xD800 + (n - 0x10000) / 0x400, 0xDC00 + (n - 0x10000) % 0x400]

def jsonChar (c : Char) : List Char :=
  if c = Text.doubleQuote ∨ c = '\\' then ['\\', c]
  else if c = '\n' then ['\\', 'n']
  else if c = '\r' then ['\\', 'r']
  else if c = '\t' then ['\\', 't']
  else if 0x20 ≤ c.toNat ∧ c.toNat < 0x7F then [c]
  else (units16 c.toNat).flatMap fun u => ['\\', 'u'] ++ Text.hexDigits 4 u

def jsonText (s : String) : String :=
  String.ofList (Text.doubleQuote :: s.toList.flatMap jsonChar ++ [Text.doubleQuote])

mutual

def json : Value → String
  | null => "null"
  | boolean b => if b then "true" else "false"
  | integer n => toString n
  | real x => x.text
  | text s => jsonText s
  | list items => "[" ++ ", ".intercalate (jsonItems items) ++ "]"
  | object fields => "\x7b" ++ ", ".intercalate (jsonFields fields) ++ "\x7d"

def jsonItems : List Value → List String
  | [] => []
  | v :: rest => json v :: jsonItems rest

def jsonFields : List (String × Value) → List String
  | [] => []
  | (name, v) :: rest => (jsonText name ++ ": " ++ json v) :: jsonFields rest

end

end Tabletop.Value
