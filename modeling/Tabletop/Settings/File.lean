import Tabletop.Fields
import Tabletop.Text.Blank

/-!
# Files of variables

    file     := (blank* line)*
    line     := 'export' blank+ binding | binding | comment
    binding  := name ('=' value?)? comment?
    value    := 'text' in single or double quotes, or plain text up to a blank and a hash sign

A line that is none of these says nothing and does not disturb the others.  Quoted values may hold line breaks and
escapes; a plain value is taken without the blanks around it.  In any value `${NAME}` and `${NAME:-default}` stand for
a variable of an earlier binding or of the environment.  A name without an equals sign is bound to nothing.
-/

namespace Tabletop.Settings.File

open Text

/-! ### Characters -/

/-- All line breaks are written the same way. -/
def joinBreaks : List Char → List Char
  | '\r' :: '\n' :: rest => '\n' :: joinBreaks rest
  | '\r' :: rest => '\n' :: joinBreaks rest
  | c :: rest => c :: joinBreaks rest
  | [] => []

/-- Blanks within a line. -/
def isInnerBlank (c : Char) : Bool := isBlank c && c != '\n'

def skipInnerBlanks (text : List Char) : List Char := text.dropWhile isInnerBlank

def skipLine (text : List Char) : List Char := (text.dropWhile (· != '\n')).tail

/-! ### Values -/

/-- Cuts off a comment, which begins with a hash sign behind a blank. -/
def cutComment : List Char → List Char
  | [] => []
  | c :: rest =>
    if isBlank c && (rest.dropWhile isBlank).head? == some '#' then [] else c :: cutComment rest

/-- The text before the closing quote and the rest behind it.  Whatever stands behind a backslash closes nothing. -/
def untilQuote (quote : Char) : List Char → Option (List Char × List Char)
  | [] => none
  | '\\' :: c :: rest => (untilQuote quote rest).map fun (text, after) => ('\\' :: c :: text, after)
  | c :: rest =>
    if c = quote then some ([], rest)
    else (untilQuote quote rest).map fun (text, after) => (c :: text, after)

/-- Within single quotes only quotes and backslashes are escaped. -/
def singleEscape? : Char → Option Char
  | '\\' => some '\\'
  | '\'' => some '\''
  | _ => none

def doubleEscape? : Char → Option Char
  | '\\' => some '\\'
  | '\'' => some '\''
  | '"' => some '"'
  | 'a' => some '\x07'
  | 'b' => some '\x08'
  | 'f' => some '\x0c'
  | 'n' => some '\n'
  | 'r' => some '\r'
  | 't' => some '\t'
  | 'v' => some '\x0b'
  | _ => none

/-- Replaces escapes; a backslash before any other character stands for itself. -/
def unescape (escape? : Char → Option Char) : List Char → List Char
  | '\\' :: c :: rest =>
    match escape? c with
    | some d => d :: unescape escape? rest
    | none => '\\' :: unescape escape? (c :: rest)
  | c :: rest => c :: unescape escape? rest
  | [] => []

/-- The value that starts here and what follows it; none if a quote is not closed.  A comment may stand in the place
of a plain value if a blank stands before it. -/
def value? (text : List Char) : Option (List Char × List Char) :=
  match skipInnerBlanks text with
  | '\'' :: rest => (untilQuote '\'' rest).map fun (v, after) => (unescape singleEscape? v, after)
  | '"' :: rest => (untilQuote '"' rest).map fun (v, after) => (unescape doubleEscape? v, after)
  | _ => some (trim isBlank (cutComment (text.takeWhile (· != '\n'))), text.dropWhile (· != '\n'))

/-! ### Lines -/

def isNameChar (c : Char) : Bool := c != '=' && c != '#' && !isBlank c

/-- The name that starts here and what follows it; a name in single quotes may hold anything else. -/
def name? (text : List Char) : Option (List Char × List Char) :=
  match text with
  | '\'' :: rest =>
    match rest.takeWhile (· != '\''), rest.dropWhile (· != '\'') with
    | c :: name, _ :: after => some (c :: name, after)
    | _, _ => none
  | _ =>
    match text.takeWhile isNameChar with
    | [] => none
    | name => some (name, text.dropWhile isNameChar)

def skipExport (text : List Char) : List Char :=
  match text with
  | 'e' :: 'x' :: 'p' :: 'o' :: 'r' :: 't' :: rest =>
    if rest.head?.any isInnerBlank then skipInnerBlanks rest else text
  | _ => text

structure Binding where
  name : List Char
  value : Option (List Char)
  deriving DecidableEq, Repr

/-- What follows the line if nothing but blanks and a comment is left of it. -/
def lineEnd? (text : List Char) : Option (List Char) :=
  match skipInnerBlanks text with
  | [] => some []
  | '\n' :: rest => some rest
  | '#' :: rest => some (skipLine rest)
  | _ => none

/-- What has been read before this place, if the line ends here; else the place itself. -/
def ended {α : Type} (a : α) (text : List Char) : Except (List Char) (α × List Char) :=
  match lineEnd? text with
  | some rest => .ok (a, rest)
  | none => .error text

/-- The binding that starts here and the following lines, or the place where the line stops making sense. -/
def binding (text : List Char) : Except (List Char) (Binding × List Char) :=
  match name? text with
  | none => .error text
  | some (name, rest) =>
    match skipInnerBlanks rest with
    | '=' :: rest =>
      match value? rest with
      | none => .error rest
      | some (value, rest) => ended ⟨name, some value⟩ rest
    | rest => ended ⟨name, none⟩ rest

/-- All bindings of a text, from at most `room` lines. -/
def bindingsWithin : Nat → List Char → List Binding
  | 0, _ => []
  | room + 1, text =>
    match skipExport (text.dropWhile isBlank) with
    | [] => []
    | line =>
      match binding line with
      | .ok (b, rest) => b :: bindingsWithin room rest
      | .error place => bindingsWithin room (skipLine place)

/-- A byte order mark may stand at the start of a file and is no part of its text. -/
def skipMark : List Char → List Char
  | '\ufeff' :: rest => rest
  | text => text

/-- Every line takes at least one character. -/
def bindings (text : List Char) : List Binding :=
  bindingsWithin text.length (joinBreaks (skipMark text))

/-! ### Variables in values -/

/-- The name that starts here, the default behind it and what follows the closing brace. -/
def reference? (text : List Char) : Option (List Char × List Char × List Char) :=
  let name := text.takeWhile fun c => c != '\x7d' && c != ':'
  match text.dropWhile fun c => c != '\x7d' && c != ':' with
  | '\x7d' :: rest => some (name, [], rest)
  | ':' :: '-' :: rest =>
    match rest.dropWhile (· != '\x7d') with
    | _ :: after => some (name, rest.takeWhile (· != '\x7d'), after)
    | [] => none
  | _ => none

/-- Replaces variables in a text, at most `room` characters of which are looked at. -/
def fillWithin (find? : String → Option (List Char)) : Nat → List Char → List Char
  | 0, text => text
  | _ + 1, [] => []
  | room + 1, '$' :: '\x7b' :: rest =>
    match reference? rest with
    | some (name, default, after) =>
      (find? (String.ofList name)).getD default ++ fillWithin find? room after
    | none => '$' :: fillWithin find? room ('\x7b' :: rest)
  | room + 1, c :: rest => c :: fillWithin find? room rest

def fill (find? : String → Option (List Char)) (text : List Char) : List Char :=
  fillWithin find? text.length text

/-- A variable that is bound to nothing is empty. -/
def lookUp (environment : List (String × String)) (earlier : List (String × Option String)) (name : String) :
    Option (List Char) :=
  match Fields.last? earlier name with
  | some value => some ((value.map String.toList).getD [])
  | none => (Fields.last? environment name).map String.toList

/-- The variables of a file, in the order in which their names came first. -/
def contents (environment : List (String × String)) (file : String) : List (String × Option String) :=
  (bindings file.toList).foldl (fun earlier b =>
    let value := b.value.map fun v => String.ofList (fill (lookUp environment earlier) v)
    Fields.set earlier (String.ofList b.name, value)) []

end Tabletop.Settings.File
