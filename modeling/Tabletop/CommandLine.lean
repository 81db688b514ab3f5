import Tabletop.Log.Basic
import Tabletop.Text.Numeral

/-!
# The command line

A server is started with options that override its settings.  Every word is first told apart: an option, with the
value attached to it if there is one, or a plain word.  Then the options are carried out from the left; the first
mistake ends it, and so does a request for help that comes before one.  Words that belong to nothing are a mistake
at the end.

Long options may be shortened to any beginning that no other option shares.
-/

namespace Tabletop.CommandLine

inductive Flag where
  | help
  | transport
  | host
  | tcpPort
  | logLevel
  deriving DecidableEq, Repr

def longNames : List (String × Flag) :=
  [("--help", .help), ("--transport", .transport), ("--host", .host), ("--port", .tcpPort),
   ("--log-level", .logLevel)]

/-! ### Telling words apart -/

inductive Word where
  | plain (s : String)
  /-- An option by its long name. -/
  | long (flag : Flag) (value : Option String)
  /-- The short option for help and what is written behind it. -/
  | shortHelp (letters : String)
  | stray
  deriving DecidableEq, Repr

def matchesNumber (digits : List Char) : Bool :=
  let whole := digits.takeWhile Text.isDecimalDigit
  match digits.dropWhile Text.isDecimalDigit with
  | [] => !whole.isEmpty
  | '.' :: fraction => !fraction.isEmpty && fraction.all Text.isDecimalDigit
  | _ => false

/-- A minus and a decimal number, a line break after it left out of account. -/
def isNegativeNumber : List Char → Bool
  | '-' :: digits =>
    matchesNumber digits || (digits.getLast? == some '\n' && matchesNumber digits.dropLast)
  | _ => false

/-- A word that names no option is an argument if it is a negative number or holds a space. -/
def unnamed (word : String) : Word :=
  if isNegativeNumber word.toList || word.toList.contains ' ' then .plain word else .stray

/-- The name of a long option and the value after the first equals sign. -/
def splitValue (word : String) : String × Option String :=
  let name := word.toList.takeWhile (· != '=')
  match word.toList.dropWhile (· != '=') with
  | [] => (word, none)
  | _ :: value => (String.ofList name, some (String.ofList value))

/-- No word for a name that fits more than one option. -/
def longWord? (word : String) : Option Word :=
  let (name, value) := splitValue word
  match longNames.find? (·.1 == name) with
  | some (_, flag) => some (.long flag value)
  | none =>
    match longNames.filter (fun n => name.toList.isPrefixOf n.1.toList) with
    | [] => some (unnamed word)
    | [(_, flag)] => some (.long flag value)
    | _ => none

def word? (word : String) : Option Word :=
  match word.toList with
  | '-' :: '-' :: _ => longWord? word
  | '-' :: 'h' :: letters => some (.shortHelp (String.ofList letters))
  | '-' :: _ :: _ => some (unnamed word)
  | _ => some (.plain word)

/-- Behind two dashes on their own no word belongs to anything. -/
def words? : List String → Option (List Word)
  | [] => some []
  | "--" :: rest => some (.stray :: rest.map fun _ => .stray)
  | w :: rest => do
    let word ← word? w
    let words ← words? rest
    return word :: words

/-! ### Carrying options out -/

inductive Stop where
  | help
  | usage
  deriving DecidableEq, Repr

namespace Stop

def code : Stop → Nat
  | help => 0
  | usage => 2

end Stop

/-- Two dashes behind the equals sign of an option take its value away. -/
structure Arguments where
  transport : Option Transport
  host : Option String
  tcpPort : Option Int
  logLevel : Option String
  deriving DecidableEq, Repr

namespace Arguments

def ofSettings (s : Settings) : Arguments :=
  { transport := s.transport, host := s.host, tcpPort := s.tcpPort, logLevel := s.logLevel }

def clear (a : Arguments) (flag : Flag) : Except Stop Arguments :=
  match flag with
  | .help => .error .usage
  | .transport => .ok { a with transport := none }
  | .host => .ok { a with host := none }
  | .tcpPort => .ok { a with tcpPort := none }
  | .logLevel => .ok { a with logLevel := none }

/-- Any whole number is taken after `--port`. -/
def set (a : Arguments) (flag : Flag) (value : String) : Except Stop Arguments :=
  match flag with
  | .help => .error .usage
  | .transport =>
    match Transport.ofName? value with
    | some transport => .ok { a with transport }
    | none => .error .usage
  | .host => .ok { a with host := value }
  | .tcpPort =>
    match Text.readInteger value with
    | .ok tcpPort => .ok { a with tcpPort }
    | .error _ => .error .usage
  | .logLevel => .ok { a with logLevel := value }

/-- Takes the value that is attached to an option. -/
def setAttached (a : Arguments) (flag : Flag) (value : String) : Except Stop Arguments :=
  if value == "--" then a.clear flag else a.set flag value

end Arguments

/-- Short options may stand together behind one dash or behind an equals sign, and help is the only one. -/
def helpStop : List Char → Stop
  | '=' :: letters => if !letters.isEmpty && letters.all (· == 'h') then .help else .usage
  | letters => if letters.all (· == 'h') then .help else .usage

/-- Carries out words; `strays` says whether a word before them belonged to nothing. -/
def apply : List Word → Bool → Arguments → Except Stop Arguments
  | [], strays, a => if strays then .error .usage else .ok a
  | .plain _ :: rest, _, a => apply rest true a
  | .stray :: rest, _, a => apply rest true a
  | .shortHelp letters :: _, _, _ => .error (helpStop letters.toList)
  | .long .help none :: _, _, _ => .error .help
  | .long flag (some value) :: rest, strays, a =>
    match a.setAttached flag value with
    | .ok a => apply rest strays a
    | .error stop => .error stop
  | .long flag none :: .plain value :: rest, strays, a =>
    match a.set flag value with
    | .ok a => apply rest strays a
    | .error stop => .error stop
  | .long _ none :: _, _, _ => .error .usage

def read (settings : Settings) (argv : List String) : Except Stop Arguments :=
  match words? argv with
  | none => .error .usage
  | some words => apply words false (.ofSettings settings)

/-! ### Starting -/

/-- The log of a server that was started with these arguments. -/
def log (settings : Settings) (a : Arguments) : Except LevelFault Log :=
  match a.logLevel with
  | none => .error .missing
  | some logLevel => Log.ofSettings (some { settings with logLevel })

/-- A value that was taken away is shown as an empty list. -/
def shown {α : Type} (f : α → Value) : Option α → Value
  | none => .list []
  | some v => f v

def startRecord (settings : Settings) (a : Arguments) : Record :=
  { level := .info
    event := "server.start"
    fields :=
      [("transport", shown (fun t => .text t.name) a.transport), ("host", shown .text a.host),
       ("port", shown .integer a.tcpPort), ("rate_limit", .boolean settings.rateLimitEnabled),
       ("history", .boolean settings.historyEnabled)] }

end Tabletop.CommandLine
