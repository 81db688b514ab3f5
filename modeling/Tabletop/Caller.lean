import Tabletop.Text.Blank

/-!
# Who is calling

A request carries headers, names and values as they came, and the host of the peer if there is one.  Where proxies
are trusted, a caller is named by the first entry of `x-forwarded-for`, else by `cf-connecting-ip`; a header with an
empty value counts as absent.  Otherwise the host of the peer is the name, and `local` where there is none.
-/

namespace Tabletop

structure Request where
  headers : List (String × String)
  peer : Option String
  deriving DecidableEq, Repr

namespace Request

/-- The first header of exactly this name. -/
def header? (r : Request) (name : String) : Option String :=
  (r.headers.find? fun h => h.1 == name).map Prod.snd

def filled? (r : Request) (name : String) : Option String :=
  (r.header? name).filter fun value => !value.isEmpty

def strip (text : List Char) : String :=
  String.ofList (Text.trim Text.isBlank text)

def firstEntry (value : String) : String :=
  strip (value.toList.takeWhile (· != ','))

/-- The name that trusted headers give. -/
def forwarded? (r : Request) : Option String :=
  match r.filled? "x-forwarded-for" with
  | some value => some (firstEntry value)
  | none => (r.filled? "cf-connecting-ip").map fun value => strip value.toList

def localName : String := "local"

def identity (r : Request) (trustForwarded : Bool) : String :=
  match if trustForwarded then r.forwarded? else none with
  | some name => name
  | none => r.peer.getD localName

end Request

end Tabletop
