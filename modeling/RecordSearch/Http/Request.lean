import RecordSearch.Text.Letter
import RecordSearch.Text.Utf8
import RecordSearch.Url.Percent

/-!
HTTP requests: the path they ask for, the fields of their query strings, and their headers.
-/

namespace RecordSearch.Http

open RecordSearch.Text

structure Request where
  method : String := "GET"
  /-- A path, which a query string may follow. -/
  target : String
  headers : List (String × String) := []
  body : List UInt8 := []
  /-- What is wrong if the rest of the body cannot be read. -/
  broken : Option String := none
  deriving DecidableEq, Repr

namespace Request

def localTarget (r : Request) : List Char :=
  let target := r.target.toList.takeWhile (· != '#')
  if target.head? = some '/' then target
  else
    match target.dropWhile (fun c => c != '/' && c != '?') with
    | '/' :: '/' :: rest => rest.dropWhile fun c => c != '/' && c != '?'
    | rest => rest

/-- Escapes in a path that are not resolved where the path is compared: those of `%`, `/` and
`+`. -/
def isKept (b : UInt8) : Bool := b == 0x25 || b == 0x2F || b == 0x2B

/-- The path with its escapes resolved, but for those of signs that would change it. -/
def path (r : Request) : List Char :=
  Utf8.decodeLossy
    (Url.decodeBytesExcept isKept (Utf8.encode (r.localTarget.takeWhile (· != '?'))))

def query (r : Request) : List Char := (r.localTarget.dropWhile (· != '?')).drop 1

def isVisible (c : Char) : Bool := c == '\t' || (0x20 ≤ c.toNat && c.toNat < 0x7F)

/-- The value of the first header with a name, which is given in lower case, if it is text. -/
def header? (r : Request) (name : String) : Option String :=
  match r.headers.find? (fun h => asciiLowerText h.1 = name) with
  | some h => if h.2.toList.all isVisible then some h.2 else none
  | none => none

end Request

/-! Query strings -/

namespace Form

/-- A text from a query string: a plus sign is a space, and escapes are resolved. -/
def decode (s : List Char) : String :=
  String.ofList (Utf8.decodeLossy
    (Url.decodeBytes (Utf8.encode (s.map fun c => if c = '+' then ' ' else c))))

def pieces : List Char → List (List Char)
  | [] => [[]]
  | '&' :: rest => [] :: pieces rest
  | c :: rest =>
    match pieces rest with
    | [] => [[c]]
    | piece :: others => (c :: piece) :: others

def pair (piece : List Char) : String × String :=
  (decode (piece.takeWhile (· != '=')), decode ((piece.dropWhile (· != '=')).drop 1))

def fields (s : List Char) : List (String × String) :=
  ((pieces s).filter fun piece => !piece.isEmpty).map pair

inductive Fault where
  | missing (name : String)
  | duplicate (name : String)
  deriving DecidableEq, Repr

def accented (s : String) : String := "\x60" ++ s ++ "\x60"

def Fault.message : Fault → String
  | missing name => "missing field " ++ accented name
  | duplicate name => "duplicate field " ++ accented name

def only (name : String) (s : List Char) : Except Fault String :=
  match (fields s).filter fun f => f.1 = name with
  | [] => .error (.missing name)
  | [f] => .ok f.2
  | _ => .error (.duplicate name)

end Form

end RecordSearch.Http
