import SessionTelemetry.Delivery.Host
import SessionTelemetry.Number.Numeral
import SessionTelemetry.Value.Display

/-!
# Addresses

The address of a backend is read into its parts, each of which is brought into its normal form, and
written again for the request. The port that a scheme has by default is left out, as are steps of a
path that lead nowhere.
-/

namespace SessionTelemetry

structure Address where
  scheme : List Char
  user : List Char
  host : List Char
  port : Option Int
  path : List Char
  query : Option (List Char)
  fragment : Option (List Char)
  deriving DecidableEq, Repr

namespace Address

def isSchemeChar (c : Char) : Bool := c.isAlphanum || ['+', '.', '-'].contains c

def splitScheme (s : List Char) : List Char × List Char :=
  let run := if (s.head?.map Char.isAlpha).getD false then s.takeWhile isSchemeChar else []
  match s.drop run.length with
  | ':' :: rest => (run, rest)
  | _ => ([], s)

def splitAuthority : List Char → List Char × List Char
  | '/' :: '/' :: rest =>
    let inside := fun c => !(['/', '?', '#'].contains c)
    (rest.takeWhile inside, rest.dropWhile inside)
  | s => ([], s)

def splitUser (s : List Char) : List Char × List Char :=
  let host := (s.reverse.takeWhile (· != '@')).reverse
  ((s.take (s.length - host.length)).dropLast, host)

def splitHost (s : List Char) : List Char × List Char :=
  if s.head? == some '[' && s.contains ']' then
    let after := (s.reverse.takeWhile (· != ']')).reverse
    (s.take (s.length - after.length), after)
  else (s.takeWhile (· != ':'), s.dropWhile (· != ':'))

def defaultPort? (scheme : List Char) : Option Int :=
  [("ftp", 21), ("http", 80), ("https", 443), ("ws", 80), ("wss", 443)].lookup
    (String.ofList scheme)

def readPort (scheme : List Char) (s : List Char) : Except Fault (Option Int) :=
  let shown := if s.head? == some ':' then s.drop 1 else s
  if shown.isEmpty then .ok none
  else match Numeral.readInteger shown with
    | .integer n => .ok (if defaultPort? scheme = some n then none else some n)
    | _ => .error .malformedAddress

/-- Follows the steps of a path; a step up never leaves the root. -/
def resolve (done : List (List Char)) : List (List Char) → List (List Char)
  | [] => done.reverse
  | step :: rest =>
    if step == ['.'] then resolve done rest
    else if step == ['.', '.'] then
      resolve (if done.isEmpty || done == [[]] then done else done.drop 1) rest
    else resolve (step :: done) rest

def normalPath (path : List Char) : List Char :=
  let steps := Host.split '/' path
  if steps.contains ['.'] || steps.contains ['.', '.'] then
    List.intercalate ['/'] (resolve [] steps)
  else path

def maxLength : Nat := 65536

def read (s : List Char) : Except Fault Address := do
  if maxLength < s.length ∨ s.any (fun c => c.toNat < 0x20 || c.toNat == 0x7F) then
    throw .malformedAddress
  let (scheme, rest) := splitScheme s
  let (authority, rest) := splitAuthority rest
  let path := rest.takeWhile fun c => c != '?' && c != '#'
  let rest := rest.dropWhile fun c => c != '?' && c != '#'
  let (query, rest) := match rest with
    | '?' :: tail => (some (tail.takeWhile (· != '#')), tail.dropWhile (· != '#'))
    | tail => (none, tail)
  let fragment := match rest with
    | '#' :: tail => some tail
    | _ => none
  let (user, hostPort) := splitUser authority
  let (host, portText) := splitHost hostPort
  let host ← Host.normal host
  let port ← readPort scheme portText
  let isRooted := !scheme.isEmpty || !user.isEmpty || !host.isEmpty || port.isSome
  if !isRooted && (['/', '/'].isPrefixOf path || [':'].isPrefixOf path) then
    throw .malformedAddress
  return {
    scheme := scheme.map Char.toLower
    user := Percent.encode Percent.inUser user
    host, port
    path := Percent.encode Percent.inPath (if isRooted then normalPath path else path)
    query := query.map (Percent.encode Percent.inQuery)
    fragment := fragment.map (Percent.encode Percent.inFragment) }

def queryText (a : Address) : List Char :=
  match a.query with
  | some query => '?' :: query
  | none => []

def authorityText (a : Address) : List Char :=
  let user := if a.user.isEmpty then [] else a.user ++ ['@']
  let host := if a.host.contains ':' then '[' :: a.host ++ [']'] else a.host
  let port := match a.port with
    | some n => ':' :: Value.intText n
    | none => []
  user ++ host ++ port

def render (a : Address) : List Char :=
  let scheme := if a.scheme.isEmpty then [] else a.scheme ++ [':']
  let authority := if a.authorityText.isEmpty then [] else '/' :: '/' :: a.authorityText
  let fragment := match a.fragment with
    | some fragment => '#' :: fragment
    | none => []
  scheme ++ authority ++ a.path ++ a.queryText ++ fragment

def isComplete (a : Address) : Bool := !a.scheme.isEmpty && !a.host.isEmpty

def rootedPath (a : Address) : List Char := '/' :: a.path.dropWhile (· == '/')

/-- The text of the address that a request goes to. Of an incomplete one only the path and the
query count, from the root. -/
def target (a : Address) : String :=
  if a.isComplete then String.ofList a.render else String.ofList (a.rootedPath ++ a.queryText)

def fits (a : Address) : Bool :=
  a.rootedPath.length ≤ maxLength && (a.query.getD []).length ≤ maxLength

end Address

end SessionTelemetry
