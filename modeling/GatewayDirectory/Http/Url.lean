import GatewayDirectory.Text.Blank
import GatewayDirectory.Text.Percent

/-!
# Addresses

How a client takes an address apart: scheme, host with port, path and query. Scheme and host are
lower case, a scheme's own port is left out, and the segments `.` and `..` of a path are resolved.
-/

namespace GatewayDirectory.Http

open Text

/-- An address. -/
structure Url where
  scheme : String
  /-- Host and port; `none` for an address that names no host. -/
  authority : Option String
  /-- The path as it is sent, segments resolved. -/
  path : String
  query : Option String
  fragment : Option String
deriving DecidableEq, Inhabited

namespace Url

/-- The schemes with a host and a port of their own. -/
def schemePort? (scheme : String) : Option Nat :=
  if scheme = "http" ∨ scheme = "ws" then some 80
  else if scheme = "https" ∨ scheme = "wss" then some 443
  else if scheme = "ftp" then some 21
  else none

/-- The path with its query, as it stands in a request. -/
def target (u : Url) : String :=
  u.path ++ match u.query with
    | some q => "?" ++ q
    | none => ""

/-- The address as text. -/
def text (u : Url) : String :=
  u.scheme ++ ":" ++ (match u.authority with
    | some host => "//" ++ host
    | none => "") ++ u.target ++ match u.fragment with
    | some f => "#" ++ f
    | none => ""

/-- Whether requests can be sent to the address. -/
def isHttp (u : Url) : Bool := (u.scheme == "http" || u.scheme == "https") && u.authority.isSome

/-- A character of an address, spelled by its bytes if it is no ASCII glyph or one of `special`. -/
def encodeChar (special : List Char) (c : Char) : List Char :=
  if c.toNat ≤ 0x20 ∨ 0x7f ≤ c.toNat ∨ special.contains c then
    (String.singleton c).toUTF8.toList.flatMap fun b =>
      ['%', Percent.hexDigit (b.toNat / 16), Percent.hexDigit (b.toNat % 16)]
  else [c]

/-- The characters that a path spells by their bytes. -/
def pathSpecial : List Char := ['"', '#', '<', '>', '?', '\x60', '\x7b', '\x7d']

/-- The characters that a query spells by their bytes. -/
def querySpecial : List Char := ['"', '#', '<', '>', '\'']

/-- The characters that a fragment spells by their bytes. -/
def fragmentSpecial : List Char := ['"', '<', '>', '\x60']

/-- A segment that stands for its own place. -/
def isDot (segment : List Char) : Bool :=
  let s := String.ofList (segment.map Char.toLower)
  s == "." || s == "%2e"

/-- A segment that stands for the place above. -/
def isDotDot (segment : List Char) : Bool :=
  let s := String.ofList (segment.map Char.toLower)
  s == ".." || s == ".%2e" || s == "%2e." || s == "%2e%2e"

/-- The segments of a path with `.` and `..` resolved; `done` holds those before, latest first. -/
def resolve : (segments done : List (List Char)) → List (List Char)
  | [], done => done.reverse
  | [last], done =>
    if isDotDot last then ([] :: done.drop 1).reverse
    else if isDot last then ([] :: done).reverse
    else (last :: done).reverse
  | segment :: rest, done =>
    if isDotDot segment then resolve rest (done.drop 1)
    else if isDot segment then resolve rest done
    else resolve rest (segment :: done)

/-- The path of an address from the characters behind its host. -/
def pathOf (cs : List Char) : String :=
  let cs := cs.map fun c => if c = '\\' then '/' else c
  let cs := match cs with
    | '/' :: rest => rest
    | _ => cs
  let segments := resolve (splitAt '/' cs) []
  String.ofList (segments.flatMap fun s => '/' :: s.flatMap (encodeChar pathSpecial))

/-- Characters that no host holds. -/
def isForbiddenInHost (c : Char) : Bool :=
  c.toNat ≤ 0x20 || c.toNat = 0x7f ||
    ['#', '/', ':', '<', '>', '?', '@', '[', '\\', ']', '^', '|', '%'].contains c

/-- Host and port as an address writes them; `none` if they are none. -/
def authorityOf? (scheme : String) (cs : List Char) : Option String :=
  -- what stands before the last at sign names a user
  let cs := (splitAt '@' cs).getLast?.getD []
  let (host, port) :=
    match cs with
    -- colons in brackets belong to the host
    | '[' :: _ =>
      let inside := cs.takeWhile (· != ']')
      (inside ++ [']'], cs.drop (inside.length + 1))
    | _ => (cs.takeWhile (· != ':'), cs.dropWhile (· != ':'))
  let bad := if host.head? == some '[' then host.length < 4 else host.any isForbiddenInHost
  if host.isEmpty || bad then none
  else
    let name := String.ofList (host.map Char.toLower)
    match port with
    | [] | [':'] => some name
    | ':' :: digits =>
      match natural? digits with
      | none => none
      | some n =>
        if 65535 < n then none
        -- the port that goes without saying is not written
        else if schemePort? scheme == some n then some name
        else some (name ++ ":" ++ toString n)
    | _ => none

/-- The characters of a scheme. -/
def isSchemeChar (c : Char) : Bool := c.isAlphanum || c = '+' || c = '-' || c = '.'

/-- Reads an address; `none` if it has no scheme, or one that needs a host and has none. -/
def read? (s : String) : Option Url := do
  let trim (cs : List Char) := cs.dropWhile fun c => c.toNat ≤ 0x20
  let trimmed := (trim (trim s.toList).reverse).reverse
  -- tabs and breaks count nowhere in an address
  let cs := trimmed.filter fun c => !(c = '\t' || c = '\n' || c = '\r')
  let scheme := cs.takeWhile isSchemeChar
  let rest := cs.drop scheme.length
  if !(scheme.head?.any Char.isAlpha) || rest.head? != some ':' then none
  let scheme := String.ofList (scheme.map Char.toLower)
  let rest := rest.drop 1
  let beforeFragment := rest.takeWhile (· != '#')
  let fragment := match rest.drop beforeFragment.length with
    | [] => none
    | _ :: f => some (String.ofList (f.flatMap (encodeChar fragmentSpecial)))
  let beforeQuery := beforeFragment.takeWhile (· != '?')
  let query := match beforeFragment.drop beforeQuery.length with
    | [] => none
    | _ :: q => some (String.ofList (q.flatMap (encodeChar querySpecial)))
  if (schemePort? scheme).isSome then
    let afterSlashes := beforeQuery.dropWhile fun c => c = '/' || c = '\\'
    let host := afterSlashes.takeWhile fun c => !(c = '/' || c = '\\')
    let authority ← authorityOf? scheme host
    some ⟨scheme, some authority, pathOf (afterSlashes.drop host.length), query, fragment⟩
  else
    match beforeQuery with
    | '/' :: '/' :: rest =>
      let host := rest.takeWhile (· != '/')
      some ⟨scheme, some (String.ofList host), if (rest.drop host.length).isEmpty then "" else
        pathOf (rest.drop host.length), query, fragment⟩
    | rest => some ⟨scheme, none, String.ofList rest, query, fragment⟩

end Url

end GatewayDirectory.Http
