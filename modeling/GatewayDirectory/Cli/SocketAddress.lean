import GatewayDirectory.Text.Blank

/-!
# Socket addresses

An address to listen on: four decimal bytes, or eight groups of base sixteen in brackets, then a
colon and a port. `SocketAddress.text` writes it in its shortest usual form.
-/

namespace GatewayDirectory.Cli

open Text

/-- An address with a port. -/
inductive SocketAddress where
  | v4 (bytes : List Nat) (port : Nat)
  | v6 (groups : List Nat) (port : Nat)
deriving DecidableEq, Inhabited

namespace SocketAddress

/-- The port that digits spell. -/
def port? (cs : List Char) : Option Nat := (natural? cs).filter (· < 65536)

/-- A decimal byte without leading zeros. -/
def byte? (cs : List Char) : Option Nat :=
  if 3 < cs.length || (1 < cs.length && cs.head? == some '0') then none
  else (natural? cs).filter (· < 256)

/-- Four bytes with dots between. -/
def bytes? (cs : List Char) : Option (List Nat) :=
  let parts := splitAt '.' cs
  if parts.length = 4 then parts.mapM byte? else none

/-- The value of a digit of base sixteen. -/
def hex? (c : Char) : Option Nat :=
  if c.isDigit then some (c.toNat - 48)
  else if 'a' ≤ c ∧ c ≤ 'f' then some (c.toNat - 87)
  else if 'A' ≤ c ∧ c ≤ 'F' then some (c.toNat - 55)
  else none

/-- A group of one to four digits of base sixteen. -/
def group? (cs : List Char) : Option Nat :=
  if cs.isEmpty || 4 < cs.length then none
  else cs.foldlM (fun n c => (hex? c).map (n * 16 + ·)) 0

/-- Groups with colons between, of which the last two may be written as four bytes. -/
def groups? (cs : List Char) : Option (List Nat) :=
  if cs.isEmpty then some []
  else do
    let parts := splitAt ':' cs
    let last := parts.getLast?.getD []
    if last.contains '.' then
      match ← bytes? last with
      | [a, b, c, d] => return (← parts.dropLast.mapM group?) ++ [a * 256 + b, c * 256 + d]
      | _ => none
    else parts.mapM group?

/-- The texts before and after the first pair of colons. -/
def splitPair : List Char → Option (List Char × List Char)
  | ':' :: ':' :: rest => some ([], rest)
  | c :: rest => (splitPair rest).map fun (a, b) => (c :: a, b)
  | [] => none

/-- Eight groups, where a pair of colons stands for as many zeros as are left out. -/
def allGroups? (cs : List Char) : Option (List Nat) := do
  match splitPair cs with
  | none =>
    let groups ← groups? cs
    if groups.length = 8 then some groups else none
  | some (before, after) =>
    let a ← groups? before
    let b ← groups? after
    if before.contains '.' then none
    else if a.length + b.length ≤ 7 then
      some (a ++ List.replicate (8 - a.length - b.length) 0 ++ b)
    else none

/-- Reads an address with its port. -/
def read? (s : String) : Option SocketAddress :=
  match s.toList with
  | '[' :: rest =>
    let inside := rest.takeWhile (· != ']')
    match rest.drop inside.length with
    | ']' :: ':' :: port => do return .v6 (← allGroups? inside) (← port? port)
    | _ => none
  | cs =>
    let host := cs.takeWhile (· != ':')
    match cs.drop host.length with
    | ':' :: port => do return .v4 (← bytes? host) (← port? port)
    | _ => none

/-- The longest run of zeros of at least two groups, the first of several: where it starts and its
length. -/
def zeroRun (groups : List Nat) : Option (Nat × Nat) :=
  (List.range groups.length).foldl (fun best i =>
    let n := ((groups.drop i).takeWhile (· == 0)).length
    match best with
    | some (_, m) => if m < n then some (i, n) else best
    | none => if 2 ≤ n then some (i, n) else none) none

/-- Groups in lower case with colons between. -/
def groupsText (groups : List Nat) : String :=
  ":".intercalate (groups.map fun n => String.ofList (Nat.toDigits 16 n))

/-- Bytes with dots between. -/
def bytesText (bytes : List Nat) : String := ".".intercalate (bytes.map toString)

/-- The usual form of eight groups. -/
def v6Text (groups : List Nat) : String :=
  match groups with
  | [0, 0, 0, 0, 0, 0xffff, a, b] => "::ffff:" ++ bytesText [a / 256, a % 256, b / 256, b % 256]
  | _ =>
    match zeroRun groups with
    | some (i, n) => groupsText (groups.take i) ++ "::" ++ groupsText (groups.drop (i + n))
    | none => groupsText groups

/-- The address as text. -/
def text : SocketAddress → String
  | v4 bytes port => bytesText bytes ++ ":" ++ toString port
  | v6 groups port => "[" ++ v6Text groups ++ "]:" ++ toString port

end SocketAddress

end GatewayDirectory.Cli
