import GatewayDirectory.Yaml.Cursor

/-!
# Scalars of YAML text

The three ways to write a scalar: plain, between quotes, and as a block. Each reader starts at the
scalar and answers its text with the place behind it, or `none` where the text breaks a rule.
-/

namespace GatewayDirectory.Yaml

/-- How a scalar is written. Only a plain one may denote something other than text. -/
inductive Style where
  | plain
  | quoted
  | literal
  | folded
deriving DecidableEq, Inhabited

/-- The characters that end a plain scalar inside brackets. -/
def isFlowMark (c : Char) : Bool := c = ',' || c = '[' || c = ']' || c = '\x7b' || c = '\x7d'

/-- Whether brackets forbid a colon before these characters. -/
def colonForbidden : List Char → Bool
  | y :: _ => isFlowMark y || y = '?'
  | [] => false

/-- The part of a plain scalar up to a gap or its end, in front of `text` latest first; `none` for a
colon that brackets forbid. -/
def takePlainPart (inFlow : Bool) (text : List Char) : List Char → Option (List Char)
  | [] => some text
  | x :: rest =>
    if isBlank x || isBreak x then some text
    else if x = ':' && inFlow && colonForbidden rest then none
    else if (x = ':' && atGap rest) || (inFlow && isFlowMark x) then some text
    else takePlainPart inFlow (x :: text) rest

/-- A plain scalar: parts joined by folded gaps, latest first. Also tells whether it ends with a
line break. -/
def readPlain (inFlow : Bool) (indent : Nat) :
    (fuel : Nat) → (text : List Char) → (gap : Gap) → Cursor → Option (List Char × Bool × Cursor)
  | 0, _, _, _ => none
  | fuel + 1, text, gap, c =>
    if c.atMarker || c.rest.head? == some '#' then some (text, gap.first.isSome, c)
    else do
      let part ← takePlainPart inFlow [] c.rest
      let (text, gap) :=
        if part.isEmpty then (text, gap) else (part ++ (gap.folded.reverse ++ text), Gap.empty)
      let c := c.skip part.length
      match c.rest with
      | x :: _ =>
        if isBlank x || isBreak x then
          let (next, c) ← gap.read indent (fuel + 1) c
          if !inFlow && c.column < indent then some (text, next.first.isSome, c)
          else readPlain inFlow indent fuel text next c
        else some (text, gap.first.isSome, c)
      | [] => some (text, gap.first.isSome, c)

/-- The value of a digit of base sixteen. -/
def hexDigitValue? (c : Char) : Option Nat :=
  if c.isDigit then some (c.toNat - 48)
  else if 'a' ≤ c ∧ c ≤ 'f' then some (c.toNat - 87)
  else if 'A' ≤ c ∧ c ≤ 'F' then some (c.toNat - 55)
  else none

/-- The character whose code the first `width` digits of base sixteen spell. -/
def takeCode? (width : Nat) (cs : List Char) : Option Char := do
  let digits := cs.take width
  if digits.length ≠ width then none
  let code ← digits.foldlM (fun n d => (hexDigitValue? d).map (n * 16 + ·)) 0
  if code.isValidChar then some (Char.ofNat code) else none

/-- What an escape in double quotes stands for, and how many characters it takes after the
backslash. -/
def takeEscape? : List Char → Option (Char × Nat)
  | '0' :: _ => some ('\x00', 1)
  | 'a' :: _ => some ('\x07', 1)
  | 'b' :: _ => some ('\x08', 1)
  | 't' :: _ | '\t' :: _ => some ('\t', 1)
  | 'n' :: _ => some ('\n', 1)
  | 'v' :: _ => some ('\x0b', 1)
  | 'f' :: _ => some ('\x0c', 1)
  | 'r' :: _ => some ('\r', 1)
  | 'e' :: _ => some ('\x1b', 1)
  | ' ' :: _ => some (' ', 1)
  | '"' :: _ => some ('"', 1)
  | '/' :: _ => some ('/', 1)
  | '\\' :: _ => some ('\\', 1)
  | 'N' :: _ => some ('\u0085', 1)
  | '_' :: _ => some ('\u00a0', 1)
  | 'L' :: _ => some ('\u2028', 1)
  | 'P' :: _ => some ('\u2029', 1)
  | 'x' :: rest => (takeCode? 2 rest).map (·, 3)
  | 'u' :: rest => (takeCode? 4 rest).map (·, 5)
  | 'U' :: rest => (takeCode? 8 rest).map (·, 9)
  | _ => none

/-- The part of a quoted scalar up to a gap, the closing quote or an escaped line break, in front of
`text` latest first. -/
def readQuotedPart (single : Bool) :
    (fuel : Nat) → (text : List Char) → Cursor → Option (List Char × Bool × Cursor)
  | 0, _, _ => none
  | fuel + 1, text, c =>
    match c.rest with
    | [] => some (text, false, c)
    | x :: rest =>
      if isBlank x || isBreak x then some (text, false, c)
      else if single then
        if x = '\'' then
          if rest.head? == some '\'' then readQuotedPart single fuel ('\'' :: text) (c.skip 2)
          else some (text, false, c)
        else readQuotedPart single fuel (x :: text) (c.skip 1)
      else if x = '"' then some (text, false, c)
      else if x = '\\' then
        if rest.head?.any isBreak then some (text, true, ((c.skip 1).takeBreak).2)
        else
          match takeEscape? rest with
          | some (y, n) => readQuotedPart single fuel (y :: text) (c.skip (n + 1))
          | none => none
      else readQuotedPart single fuel (x :: text) (c.skip 1)

/-- A quoted scalar from behind its opening quote, latest character first. -/
def readQuoted (single : Bool) :
    (fuel : Nat) → (text : List Char) → Cursor → Option (List Char × Cursor)
  | 0, _, _ => none
  | fuel + 1, text, c =>
    if c.atMarker || c.rest.isEmpty then none
    else do
      let (text, joined, c) ← readQuotedPart single (fuel + 1) text c
      if c.rest.head? == some (if single then '\'' else '"') then some (text, c.skip 1)
      else
        -- an escaped break joins two lines: the gap after it has no break of its own to fold
        let gap := if joined then { Gap.empty with first := some [] } else Gap.empty
        let (gap, c) ← gap.read 0 (fuel + 1) c
        readQuoted single fuel (gap.folded.reverse ++ text) c

/-- What is done with the breaks at the end of a block scalar. -/
inductive Chomping where
  | strip
  | clip
  | keep
deriving DecidableEq

/-- The header of a block scalar: chomping and an explicit indentation, in either order. -/
def takeBlockHeader? (cs : List Char) : Option (Chomping × Nat × List Char) :=
  let chomp (cs : List Char) : Option (Chomping × List Char) :=
    match cs with
    | '+' :: rest => some (.keep, rest)
    | '-' :: rest => some (.strip, rest)
    | _ => none
  let digit (cs : List Char) : Option (Option (Nat × List Char)) :=
    match cs with
    | d :: rest =>
      if d = '0' then none
      else if d.isDigit then some (some (d.toNat - 48, rest))
      else some none
    | [] => some none
  match chomp cs with
  | some (chomping, rest) =>
    match digit rest with
    | none => none
    | some (some (n, rest)) => some (chomping, n, rest)
    | some none => some (chomping, 0, rest)
  | none =>
    match digit cs with
    | none => none
    | some none => some (.clip, 0, cs)
    | some (some (n, rest)) =>
      match chomp rest with
      | some (chomping, rest) => some (chomping, n, rest)
      | none => some (.clip, n, rest)

/-- The breaks of empty lines, and the widest indentation seen; `none` for a tab in the indentation.
-/
def readBlockBreaks (indent : Nat) :
    (fuel : Nat) → (breaks : List Char) → (widest : Nat) → Cursor →
      Option (List Char × Nat × Cursor)
  | 0, _, _, _ => none
  | fuel + 1, breaks, widest, c =>
    let spaces := c.rest.takeWhile (· = ' ')
    let n := if indent = 0 then spaces.length else min spaces.length (indent - c.column)
    let c := c.skip n
    let widest := max widest c.column
    if (indent = 0 || c.column < indent) && c.rest.head? == some '\t' then none
    else if c.rest.head?.any isBreak then
      let (text, c) := c.takeBreak
      readBlockBreaks indent fuel (breaks ++ text) widest c
    else some (breaks, widest, c)

/-- The lines of a block scalar at an indentation, joined, latest character first; `lead` is the
break after the last line. -/
def readBlockLines (folds : Bool) (indent : Nat) : (fuel : Nat) → (text lead breaks : List Char) →
    (afterBlank : Bool) → Cursor → Option (List Char × List Char × List Char × Cursor)
  | 0, _, _, _, _, _ => none
  | fuel + 1, text, lead, breaks, afterBlank, c =>
    if c.column = indent && !c.rest.isEmpty then
      let blank := c.rest.head?.any isBlank
      let text :=
        if folds && lead == ['\n'] && !afterBlank && !blank then
          if breaks.isEmpty then ' ' :: text else breaks.reverse ++ text
        else breaks.reverse ++ (lead.reverse ++ text)
      let (line, c) := c.takeRun fun _ => true
      let (lead, c) := c.takeBreak
      match readBlockBreaks indent (fuel + 1) [] 0 c with
      | some (breaks, _, c) =>
        readBlockLines folds indent fuel (line.reverse ++ text) lead breaks blank c
      | none => none
    else some (text, lead, breaks, c)

/-- A block scalar from behind its indicator, inside a block indented by `parent` (-1 for none). -/
def readBlock (folds : Bool) (parent : Int) (c : Cursor) : Option (List Char × Cursor) := do
  let (chomping, increment, rest) ← takeBlockHeader? c.rest
  let c := c.skip (c.rest.length - rest.length)
  let (_, c) := c.takeRun isBlank
  let c := if c.rest.head? == some '#' then (c.takeRun fun _ => true).2 else c
  if !atBreak c.rest then none
  let (_, c) := c.takeBreak
  let given :=
    if increment = 0 then 0 else if 0 ≤ parent then parent.toNat + increment else increment
  let (breaks, widest, c) ← readBlockBreaks given (c.rest.length + 1) [] 0 c
  let indent := if given ≠ 0 then given else max (max widest (parent + 1).toNat) 1
  let (text, lead, breaks, c) ← readBlockLines folds indent (c.rest.length + 1) [] [] breaks false c
  match chomping with
  | .strip => some (text.reverse, c)
  | .clip => some (text.reverse ++ lead, c)
  | .keep => some (text.reverse ++ lead ++ breaks, c)

end GatewayDirectory.Yaml
