/-!
# A place in YAML text

`Cursor` is what is left of a text together with the line and column it starts at. The reading steps
of this module take a run of characters off the front: blanks, a line break, or the gap of blanks
and breaks between two parts of a scalar, which `Gap.folded` joins as YAML folds lines.
-/

namespace GatewayDirectory.Yaml

/-- What is left of a text and where it starts. -/
structure Cursor where
  rest : List Char
  line : Nat
  column : Nat
  /-- Characters before it. -/
  index : Nat
deriving Inhabited

/-- A space or a tab. -/
def isBlank (c : Char) : Bool := c = ' ' || c = '\t'

/-- A character that ends a line. -/
def isBreak (c : Char) : Bool :=
  c = '\n' || c = '\r' || c = '\u0085' || c = '\u2028' || c = '\u2029'

/-- The characters that YAML text may hold. -/
def isAllowed (c : Char) : Bool :=
  let n := c.toNat
  n = 0x09 || n = 0x0A || n = 0x0D || (0x20 ≤ n && n ≤ 0x7E) || n = 0x85 ||
    (0xA0 ≤ n && n ≤ 0xD7FF) || (0xE000 ≤ n && n ≤ 0xFFFD) || 0x10000 ≤ n

/-- Letters, digits and `-_`, of which names of anchors, handles and directives are made. -/
def isWordChar (c : Char) : Bool := c.isAlphanum || c = '-' || c = '_'

/-- Whether a text starts with a blank or a break, or is at its end. -/
def atGap : List Char → Bool
  | [] => true
  | c :: _ => isBlank c || isBreak c

/-- Whether a text starts with a break or is at its end. -/
def atBreak : List Char → Bool
  | [] => true
  | c :: _ => isBreak c

namespace Cursor

/-- The start of a text. -/
def start (cs : List Char) : Cursor := ⟨cs, 0, 0, 0⟩

/-- The place `n` characters further on the same line. -/
def skip (c : Cursor) (n : Nat) : Cursor := ⟨c.rest.drop n, c.line, c.column + n, c.index + n⟩

/-- The characters of this line that satisfy `p`, and the place after them. -/
def takeRun (c : Cursor) (p : Char → Bool) : List Char × Cursor :=
  let run := c.rest.takeWhile fun x => p x && !isBreak x
  (run, c.skip run.length)

/-- The place after a line break, and the break as text: a line feed unless it is U+2028 or U+2029.
-/
def takeBreak (c : Cursor) : List Char × Cursor :=
  match c.rest with
  | '\r' :: '\n' :: rest => (['\n'], ⟨rest, c.line + 1, 0, c.index + 2⟩)
  | x :: rest =>
    if isBreak x then
      ([if x = '\u2028' ∨ x = '\u2029' then x else '\n'], ⟨rest, c.line + 1, 0, c.index + 1⟩)
    else ([], c)
  | [] => ([], c)

/-- Whether a document marker stands here: three dashes or dots at the start of a line, then a gap.
-/
def atMarker (c : Cursor) : Bool :=
  c.column = 0 &&
    match c.rest with
    | '-' :: '-' :: '-' :: rest => atGap rest
    | '.' :: '.' :: '.' :: rest => atGap rest
    | _ => false

end Cursor

/-- The blanks and breaks between two parts of a scalar. -/
structure Gap where
  /-- Blanks before any break. -/
  blanks : List Char
  /-- The first break; blanks count only if there is none. -/
  first : Option (List Char)
  /-- The breaks after the first. -/
  later : List Char

namespace Gap

/-- No gap. -/
def empty : Gap := ⟨[], none, []⟩

/-- The text that stands for the gap: a lone line feed is a space, more keep all but the first. -/
def folded (g : Gap) : List Char :=
  match g.first with
  | none => g.blanks
  | some ['\n'] => if g.later.isEmpty then [' '] else g.later
  | some lead => lead ++ g.later

/-- Reads a gap from a place, `none` if a tab stands before column `indent` of a later line. -/
def read (indent : Nat) : (fuel : Nat) → Gap → Cursor → Option (Gap × Cursor)
  | 0, g, c => some (g, c)
  | fuel + 1, g, c =>
    match c.rest with
    | [] => some (g, c)
    | x :: _ =>
      if isBlank x then
        if g.first.isSome then
          if x = '\t' ∧ c.column < indent then none else read indent fuel g (c.skip 1)
        else read indent fuel { g with blanks := g.blanks ++ [x] } (c.skip 1)
      else if isBreak x then
        let (text, c) := c.takeBreak
        if g.first.isSome then read indent fuel { g with later := g.later ++ text } c
        else read indent fuel { g with first := some text } c
      else some (g, c)

end Gap

end GatewayDirectory.Yaml
