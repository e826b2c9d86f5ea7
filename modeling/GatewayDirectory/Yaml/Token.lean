import GatewayDirectory.Yaml.Scalar

/-!
# YAML tokens

The words of YAML text: scalars and marks, the starts and ends of blocks that indentation implies,
and the key marks that only a later colon reveals. A place where a key may have started is
remembered as `KeySpot`; when its colon comes, the key mark is put back at that place. `Token.scan`
reads a whole text and answers `none` where it breaks a rule.
-/

namespace GatewayDirectory.Yaml

/-- A word of YAML text. -/
inductive Token where
  | versionDirective
  | tagDirective (handle expansion : List Char)
  | documentStart
  | documentEnd
  | blockSequenceStart
  | blockMappingStart
  | blockEnd
  | flowSequenceStart
  | flowSequenceEnd
  | flowMappingStart
  | flowMappingEnd
  | blockEntry
  | flowEntry
  | key
  | value
  | alias (name : List Char)
  | anchor (name : List Char)
  | tag (handle suffix : List Char)
  | scalar (text : List Char) (style : Style)
  | streamEnd
deriving DecidableEq, Inhabited

/-- A place where a key without a mark of its own may have started. -/
structure KeySpot where
  /-- Whether it can still become a key. -/
  possible : Bool
  /-- Whether it must become one, for it starts a line of an open mapping. -/
  required : Bool
  /-- How many tokens come before it. -/
  position : Nat
  line : Nat
  column : Nat
  index : Nat
deriving Inhabited

/-- No key. -/
def KeySpot.none : KeySpot := ⟨false, false, 0, 0, 0, 0⟩

/-- What is known while a text is scanned. -/
structure Scanner where
  cursor : Cursor
  /-- Tokens found, in order. -/
  tokens : Array Token
  /-- Column of the innermost open block, -1 outside. -/
  indent : Int
  /-- Columns of the blocks around it. -/
  indents : List Int
  /-- Whether a key may start here without a mark. -/
  keyAllowed : Bool
  /-- Where a key may have started, innermost bracket first; one more than there are open brackets. -/
  spots : List KeySpot
  /-- More than the characters of the text, so a bound on the steps of each reading. -/
  bound : Nat

namespace Scanner

/-- The scanner at the start of a text. -/
def start (cs : List Char) : Scanner :=
  ⟨.start cs, #[], -1, [], true, [.none], cs.length + 1⟩

/-- Whether a bracket is open. -/
def inFlow (s : Scanner) : Bool := !(s.spots.drop 1).isEmpty

/-- The scanner with one more token at the end. -/
def push (s : Scanner) (t : Token) : Scanner := { s with tokens := s.tokens.push t }

/-- The scanner `n` characters further on the line. -/
def skip (s : Scanner) (n : Nat) : Scanner := { s with cursor := s.cursor.skip n }

/-- The innermost key spot. -/
def spot (s : Scanner) : KeySpot := s.spots.headD .none

/-- Replaces the innermost key spot. -/
def setSpot (s : Scanner) (k : KeySpot) : Scanner := { s with spots := k :: s.spots.drop 1 }

/-- A spot on an earlier line or too far back is given up; `none` if it had to be a key. -/
def dropStale (s : Scanner) : Option Scanner :=
  let k := s.spot
  if k.possible && (k.line < s.cursor.line || k.index + 1024 < s.cursor.index) then
    if k.required then none else some (s.setSpot { k with possible := false })
  else some s

/-- Gives up the innermost spot; `none` if it had to be a key. -/
def dropSpot (s : Scanner) : Option Scanner :=
  let k := s.spot
  if k.possible && k.required then none else some (s.setSpot { k with possible := false })

/-- Remembers this place as one where a key may start. -/
def saveSpot (s : Scanner) : Option Scanner :=
  if s.keyAllowed then do
    let required := !s.inFlow && s.indent == s.cursor.column
    let s ← s.dropSpot
    some (s.setSpot ⟨true, required, s.tokens.size, s.cursor.line, s.cursor.column, s.cursor.index⟩)
  else some s

/-- Opens a block at a column deeper than the innermost, its start put at `position`. -/
def openBlock (s : Scanner) (column : Nat) (position : Nat) (t : Token) : Scanner :=
  if s.inFlow || (column : Int) ≤ s.indent then s
  else { s with
    indents := s.indent :: s.indents, indent := column,
    tokens := s.tokens.insertIdxIfInBounds position t }

/-- Ends the blocks deeper than a column. -/
def closeBlocks (column : Int) : List Int → Scanner → Scanner
  | [], s => s
  | outer :: rest, s =>
    if column < s.indent then
      closeBlocks column rest { s.push .blockEnd with indent := outer, indents := rest }
    else s

/-- Ends the blocks deeper than a column, unless a bracket is open. -/
def unroll (s : Scanner) (column : Int) : Scanner :=
  if s.inFlow then s else closeBlocks column s.indents s

/-- Skips a byte order mark at the start of the text. It takes a column, as any character does. -/
def skipMark (s : Scanner) : Scanner :=
  if s.cursor.index = 0 && s.cursor.rest.head? == some '\uFEFF' then s.skip 1 else s

/-- Skips blanks, comments and empty lines. -/
def skipToToken : (fuel : Nat) → Scanner → Scanner
  | 0, s => s
  | fuel + 1, s =>
    let (_, c) := s.cursor.takeRun fun x => x = ' ' || ((s.inFlow || !s.keyAllowed) && x = '\t')
    let c := if c.rest.head? == some '#' then (c.takeRun fun _ => true).2 else c
    if c.rest.head?.any isBreak then
      let (_, c) := c.takeBreak
      skipToToken fuel { s with cursor := c, keyAllowed := s.keyAllowed || !s.inFlow }
    else { s with cursor := c }

/-- The characters of tags; `wide` adds those that brackets use. -/
def isTagChar (wide : Bool) (c : Char) : Bool :=
  let marks := [';', '/', '?', ':', '@', '&', '=', '+', '$', '.', '!', '~', '*', '\'', '(', ')', '%']
  isWordChar c || marks.contains c || (wide && [',', '[', ']'].contains c)

/-- A tag's text with its escapes read; `none` for a broken escape. -/
def unescapeTag (cs : List Char) : Option (List Char) :=
  let rec go : List Char → Option (List UInt8)
    | [] => some []
    | '%' :: a :: b :: rest =>
      match hexDigitValue? a, hexDigitValue? b with
      | some x, some y => (go rest).map (UInt8.ofNat (x * 16 + y) :: ·)
      | _, _ => none
    | '%' :: _ => none
    | c :: rest => (go rest).map ((String.singleton c).toUTF8.toList ++ ·)
  (go cs).bind fun bytes => (String.fromUTF8? ⟨bytes.toArray⟩).map (·.toList)

/-- A tag's text after what is already known of it; it must not be empty. -/
def takeTagText (wide : Bool) (known : List Char) (c : Cursor) : Option (List Char × Cursor) := do
  let (run, c) := c.takeRun (isTagChar wide)
  let text ← unescapeTag (known ++ run)
  if text.isEmpty then none else some (text, c)

/-- A tag handle: an exclamation mark, a word, and in a directive the closing mark. -/
def takeHandle (directive : Bool) (c : Cursor) : Option (List Char × Cursor) :=
  if c.rest.head? == some '!' then
    let (word, c) := (c.skip 1).takeRun isWordChar
    if c.rest.head? == some '!' then some ('!' :: word ++ ['!'], c.skip 1)
    else if directive && !word.isEmpty then none
    else some ('!' :: word, c)
  else none

/-- A tag in front of a node. -/
def takeTag (inFlow : Bool) (c : Cursor) : Option (Token × Cursor) := do
  let (t, c) ←
    match c.rest with
    | '!' :: '<' :: _ => do
      let (text, c) ← takeTagText true [] (c.skip 2)
      if c.rest.head? == some '>' then some (Token.tag [] text, c.skip 1) else none
    | _ => do
      let (handle, after) ← takeHandle false c
      if 2 ≤ handle.length && handle.getLast? == some '!' then
        let (text, c) ← takeTagText false [] after
        some (Token.tag handle text, c)
      else
        let (text, c) := after.takeRun (isTagChar false)
        let text ← unescapeTag (handle.drop 1 ++ text)
        if text.isEmpty then some (Token.tag [] ['!'], c) else some (Token.tag ['!'] text, c)
  if atGap c.rest || (inFlow && c.rest.head? == some ',') then some (t, c) else none

/-- A directive line. -/
def takeDirective (c : Cursor) : Option (Token × Cursor) := do
  let (name, c) := (c.skip 1).takeRun isWordChar
  if name.isEmpty || !atGap c.rest then none
  let (t, c) ←
    if name = "YAML".toList then do
      let (_, c) := c.takeRun isBlank
      let (major, c) := c.takeRun Char.isDigit
      if major.isEmpty || 9 < major.length || c.rest.head? != some '.' then none
      let (minor, c) := (c.skip 1).takeRun Char.isDigit
      if minor.isEmpty || 9 < minor.length then none
      let number (cs : List Char) := cs.dropWhile (· = '0')
      if number major = ['1'] && (number minor = ['1'] || number minor = ['2']) then
        some (Token.versionDirective, c)
      else none
    else if name = "TAG".toList then do
      let (_, c) := c.takeRun isBlank
      let (handle, c) ← takeHandle true c
      if !c.rest.head?.any isBlank then none
      let (_, c) := c.takeRun isBlank
      let (expansion, c) ← takeTagText true [] c
      if !atGap c.rest then none
      some (Token.tagDirective handle expansion, c)
    else none
  let (_, c) := c.takeRun isBlank
  let c := if c.rest.head? == some '#' then (c.takeRun fun _ => true).2 else c
  if !atBreak c.rest then none
  some (t, c.takeBreak.2)

/-- The name of an anchor or alias from behind its mark. -/
def takeAnchor (c : Cursor) : Option (List Char × Cursor) :=
  let (name, c) := c.takeRun isWordChar
  let ended :=
    atGap c.rest || c.rest.head?.any ['?', ':', ',', ']', '\x7d', '%', '@', '\u0060'].contains
  if name.isEmpty || !ended then none else some (name, c)

/-- Characters with a meaning of their own, which no plain scalar starts with. -/
def isIndicator (c : Char) : Bool :=
  ['-', '?', ':', ',', '[', ']', '\x7b', '\x7d', '#', '&', '*', '!', '|', '>', '\'', '"', '%', '@',
    '\u0060'].contains c

/-- Whether a plain scalar starts here. -/
def startsPlain (inFlow : Bool) : List Char → Bool
  | [] => false
  | x :: rest =>
    !(isBlank x || isBreak x || isIndicator x) ||
      (x = '-' && !(rest.head?.any isBlank)) ||
      (!inFlow && (x = '?' || x = ':') && !atGap rest)

/-- A colon after a key: the key mark goes back to where the key started. -/
def takeValue (s : Scanner) : Option Scanner := do
  let s ← s.dropStale
  let k := s.spot
  if k.possible then
    let s := { s with tokens := s.tokens.insertIdxIfInBounds k.position .key }
    let s := s.openBlock k.column k.position .blockMappingStart
    some (({ s.setSpot { k with possible := false } with keyAllowed := false }.skip 1).push .value)
  else if s.inFlow then some (({ s with keyAllowed := false }.skip 1).push .value)
  else if s.keyAllowed then
    let s := s.openBlock s.cursor.column s.tokens.size .blockMappingStart
    some (({ s with keyAllowed := true }.skip 1).push .value)
  else none

/-- Takes the token that starts at the cursor. The flag tells that the text is at its end. -/
def takeToken (s : Scanner) : Option (Scanner × Bool) := do
  let s ← s.dropStale
  let s := s.unroll s.cursor.column
  let c := s.cursor
  match c.rest with
  | [] =>
    let s ← (s.unroll (-1)).dropSpot
    some (s.push .streamEnd, true)
  | x :: rest =>
    let go (s : Scanner) : Option (Scanner × Bool) := some (s, false)
    if c.column = 0 && x = '%' then
      let s ← (s.unroll (-1)).dropSpot
      let (t, c) ← takeDirective c
      go ({ s with cursor := c, keyAllowed := false }.push t)
    else if c.atMarker then
      let s ← (s.unroll (-1)).dropSpot
      let marker : Token := if x = '-' then .documentStart else .documentEnd
      go (({ s with keyAllowed := false }.skip 3).push marker)
    else if x = '[' || x = '\x7b' then
      let s ← s.saveSpot
      go (({ s with spots := .none :: s.spots, keyAllowed := true }.skip 1).push
        (if x = '[' then .flowSequenceStart else .flowMappingStart))
    else if x = ']' || x = '\x7d' then
      let s ← s.dropSpot
      let spots := if s.inFlow then s.spots.drop 1 else s.spots
      go (({ s with spots := spots, keyAllowed := false }.skip 1).push
        (if x = ']' then .flowSequenceEnd else .flowMappingEnd))
    else if x = ',' then
      let s ← s.dropSpot
      go (({ s with keyAllowed := true }.skip 1).push .flowEntry)
    else if x = '-' && atGap rest then
      if !s.inFlow && !s.keyAllowed then none
      let s ← (s.openBlock c.column s.tokens.size .blockSequenceStart).dropSpot
      go (({ s with keyAllowed := true }.skip 1).push .blockEntry)
    else if x = '?' && (s.inFlow || atGap rest) then
      if !s.inFlow && !s.keyAllowed then none
      let s ← (s.openBlock c.column s.tokens.size .blockMappingStart).dropSpot
      go (({ s with keyAllowed := !s.inFlow }.skip 1).push .key)
    else if x = ':' && (s.inFlow || atGap rest) then (s.takeValue).bind go
    else if x = '*' || x = '&' then
      let s ← s.saveSpot
      let (name, c) ← takeAnchor (c.skip 1)
      let token : Token := if x = '*' then .alias name else .anchor name
      go ({ s with cursor := c, keyAllowed := false }.push token)
    else if x = '!' then
      let s ← s.saveSpot
      let (t, c) ← takeTag s.inFlow c
      go ({ s with cursor := c, keyAllowed := false }.push t)
    else if (x = '|' || x = '>') && !s.inFlow then
      let s ← s.dropSpot
      let (text, c) ← readBlock (x = '>') s.indent (c.skip 1)
      go ({ s with cursor := c, keyAllowed := true }.push
        (.scalar text (if x = '>' then .folded else .literal)))
    else if x = '\'' || x = '"' then
      let s ← s.saveSpot
      let (text, c) ← readQuoted (x = '\'') s.bound [] (c.skip 1)
      go ({ s with cursor := c, keyAllowed := false }.push (.scalar text.reverse .quoted))
    else if startsPlain s.inFlow c.rest then
      let s ← s.saveSpot
      let (text, broken, c) ← readPlain s.inFlow (s.indent + 1).toNat s.bound [] .empty c
      go ({ s with cursor := c, keyAllowed := broken }.push (.scalar text.reverse .plain))
    else none

/-- Takes tokens up to the end of the text. -/
def run : (fuel : Nat) → Scanner → Option (List Token)
  | 0, _ => none
  | fuel + 1, s =>
    match (s.skipMark.skipToToken s.bound).takeToken with
    | none => none
    | some (s, true) => some s.tokens.toList
    | some (s, false) => run fuel s

end Scanner

/-- The tokens of a text. -/
def Token.scan (cs : List Char) : Option (List Token) :=
  if cs.all isAllowed then Scanner.run (cs.length + 1) (.start cs) else none

end GatewayDirectory.Yaml
