import GatewayDirectory.Yaml.Token

/-!
# YAML documents

A document is a tree of nodes. An alias is a leaf that names an anchored node by number, so that a
node may refer to one that is still open around it. `Stream.read` reads the first document of a text
and tells whether it is the only one; a text without any denotes `Stream.empty`.
-/

namespace GatewayDirectory.Yaml

/-- A node of a document. Tags are spelled out in full. -/
inductive Node where
  | scalar (text : String) (style : Style) (tag : Option String)
  | sequence (items : List Node)
  | mapping (pairs : List (Node × Node))
  /-- The node with that number among the anchored ones. -/
  | alias (anchor : Nat)
deriving Inhabited

/-- A document: its root, and the nodes that aliases refer to. -/
structure Document where
  root : Node
  anchored : Array Node

/-- What is known while nodes are built. -/
structure Builder where
  tokens : List Token
  /-- Names of anchors with the numbers they stand for, latest first. -/
  names : List (List Char × Nat)
  anchored : Array Node
  /-- Handles of the document's tags. -/
  handles : List (List Char × List Char)

/-- A step of building. -/
abbrev Build (α : Type) := Builder → Option (α × Builder)

namespace Builder

/-- The next token. -/
def peek (b : Builder) : Token := b.tokens.headD .streamEnd

/-- The builder after the next token. -/
def drop (b : Builder) : Builder := { b with tokens := b.tokens.drop 1 }

/-- The scalar that stands for a node left out. -/
def missing : Node := .scalar "" .plain none

/-- A tag spelled out in full; `none` for a handle that is not declared. -/
def expandTag (b : Builder) (handle suffix : List Char) : Option String :=
  if handle.isEmpty then some (String.ofList suffix)
  else
    match b.handles.find? fun x => x.1 == handle with
    | some (_, expansion) => some (String.ofList (expansion ++ suffix))
    | none => none

/-- The anchor and the tag in front of a node, in either order. -/
def takeProperties (b : Builder) : Option (Option (List Char) × Option String × Builder) :=
  match b.peek with
  | .anchor name =>
    let b := b.drop
    match b.peek with
    | .tag handle suffix => (b.expandTag handle suffix).map fun t => (some name, some t, b.drop)
    | _ => some (some name, none, b)
  | .tag handle suffix =>
    (b.expandTag handle suffix).map fun t =>
      let b := b.drop
      match b.peek with
      | .anchor name => (some name, some t, b.drop)
      | _ => (none, some t, b)
  | _ => some (none, none, b)

/-- Gives the next number to an anchor. -/
def register (b : Builder) (name : List Char) : Nat × Builder :=
  (b.anchored.size, { b with
    names := (name, b.anchored.size) :: b.names, anchored := b.anchored.push missing })

/-- Whether a node is left out before this token. -/
def endsEntry : Token → Bool
  | .blockEntry | .key | .value | .blockEnd => true
  | _ => false

/-- Whether the key or value of a block mapping is left out before this token. -/
def endsPair : Token → Bool
  | .key | .value | .blockEnd => true
  | _ => false

mutual

/-- A node; `block` admits blocks, `bare` a sequence that shares its mapping's indentation. -/
def node : (fuel : Nat) → (block bare : Bool) → Build Node
  | 0, _, _, _ => none
  | fuel + 1, block, bare, b =>
    match b.peek with
    | .alias name =>
      match b.names.find? fun x => x.1 == name with
      | some (_, number) => some (.alias number, b.drop)
      | none => none
    | _ =>
      match b.takeProperties with
      | none => none
      | some (anchor, tag, b) =>
        match anchor with
        | none => content fuel block bare tag false b
        | some name =>
          -- the number is given first, so that an alias inside can name the node around it
          let (number, b) := b.register name
          match content fuel block bare tag true b with
          | none => none
          | some (n, b) => some (n, { b with anchored := b.anchored.setIfInBounds number n })

/-- A node behind its anchor and tag. -/
def content :
    (fuel : Nat) → (block bare : Bool) → (tag : Option String) → (anchored : Bool) → Build Node
  | 0, _, _, _, _, _ => none
  | fuel + 1, block, bare, tag, anchored, b =>
    match b.peek with
    | .scalar text style => some (.scalar (String.ofList text) style tag, b.drop)
    | .flowSequenceStart => (flowItems fuel true b.drop).map fun (xs, b) => (.sequence xs, b)
    | .flowMappingStart => (flowPairs fuel true b.drop).map fun (xs, b) => (.mapping xs, b)
    | t =>
      if bare && t == .blockEntry then (bareItems fuel b).map fun (xs, b) => (.sequence xs, b)
      else if block && t == .blockSequenceStart then
        (blockItems fuel b.drop).map fun (xs, b) => (.sequence xs, b)
      else if block && t == .blockMappingStart then
        (blockPairs fuel b.drop).map fun (xs, b) => (.mapping xs, b)
      -- an anchor or a tag with nothing behind it is a scalar left out
      else if anchored || tag.isSome then some (.scalar "" .plain tag, b)
      else none

/-- The items of a block sequence and its end. -/
def blockItems : (fuel : Nat) → Build (List Node)
  | 0, _ => none
  | fuel + 1, b =>
    match b.peek with
    | .blockEnd => some ([], b.drop)
    | .blockEntry =>
      let b := b.drop
      let item :=
        match b.peek with
        | .blockEntry | .blockEnd => some (missing, b)
        | _ => node fuel true false b
      match item with
      | none => none
      | some (x, b) => (blockItems fuel b).map fun (xs, b) => (x :: xs, b)
    | _ => none

/-- The items of a sequence at the indentation of its mapping. -/
def bareItems : (fuel : Nat) → Build (List Node)
  | 0, _ => none
  | fuel + 1, b =>
    match b.peek with
    | .blockEntry =>
      let b := b.drop
      let item := if endsEntry b.peek then some (missing, b) else node fuel true false b
      match item with
      | none => none
      | some (x, b) => (bareItems fuel b).map fun (xs, b) => (x :: xs, b)
    | _ => some ([], b)

/-- The pairs of a block mapping and its end. -/
def blockPairs : (fuel : Nat) → Build (List (Node × Node))
  | 0, _ => none
  | fuel + 1, b =>
    match b.peek with
    | .blockEnd => some ([], b.drop)
    | .key =>
      let b := b.drop
      let key := if endsPair b.peek then some (missing, b) else node fuel true true b
      match key with
      | none => none
      | some (k, b) =>
        let value :=
          match b.peek with
          | .value =>
            let b := b.drop
            if endsPair b.peek then some (missing, b) else node fuel true true b
          | _ => some (missing, b)
        match value with
        | none => none
        | some (v, b) => (blockPairs fuel b).map fun (xs, b) => ((k, v) :: xs, b)
    | _ => none

/-- The value of a pair between brackets, left out before a comma or `close`. -/
def flowValue : (fuel : Nat) → (close : Token) → Build Node
  | 0, _, _ => none
  | fuel + 1, close, b =>
    match b.peek with
    | .value =>
      let b := b.drop
      if b.peek == .flowEntry || b.peek == close then some (missing, b) else node fuel false false b
    | _ => some (missing, b)

/-- The items of a bracketed sequence and its end. -/
def flowItems : (fuel : Nat) → (first : Bool) → Build (List Node)
  | 0, _, _ => none
  | fuel + 1, first, b =>
    if b.peek == .flowSequenceEnd then some ([], b.drop)
    else if !first && b.peek != .flowEntry then none
    else
      let b := if first then b else b.drop
      match b.peek with
      | .flowSequenceEnd => some ([], b.drop)
      | .key =>
        let b := b.drop
        -- a key left out takes the comma or bracket behind it along
        let key :=
          match b.peek with
          | .value | .flowEntry | .flowSequenceEnd => some (missing, b.drop)
          | _ => node fuel false false b
        match key with
        | none => none
        | some (k, b) =>
          match flowValue fuel .flowSequenceEnd b with
          | none => none
          | some (v, b) => (flowItems fuel false b).map fun (xs, b) => (.mapping [(k, v)] :: xs, b)
      | _ =>
        match node fuel false false b with
        | none => none
        | some (x, b) => (flowItems fuel false b).map fun (xs, b) => (x :: xs, b)

/-- The pairs of a bracketed mapping and its end. -/
def flowPairs : (fuel : Nat) → (first : Bool) → Build (List (Node × Node))
  | 0, _, _ => none
  | fuel + 1, first, b =>
    if b.peek == .flowMappingEnd then some ([], b.drop)
    else if !first && b.peek != .flowEntry then none
    else
      let b := if first then b else b.drop
      match b.peek with
      | .flowMappingEnd => some ([], b.drop)
      | .key =>
        let b := b.drop
        let key :=
          match b.peek with
          | .value | .flowEntry | .flowMappingEnd => some (missing, b)
          | _ => node fuel false false b
        match key with
        | none => none
        | some (k, b) =>
          match flowValue fuel .flowMappingEnd b with
          | none => none
          | some (v, b) => (flowPairs fuel false b).map fun (xs, b) => ((k, v) :: xs, b)
      | _ =>
        match node fuel false false b with
        | none => none
        | some (k, b) => (flowPairs fuel false b).map fun (xs, b) => ((k, missing) :: xs, b)

end

/-- The directives in front of a document. -/
def directives : List Token → (version : Bool) → (handles : List (List Char × List Char)) →
    Option (List (List Char × List Char) × List Token)
  | .versionDirective :: rest, version, handles =>
    if version then none else directives rest true handles
  | .tagDirective handle expansion :: rest, version, handles =>
    if handles.any fun x => x.1 == handle then none
    else directives rest version ((handle, expansion) :: handles)
  | tokens, _, handles => some (handles, tokens)

/-- The handles that need no declaration. -/
def defaultHandles : List (List Char × List Char) :=
  [(['!'], ['!']), (['!', '!'], "tag:yaml.org,2002:".toList)]

/-- The document that starts here and the tokens behind it. -/
def document (handles : List (List Char × List Char)) (tokens : List Token) :
    Option (Document × List Token) :=
  let b : Builder := ⟨tokens, [], #[], handles ++ defaultHandles⟩
  match b.peek with
  | .versionDirective | .tagDirective .. | .documentStart | .documentEnd | .streamEnd =>
    some (⟨missing, #[]⟩, tokens)
  | _ =>
    match node (2 * tokens.length + 8) true false b with
    | some (root, b) => some (⟨root, b.anchored⟩, b.tokens)
    | none => none

end Builder

/-- What a text denotes: nothing, or a document with nothing or something behind it. -/
inductive Stream where
  | empty
  | document (d : Document) (isOnly : Bool)

/-- The first document among tokens. -/
def Stream.ofTokens (tokens : List Token) : Option Stream :=
  let explicit := match tokens with
    | .versionDirective :: _ | .tagDirective .. :: _ | .documentStart :: _ => true
    | _ => false
  if tokens == [.streamEnd] then some .empty
  else do
    let (handles, tokens) ←
      if explicit then Builder.directives tokens false [] else some ([], tokens)
    let tokens ←
      if explicit then
        match tokens with
        | .documentStart :: rest => some rest
        | _ => none
      else if tokens.head? == some .documentEnd then none
      else some tokens
    let (d, tokens) ← Builder.document handles tokens
    some (.document d (tokens.dropWhile (· == .documentEnd) == [.streamEnd]))

/-- The first document of a text. -/
def Stream.read (text : String) : Option Stream := (Token.scan text.toList).bind Stream.ofTokens

end GatewayDirectory.Yaml
