import ToolPipeline.OrderedMap
import ToolPipeline.Yaml.Scanner

set_option autoImplicit false

/-!
From tokens to a document: a tree of nodes in which aliases stand for anchored nodes.

    document   = directive* start content? | node
    node       = alias | (anchor | tag)* content?
    content    = scalar | block sequence | block mapping | flow sequence | flow mapping

A stream holds one document.
-/

namespace ToolPipeline.Yaml

inductive Node where
  | scalar (text : String) (style : Style) (tag : Option Bytes)
  | sequence (items : List Node) (tag : Option Bytes)
  | mapping (entries : List (Node × Node)) (tag : Option Bytes)
  | alias (id : Nat)
  deriving Repr

namespace Node

def nothing : Node := .scalar "" .plain none

mutual

/-- How many parts a node is written with: each scalar and each alias is one, each collection two. -/
def size : Node → Nat
  | .scalar .. => 1
  | .sequence items _ => 2 + itemsSize items
  | .mapping entries _ => 2 + entriesSize entries
  | .alias _ => 1

def itemsSize : List Node → Nat
  | [] => 0
  | n :: l => n.size + itemsSize l

def entriesSize : List (Node × Node) → Nat
  | [] => 0
  | (k, v) :: l => k.size + v.size + entriesSize l

end

end Node

/-- Anchored nodes are numbered in the order in which they start. Names refer to numbers of their own,
which a repeated name takes from the count of different names so far. -/
structure Anchors where
  ids : OrderedMap String Nat
  places : OrderedMap Nat Nat
  started : Nat
  nodes : OrderedMap Nat Node

namespace Anchors

def empty : Anchors := ⟨∅, ∅, 0, ∅⟩

def name (a : Anchors) (n : String) : Anchors :=
  let id := a.ids.size
  { a with ids := a.ids.insert n id, places := a.places.insert id a.started, started := a.started + 1 }

def node? (a : Anchors) (id : Nat) : Option Node := (a.places.get? id).bind a.nodes.get?

end Anchors

structure Document where
  root : Node
  anchors : Anchors

structure ParseState where
  tokens : List Token
  handles : OrderedMap String Bytes
  anchors : Anchors

abbrev Parser := StateT ParseState (Except Problem)

namespace Parser

def peek : Parser (Option Token) := return (← get).tokens.head?

def advance : Parser Unit := modify fun s => { s with tokens := s.tokens.drop 1 }

def accept (t : Token) : Parser Bool := do
  if (← peek) == some t then
    advance
    pure true
  else pure false

def expect (t : Token) : Parser Unit := do
  if !(← accept t) then throw "another token was expected"

def anchor? : Parser (Option String) := do
  match ← peek with
  | some (.anchor n) =>
    advance
    pure (some n)
  | _ => pure none

def tag? : Parser (Option (String × Bytes)) := do
  match ← peek with
  | some (.tag handle suffix) =>
    advance
    pure (some (handle, suffix))
  | _ => pure none

def resolveTag : Option (String × Bytes) → Parser (Option Bytes)
  | none => pure none
  | some ("", suffix) => pure (some suffix)
  | some (handle, suffix) => do
    match (← get).handles.get? handle with
    | some expansion => pure (some (expansion ++ suffix))
    | none => throw "unknown tag handle"

def properties : Parser (Option String × Option Bytes) := do
  match ← anchor? with
  | some n => pure (some n, ← resolveTag (← tag?))
  | none =>
    let t ← tag?
    let n ← if t.isSome then anchor? else pure none
    pure (n, ← resolveTag t)

def anchored (name : Option String) (p : Parser Node) : Parser Node :=
  match name with
  | none => p
  | some n => do
    let place := (← get).anchors.started
    modify fun s => { s with anchors := s.anchors.name n }
    let node ← p
    modify fun s => { s with anchors := { s.anchors with nodes := s.anchors.nodes.insert place node } }
    pure node

/-- Whether the next token leaves an entry without a node. -/
def atOneOf (ts : List Token) : Parser Bool := do
  match ← peek with
  | some t => pure (ts.contains t)
  | none => pure false

mutual

/-- Reads a node. Block collections are allowed with `block`, and a sequence without indentation with
`bare`. -/
def node : Nat → (block bare : Bool) → Parser Node
  | 0, _, _ => throw "too deep"
  | fuel + 1, block, bare => do
    match ← peek with
    | some (.alias n) =>
      match (← get).anchors.ids.get? n with
      | some id =>
        advance
        pure (.alias id)
      | none => throw "unknown anchor"
    | _ =>
      let (name, tag) ← properties
      match ← peek with
      | some (.scalar text style) =>
        advance
        anchored name (pure (.scalar text style tag))
      | some .flowSequenceStart =>
        advance
        anchored name (return .sequence (← flowItems fuel true) tag)
      | some .flowMappingStart =>
        advance
        anchored name (return .mapping (← flowEntries fuel true) tag)
      | t =>
        if bare && t == some .blockEntry then anchored name (return .sequence (← bareItems fuel) tag)
        else if block && t == some .blockSequenceStart then
          advance
          anchored name (return .sequence (← blockItems fuel) tag)
        else if block && t == some .blockMappingStart then
          advance
          anchored name (return .mapping (← blockEntries fuel) tag)
        else if name.isSome || tag.isSome then anchored name (pure (.scalar "" .plain tag))
        else throw "a node was expected"

def nodeUnless : Nat → (ends : List Token) → (block bare : Bool) → Parser Node
  | 0, _, _, _ => throw "too deep"
  | fuel + 1, ends, block, bare => do
    if ← atOneOf ends then pure .nothing else node fuel block bare

def blockItems : Nat → Parser (List Node)
  | 0 => throw "too deep"
  | fuel + 1 => do
    if ← accept .blockEnd then pure []
    else
      expect .blockEntry
      let item ← nodeUnless fuel [.blockEntry, .blockEnd] true false
      return item :: (← blockItems fuel)

def bareItems : Nat → Parser (List Node)
  | 0 => throw "too deep"
  | fuel + 1 => do
    if ← accept .blockEntry then
      let item ← nodeUnless fuel [.blockEntry, .key, .value, .blockEnd] true false
      return item :: (← bareItems fuel)
    else pure []

def blockEntries : Nat → Parser (List (Node × Node))
  | 0 => throw "too deep"
  | fuel + 1 => do
    if ← accept .blockEnd then pure []
    else
      expect .key
      let ends := [Token.key, .value, .blockEnd]
      let k ← nodeUnless fuel ends true true
      let v ← if ← accept .value then nodeUnless fuel ends true true else pure .nothing
      return (k, v) :: (← blockEntries fuel)

/-- The items of a flow sequence and its end. A single pair may stand for a mapping. -/
def flowItems : Nat → (first : Bool) → Parser (List Node)
  | 0, _ => throw "too deep"
  | fuel + 1, first => do
    if ← accept .flowSequenceEnd then pure []
    else
      if !first then expect .flowEntry
      if ← accept .key then
        let pair ← flowPair fuel
        return .mapping [pair] none :: (← flowItems fuel false)
      else if ← accept .flowSequenceEnd then pure []
      else
        let item ← node fuel false false
        return item :: (← flowItems fuel false)

/-- A pair in a flow sequence behind its key token. A key without text takes the next token with it. -/
def flowPair : Nat → Parser (Node × Node)
  | 0 => throw "too deep"
  | fuel + 1 => do
    let k ←
      if ← atOneOf [.value, .flowEntry, .flowSequenceEnd] then
        advance
        pure Node.nothing
      else node fuel false false
    let v ←
      if ← accept .value then nodeUnless fuel [.flowEntry, .flowSequenceEnd] false false
      else pure .nothing
    pure (k, v)

/-- The entries of a flow mapping and its end. A node without a key token is a key without a value. -/
def flowEntries : Nat → (first : Bool) → Parser (List (Node × Node))
  | 0, _ => throw "too deep"
  | fuel + 1, first => do
    if ← accept .flowMappingEnd then pure []
    else
      if !first then expect .flowEntry
      if ← accept .key then
        let k ← nodeUnless fuel [.value, .flowEntry, .flowMappingEnd] false false
        let v ←
          if ← accept .value then nodeUnless fuel [.flowEntry, .flowMappingEnd] false false
          else pure .nothing
        return (k, v) :: (← flowEntries fuel false)
      else if ← accept .flowMappingEnd then pure []
      else
        let k ← node fuel false false
        return (k, .nothing) :: (← flowEntries fuel false)

end

/-- Reads the directives before a document; a version or a handle is given once. -/
def directives : Nat → (versioned : Bool) → Parser Unit
  | 0, _ => throw "too deep"
  | fuel + 1, versioned => do
    match ← peek with
    | some (.versionDirective major minor) =>
      if versioned || major != 1 || (minor != 1 && minor != 2) then throw "unknown version"
      advance
      directives fuel true
    | some (.tagDirective handle expansion) =>
      if (← get).handles.contains handle then throw "repeated tag handle"
      advance
      modify fun s => { s with handles := s.handles.insert handle expansion }
      directives fuel versioned
    | _ => pure ()

def addStandardHandles : Parser Unit :=
  modify fun s =>
    let add (m : OrderedMap String Bytes) (h e : String) :=
      if m.contains h then m else m.insert h (Text.encode e)
    { s with handles := add (add s.handles "!" "!") "!!" "tag:yaml.org,2002:" }

def atMarker : Parser Bool := do
  match ← peek with
  | none | some (.versionDirective ..) | some (.tagDirective ..) | some .documentStart
  | some .documentEnd => pure true
  | _ => pure false

def atExplicitStart : Parser Bool := do pure ((← atMarker) && (← peek) != some .documentEnd)

def dropEnds : Parser Unit :=
  modify fun s => { s with tokens := s.tokens.dropWhile (· == .documentEnd) }

/-- Reads the one document of a stream; an empty stream counts as a document that holds nothing. -/
def document (fuel : Nat) : Parser Node := do
  if (← peek).isNone then pure .nothing
  else
    let explicit ← atExplicitStart
    if explicit then directives fuel false
    addStandardHandles
    if explicit then expect .documentStart
    let root ← if explicit && (← atMarker) then pure Node.nothing else node fuel true false
    dropEnds
    if (← peek).isSome then throw "more than one document"
    pure root

end Parser

def Document.ofText (text : String) : Except Problem Document := do
  let tokens ← tokenize text
  let (root, s) ← (Parser.document (4 * tokens.length + 4)).run ⟨tokens, ∅, .empty⟩
  pure ⟨root, s.anchors⟩

end ToolPipeline.Yaml
