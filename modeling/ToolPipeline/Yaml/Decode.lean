import ToolPipeline.Yaml.Document

set_option autoImplicit false

/-!
Reading values of known types out of a document. Texts are taken as they are written, whatever they look
like, and a place where nothing is written counts as an empty list or record.

Aliases are followed as often as values need them, but only so many times for the size of the document.
-/

namespace ToolPipeline.Yaml

/-- Reads values out of a document. The state counts the aliases followed so far. -/
abbrev Decoder := ReaderT Document (StateT Nat (Except Problem))

def Document.aliasLimit (d : Document) : Nat := 100 * d.root.size

def Document.decode {α : Type} (d : Document) (read : Node → Decoder α) : Except Problem α :=
  ((read d.root).run d).run' 0

def isNull (s : String) : Bool := s == "~" || s == "null" || s == "Null" || s == "NULL"

def nullTag : Bytes := Text.encode "tag:yaml.org,2002:null"

def boolTag : Bytes := Text.encode "tag:yaml.org,2002:bool"

namespace Decoder

def follow : Node → Decoder Node
  | .alias id => do
    let d ← read
    modify (· + 1)
    if d.aliasLimit < (← get) then throw "too many aliases" else pure ((d.anchors.node? id).getD .nothing)
  | n => pure n

def text (n : Node) : Decoder String := do
  match ← follow n with
  | .scalar s _ _ => pure s
  | _ => throw "a text was expected"

def optional {α : Type} (value : Node → Decoder α) (n : Node) : Decoder (Option α) := do
  let n ← follow n
  match n with
  | .scalar s .plain tag =>
    if tag = some nullTag then (if isNull s then pure none else throw "no value was expected")
    else if tag.isNone && (s.isEmpty || isNull s) then pure none
    else some <$> value n
  | _ => some <$> value n

def flagOf? (s : String) : Option Bool :=
  if s == "true" || s == "True" || s == "TRUE" then some true
  else if s == "false" || s == "False" || s == "FALSE" then some false
  else none

def flag (n : Node) : Decoder Bool := do
  let value (s : String) : Decoder Bool :=
    match flagOf? s with
    | some b => pure b
    | none => throw "true or false was expected"
  match ← follow n with
  | .scalar s .plain _ => value s
  | .scalar s .literal tag => if tag = some boolTag then value s else throw "true or false was expected"
  | _ => throw "true or false was expected"

def list {α : Type} (item : Node → Decoder α) (n : Node) : Decoder (List α) := do
  match ← follow n with
  | .sequence items _ => items.mapM item
  | .scalar "" .plain _ => pure []
  | _ => throw "a list was expected"

def entries (n : Node) : Decoder (List (String × Node)) := do
  match ← follow n with
  | .mapping l _ => l.mapM fun e => do pure (← text e.1, e.2)
  | .scalar "" .plain _ => pure []
  | _ => throw "a mapping was expected"

/-- Reads a map of texts; the last value of a repeated key counts. -/
def textMap (n : Node) : Decoder (OrderedMap String String) := do
  pure (.ofList (← (← entries n).mapM fun e => do pure (e.1, ← text e.2)))

/-- The fields of a record. Those not asked for are left out, the others must not be repeated. -/
def record (names : List String) (n : Node) : Decoder (OrderedMap String Node) := do
  let l := (← entries n).filter fun e => names.contains e.1
  if (l.map (·.1)).Nodup then pure ⟨l⟩ else throw "repeated field"

def field {α : Type} (fields : OrderedMap String Node) (name : String) (value : Node → Decoder α) :
    Decoder α :=
  match fields.get? name with
  | some n => value n
  | none => throw "missing field"

def fieldOr {α : Type} (fields : OrderedMap String Node) (name : String) (default : α)
    (value : Node → Decoder α) : Decoder α :=
  match fields.get? name with
  | some n => value n
  | none => pure default

/-- The name that a tag gives to a choice: an exclamation mark stands before it. A tag that is no text
names nothing. -/
def choiceName? (tag : Option Bytes) : Option String :=
  match tag with
  | some (0x21 :: name) => Text.decode? name
  | _ => none

/-- Reads one of several named choices: its name, or a tag with its name on nothing. -/
def choice {α : Type} (choices : List (String × α)) (n : Node) : Decoder α := do
  let find (name : String) : Decoder α :=
    match choices.find? fun c => c.1 == name with
    | some c => pure c.2
    | none => throw "unknown choice"
  match ← follow n with
  | .scalar s style tag =>
    match choiceName? tag with
    | some name =>
      if style = .plain && (s.isEmpty || isNull s) then find name else throw "a choice holds no value"
    | none => find s
  | _ => throw "a choice was expected"

end Decoder

end ToolPipeline.Yaml
