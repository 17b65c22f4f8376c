import ToolPipeline.Toml.Scalar

set_option autoImplicit false

/-!
Documents: tables of values that are filled line by line.

What may still be added to a table depends on how it came to be: by a header of its own, on the way to
the table of another header, or by a key with dots.
-/

namespace ToolPipeline.Toml

inductive Item where
  | value (text : Option String)
  /-- A table. It is `implied` unless a header names it, and `dotted` if keys with dots fill it. -/
  | table (implied dotted : Bool) (entries : List (String × Item))
  /-- An array of tables, the last one first. -/
  | tables (elements : List (List (String × Item)))

abbrev Entries := List (String × Item)

namespace Entries

def find? (l : Entries) (k : String) : Option Item := (List.find? (fun e => e.1 == k) l).map (·.2)

def remove (l : Entries) (k : String) : Entries := List.filter (fun e => e.1 != k) l

def set (l : Entries) (k : String) (i : Item) : Entries := (k, i) :: remove l k

/-- Changes the table at the end of a path, creating the ones that are missing. `change` is told whether
that table is dotted. -/
def updateAt (dotted : Bool) (change : Bool → Entries → Except Problem Entries) (isDotted : Bool) :
    List String → Entries → Except Problem Entries
  | [], l => change isDotted l
  | k :: path, l =>
    match l.find? k with
    | none => do pure (l.set k (.table true dotted (← updateAt dotted change dotted path [])))
    | some (.value _) => .error "no table"
    | some (.tables (last :: front)) => do
      pure (l.set k (.tables ((← updateAt dotted change false path last) :: front)))
    | some (.tables []) => .error "no table"
    | some (.table implied d sub) =>
      if dotted && !implied then .error "table is closed"
      else do pure (l.set k (.table implied d (← updateAt dotted change d path sub)))

/-- Adds a value under a key. A key with dots goes on into dotted tables only. -/
def addValue (key : List String) (v : Item) (l : Entries) : Except Problem Entries :=
  let path := key.dropLast
  let name := key.getLast?.getD ""
  let put (isDotted : Bool) (l : Entries) : Except Problem Entries :=
    if isDotted == path.isEmpty || (l.find? name).isSome then .error "repeated key" else .ok (l.set name v)
  updateAt true put false path l

end Entries

/-! Values. -/

def dropLayout : Nat → List Char → List Char
  | 0, s => s
  | fuel + 1, s =>
    let s := dropSpaces s
    match newline? s with
    | some rest => dropLayout fuel rest
    | none =>
      match s with
      | '#' :: rest =>
        let rest := rest.dropWhile isPrintable
        match newline? rest with
        | some rest => dropLayout fuel rest
        | none => s
      | _ => s

mutual

/-- Reads a value. Strings are kept, everything else is checked. At most `depth` collections may open. -/
def readValue (depth : Nat) (s : List Char) : Except Problem (Option String × List Char) :=
  match depth, s with
  | _, '"' :: _ => (readString '"' s).map fun p => (some p.1, p.2)
  | _, '\'' :: _ => (readString '\'' s).map fun p => (some p.1, p.2)
  | depth + 1, '[' :: rest => (readItems depth (rest.length + 1) rest).map fun r => (none, r)
  | depth + 1, '\x7b' :: rest => (readPairs depth (rest.length + 1) true [] rest).map fun r => (none, r)
  | _, _ => (readScalar s).map fun r => (none, r)
  termination_by (depth, 0)

def readItems (depth : Nat) : Nat → List Char → Except Problem (List Char)
  | 0, _ => .error "open array"
  | fuel + 1, s =>
    match dropLayout s.length s with
    | ']' :: rest => .ok rest
    | s =>
      match readValue depth s with
      | .error e => .error e
      | .ok (_, rest) =>
        match dropLayout rest.length rest with
        | ',' :: rest => readItems depth fuel rest
        | ']' :: rest => .ok rest
        | _ => .error "comma expected"
  termination_by fuel => (depth, fuel + 1)

def readPairs (depth : Nat) : Nat → (first : Bool) → Entries → List Char → Except Problem (List Char)
  | 0, _, _, _ => .error "open table"
  | fuel + 1, first, l, s =>
    match first, dropSpaces s with
    | true, '\x7d' :: rest => .ok rest
    | _, s =>
      match readKey depthLimit s with
      | .error e => .error e
      | .ok (key, '=' :: rest) =>
        match readValue depth (dropSpaces rest) with
        | .error e => .error e
        | .ok (v, rest) =>
          match l.addValue key (.value v) with
          | .error e => .error e
          | .ok l =>
            match dropSpaces rest with
            | ',' :: rest => readPairs depth fuel false l rest
            | '\x7d' :: rest => .ok rest
            | _ => .error "comma expected"
      | .ok _ => .error "equals sign expected"
  termination_by fuel => (depth, fuel + 1)

end

/-! Lines. -/

structure Builder where
  root : Entries
  current : Entries
  path : List String
  inArray : Bool

namespace Builder

def start : Builder := ⟨[], [], [], false⟩

def finish (b : Builder) : Except Problem Entries :=
  match b.path.getLast? with
  | none => .ok b.current
  | some name =>
    let put (_ : Bool) (l : Entries) : Except Problem Entries :=
      match b.inArray, l.find? name with
      | true, none => .ok (l.set name (.tables [b.current]))
      | true, some (.tables elements) => .ok (l.set name (.tables (b.current :: elements)))
      | false, none => .ok (l.set name (.table false false b.current))
      | false, some (.table true _ _) => .ok (l.set name (.table false false b.current))
      | _, _ => .error "repeated table"
    Entries.updateAt false put false b.path.dropLast b.root

/-- Goes on with the table of a header. A table that was implied so far is filled further. -/
def openTable (b : Builder) (key : List String) : Except Problem Builder := do
  let root ← b.finish
  let name := key.getLast?.getD ""
  let parent := key.dropLast
  let check (_ : Bool) (l : Entries) : Except Problem Entries :=
    match l.find? name with
    | none | some (.table true false _) => .ok (l.remove name)
    | _ => .error "repeated table"
  let kept := entriesAt (parent ++ [name]) root
  pure ⟨← Entries.updateAt false check false parent root, kept, key, false⟩
where
  entriesAt : List String → Entries → Entries
    | [], l => l
    | k :: path, l =>
      match l.find? k with
      | some (.table _ _ sub) => entriesAt path sub
      | some (.tables (last :: _)) => entriesAt path last
      | _ => []

def openElement (b : Builder) (key : List String) : Except Problem Builder := do
  let root ← b.finish
  let name := key.getLast?.getD ""
  let check (_ : Bool) (l : Entries) : Except Problem Entries :=
    match l.find? name with
    | none | some (.tables _) => .ok l
    | _ => .error "repeated table"
  pure ⟨← Entries.updateAt false check false key.dropLast root, [], key, true⟩

def addValue (b : Builder) (key : List String) (v : Item) : Except Problem Builder := do
  pure { b with current := ← b.current.addValue key v }

end Builder

def endLine (s : List Char) : Except Problem (List Char) :=
  let s := dropSpaces s
  let s := match s with
    | '#' :: rest => rest.dropWhile isPrintable
    | s => s
  match s, newline? s with
  | [], _ => .ok []
  | _, some rest => .ok rest
  | _, none => .error "end of line expected"

def readLineInto (b : Builder) (s : List Char) : Except Problem (Builder × List Char) :=
  match s with
  | '[' :: '[' :: rest => do
    let (key, rest) ← readKey depthLimit rest
    match rest with
    | ']' :: ']' :: rest => pure (← b.openElement key, ← endLine rest)
    | _ => throw "end of header expected"
  | '[' :: rest => do
    let (key, rest) ← readKey depthLimit rest
    match rest with
    | ']' :: rest => pure (← b.openTable key, ← endLine rest)
    | _ => throw "end of header expected"
  | _ => do
    let (key, rest) ← readKey depthLimit s
    match rest with
    | '=' :: rest =>
      let (v, rest) ← readValue depthLimit (dropSpaces rest)
      pure (← b.addValue key (.value v), ← endLine rest)
    | _ => throw "equals sign expected"

def readDocument : Nat → Builder → List Char → Except Problem Entries
  | 0, _, _ => .error "unread text"
  | fuel + 1, b, s =>
    match dropSpaces s with
    | [] => b.finish
    | '#' :: rest => do readDocument fuel b (← endLine ('#' :: rest))
    | s =>
      match newline? s with
      | some rest => readDocument fuel b rest
      | none => do
        let (b, rest) ← readLineInto b s
        readDocument fuel b rest

def parse (text : String) : Except Problem Entries :=
  let s := match text.toList with
    | '\uFEFF' :: s => s
    | s => s
  readDocument (s.length + 1) .start s

def Entries.text? (l : Entries) (key : String) : Except Problem (Option String) :=
  match l.find? key with
  | none => .ok none
  | some (.value (some s)) => .ok (some s)
  | some _ => .error "no string"

end ToolPipeline.Toml
