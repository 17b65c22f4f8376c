import ToolPipeline.Shell.Script

set_option autoImplicit false

/-!
The flat form in which a word is read, and its tree.
-/

namespace ToolPipeline.Shell

inductive Item where
  | char (c : Char)
  | escaped (c : Char)
  | quoteMark
  | parameter (name : Chars) (use : ParameterUse)
  | endOfParameter
  | arithmetic
  | endOfArithmetic
  | script (c : Command)
  deriving Repr

namespace Item

def plainText? (items : List Item) : Option Chars :=
  items.mapM fun
    | .char c => some c
    | _ => none

def text (items : List Item) : Chars :=
  items.filterMap fun
    | .char c | .escaped c => some c
    | _ => none

def takesWord : ParameterUse → Bool
  | .value => false
  | _ => true

structure Quoting where
  outer : Bool
  inner : Bool
  deriving DecidableEq, Repr

def Quoting.isQuoted (q : Quoting) : Bool := q.outer || q.inner

def Quoting.within (q : Quoting) : ParameterUse → Quoting
  | .alternative .default _ | .alternative .replacement _ => ⟨q.isQuoted, false⟩
  | _ => ⟨false, false⟩

def char? (q : Quoting) : Item → Option (Char × Bool)
  | .char c => some (c, q.isQuoted)
  | .escaped c => some (c, true)
  | _ => none

def run (q : Quoting) (quoted : Bool) (acc : Chars) : List Item → Chars × List Item
  | [] => (acc.reverse, [])
  | item :: rest =>
    match char? q item with
    | some (c, b) => if b == quoted then run q quoted (c :: acc) rest else (acc.reverse, item :: rest)
    | none => (acc.reverse, item :: rest)

/-- The tree of a word and what is behind it. A word ends where the parameter or the arithmetic expression ends
that it belongs to. The parameter for all fields stands without its quotes if they enclose nothing else. -/
def tree : Nat → Quoting → List Item → Word × List Item
  | 0, _, items => ([], items)
  | fuel + 1, q, items =>
    let goOn (p : Part) (q : Quoting) (rest : List Item) : Word × List Item :=
      let r := tree fuel q rest
      (p :: r.1, r.2)
    match items with
    | [] => ([], [])
    | .endOfParameter :: rest | .endOfArithmetic :: rest => ([], rest)
    | .quoteMark :: rest =>
      match q.inner, rest with
      | false, .parameter ['@'] .value :: .quoteMark :: behind => goOn (.parameter ['@'] .value [] true) q behind
      | _, _ => goOn .quoteMark { q with inner := !q.inner } rest
    | .parameter name use :: rest =>
      if takesWord use then
        let (w, rest) := tree fuel (q.within use) rest
        goOn (.parameter name use w q.isQuoted) q rest
      else goOn (.parameter name use [] q.isQuoted) q rest
    | .arithmetic :: rest =>
      let (w, rest) := tree fuel ⟨false, false⟩ rest
      goOn (.arithmetic w q.isQuoted) q rest
    | .script c :: rest => goOn (.output c q.isQuoted) q rest
    | item :: _ =>
      match char? q item with
      | some (_, quoted) =>
        let (s, rest) := run q quoted [] items
        goOn (.text s quoted) q rest
      | none => ([], items)

/-- The tree of a whole word; `quoted` if it is a document in which quotes have no meaning. -/
def word (quoted : Bool) (items : List Item) : Word := (tree (items.length + 1) ⟨quoted, false⟩ items).1

end Item

end ToolPipeline.Shell
