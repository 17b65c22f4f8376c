import ToolPipeline.Text.Case.Table

set_option autoImplicit false

/-!
Upper and lower case of whole texts.
Characters are mapped one by one, except that a capital sigma closing a word becomes a final sigma.
-/

namespace ToolPipeline.Text

def mapCase (runs : List CaseRun) (sequences : List (Nat × List Nat)) (c : Char) : List Char :=
  match sequences.find? fun e => e.1 == c.toNat with
  | some e => e.2.map Char.ofNat
  | none =>
    match runs.find? fun r => r.covers c.toNat with
    | some r => [Char.ofNat (c.toNat + r.shift).toNat]
    | none => [c]

def upperChar (c : Char) : List Char :=
  if c.toNat < 0x80 then [c.toUpper] else mapCase upperRuns upperSequences c

def lowerChar (c : Char) : List Char :=
  if c.toNat < 0x80 then [c.toLower] else mapCase lowerRuns lowerSequences c

def isCaseIgnorable (c : Char) : Bool := caseIgnorableRanges.any fun r => r.1 ≤ c.toNat && c.toNat ≤ r.2

def isCased (c : Char) : Bool := casedRanges.any fun r => r.1 ≤ c.toNat && c.toNat ≤ r.2

def startsCased (s : List Char) : Bool :=
  match s.dropWhile isCaseIgnorable with
  | c :: _ => isCased c
  | [] => false

def upper (s : List Char) : List Char := s.flatMap upperChar

/-- Lower case of the rest of a text; `before` holds the characters already read, the last one first. -/
def lower.go (acc before : List Char) : List Char → List Char
  | [] => acc.reverse
  | c :: s =>
    let image :=
      if c == 'Σ' then (if startsCased before && !startsCased s then ['ς'] else ['σ']) else lowerChar c
    go (image.reverse ++ acc) (c :: before) s

def lower (s : List Char) : List Char := lower.go [] [] s

end ToolPipeline.Text
