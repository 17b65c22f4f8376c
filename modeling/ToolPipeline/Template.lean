import ToolPipeline.OrderedMap
import ToolPipeline.Text.Cut

set_option autoImplicit false

/-!
Command templates. A placeholder is a name between a dollar sign with an opening brace and the next
closing brace. Listing the placeholders and filling them in go through the text once each, so text that is
put in is never looked at again.
-/

namespace ToolPipeline

structure Template where
  text : String
  deriving DecidableEq, Repr

namespace Template

def ofText (s : String) : Template := ⟨s⟩

def opening : List Char := ['$', '\x7b']

def closing : List Char := ['\x7d']

/-- The names in the rest of a text. An opening that is closed nowhere ends the search. -/
def namesIn (rest : List Char) : List String :=
  match h : Text.find? opening rest with
  | none => []
  | some start =>
    let behind := rest.drop (start + opening.length)
    match Text.find? closing behind with
    | none => []
    | some stop =>
      have : (behind.drop (stop + closing.length)).length < rest.length :=
        Nat.lt_of_le_of_lt (List.drop_sublist _ _).length_le
          (Text.length_drop_lt_of_find?_eq_some (List.cons_ne_nil _ _) h (Nat.succ_pos _))
      .ofList (behind.take stop) :: namesIn (behind.drop (stop + closing.length))
  termination_by rest.length
  decreasing_by exact this

def placeholders (t : Template) : List String := namesIn t.text.toList

def valueIn? (layers : List ParameterMap) (name : String) : Option String :=
  layers.findSome? fun m => m.get? name

/-- The rest of a text with the value of its name in the place of each placeholder, or else its own text. -/
def fillIn (layers : List ParameterMap) (rest : List Char) : List Char :=
  match h : Text.find? opening rest with
  | none => rest
  | some start =>
    let behind := rest.drop (start + opening.length)
    match Text.find? closing behind with
    | none => rest
    | some stop =>
      let width := opening.length + stop + closing.length
      have : (rest.drop (start + width)).length < rest.length :=
        Text.length_drop_lt_of_find?_eq_some (List.cons_ne_nil _ _) h (Nat.succ_pos _)
      let value := match valueIn? layers (.ofList (behind.take stop)) with
        | some v => v.toList
        | none => (rest.drop start).take width
      rest.take start ++ value ++ fillIn layers (rest.drop (start + width))
  termination_by rest.length
  decreasing_by exact this

def expand (layers : List ParameterMap) (t : Template) : String := .ofList (fillIn layers t.text.toList)

end Template

end ToolPipeline
