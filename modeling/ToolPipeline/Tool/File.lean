import ToolPipeline.Tool.Basic
import ToolPipeline.Yaml.Decode

set_option autoImplicit false

/-!
Tool descriptions as documents.
-/

namespace ToolPipeline.ToolFile

open Yaml (Decoder Node Problem)

def runtimes : List (String × Runtime) := [("process", .process), ("in_process", .inProcess)]

def parameterSpec (n : Node) : Decoder ParameterSpec := do
  let fields ← Decoder.record ["name", "required", "default"] n
  pure {
    name := ← Decoder.field fields "name" Decoder.text
    required := ← Decoder.fieldOr fields "required" false Decoder.flag
    default := ← Decoder.fieldOr fields "default" none (Decoder.optional Decoder.text) }

def operation (n : Node) : Decoder Operation := do
  let fields ← Decoder.record ["name", "command", "runtime", "inputs", "outputs", "parameters"] n
  let specs (name : String) := Decoder.fieldOr fields name [] (Decoder.list parameterSpec)
  pure {
    name := ← Decoder.field fields "name" Decoder.text
    command := ← Decoder.field fields "command" Decoder.text
    runtime := ← Decoder.fieldOr fields "runtime" none (Decoder.optional (Decoder.choice runtimes))
    inputs := ← specs "inputs"
    outputs := ← specs "outputs"
    parameters := ← specs "parameters" }

def tool (n : Node) : Decoder Tool := do
  let fields ← Decoder.record ["name", "runtime", "operations"] n
  pure {
    name := ← Decoder.field fields "name" Decoder.text
    runtime := ← Decoder.fieldOr fields "runtime" .process (Decoder.choice runtimes)
    operations := ← Decoder.fieldOr fields "operations" [] (Decoder.list operation) }

def parse (text : String) : Except Problem Tool := do (← Yaml.Document.ofText text).decode tool

end ToolPipeline.ToolFile
