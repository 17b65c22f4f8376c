import ToolPipeline.Operation

set_option autoImplicit false

/-!
The parameters of an operation, split by their roles.
-/

namespace ToolPipeline

structure Parameters where
  inputs : ParameterMap
  outputs : ParameterMap
  others : ParameterMap
  deriving DecidableEq, Repr

namespace Parameters

def empty : Parameters := ⟨∅, ∅, ∅⟩

def put (p : Parameters) (role : ParameterRole) (k v : String) : Parameters :=
  match role with
  | .inputFile => { p with inputs := p.inputs.insert k v }
  | .outputFile => { p with outputs := p.outputs.insert k v }
  | .other => { p with others := p.others.insert k v }

/-- The given parameters by role; those that are not declared count as others. -/
def given (o : Operation) (pairs : ParameterMap) : Parameters :=
  pairs.toList.foldl (fun p e => p.put ((o.roleOf? e.1).getD .other) e.1 e.2) empty

def undeclared (o : Operation) (pairs : ParameterMap) : List String :=
  pairs.keys.filter fun k => (o.roleOf? k).isNone

/-- Adds the defaults of declared parameters that are not given, up to the first one that is required but
has no default. -/
def addDefaults (pairs : ParameterMap) (p : Parameters) :
    List (ParameterSpec × ParameterRole) → Parameters × Option String
  | [] => (p, none)
  | (spec, role) :: rest =>
    if pairs.contains spec.name then addDefaults pairs p rest
    else
      match spec.default with
      | some v => addDefaults pairs (p.put role spec.name v) rest
      | none => if spec.required then (p, some spec.name) else addDefaults pairs p rest

def assign (o : Operation) (pairs : ParameterMap) : Parameters × Option String :=
  addDefaults pairs (given o pairs) o.declared

def layers (p : Parameters) : List ParameterMap := [p.inputs, p.outputs, p.others]

/-- Empty values for the declared parameters that have none. -/
def unset (o : Operation) (p : Parameters) : ParameterMap :=
  .ofList ((o.declaredNames.filter fun n => !p.layers.any fun m => m.contains n).map fun n => (n, ""))

def commandLine (o : Operation) (p : Parameters) : String := o.template.expand (p.layers ++ [unset o p])

end Parameters

end ToolPipeline
