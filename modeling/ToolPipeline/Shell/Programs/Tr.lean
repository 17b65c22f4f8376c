import ToolPipeline.Shell.Programs.Basic
import ToolPipeline.Shell.Programs.TrSet

set_option autoImplicit false

/-!
Replacing, removing and thinning out characters.
-/

namespace ToolPipeline.Shell.Program

namespace Tr

structure Settings where
  complements : Bool
  deletes : Bool
  squeezes : Bool
  truncates : Bool
  deriving DecidableEq, Repr

def specs : List OptionSpec :=
  [.plain 'c' "complement", .letterOnly 'C', .letterOnly 'A', .plain 'd' "delete", .plain 's' "squeeze-repeats",
    .plain 't' "truncate-set1"] ++ commonOptions

def title : Title := ⟨"tr", ["[OPTION]... STRING1 [STRING2]"]⟩

def settings (l : List Given) : Settings :=
  ⟨Given.has l "c" || Given.has l "C", Given.has l "d", Given.has l "s", Given.has l "t"⟩

inductive Problem where
  | fillingFirst
  | fillingTwice
  | equivalents
  | namedSets
  | misaligned
  | emptySecond
  | namedEnd
  | severalTargets
  | fillingUnneeded
  | tooMany
  deriving DecidableEq, Repr

def Problem.message : Problem → String
  | fillingFirst => "the [c*] repeat construct may not appear in string1"
  | fillingTwice => "only one [c*] repeat construct may appear in string2"
  | equivalents => "[=c=] expressions may not appear in string2 when translating"
  | namedSets => "when translating, the only character classes that may appear in\nstring2 are 'upper' and 'lower'"
  | misaligned => "misaligned [:upper:] and/or [:lower:] construct"
  | emptySecond => "when not truncating set1, string2 must be non-empty"
  | namedEnd =>
    "when translating with string1 longer than string2,\nthe latter string must not end with a character class"
  | severalTargets =>
    "when translating with complemented character classes,\nstring2 must map all characters in the domain to one"
  | fillingUnneeded => "the [c*] construct may appear in string2 only when translating"
  | tooMany => "too many characters in set"

def isFilling : TrElement → Bool
  | .repeated _ none => true
  | _ => false

def isNamed : TrElement → Bool
  | .named _ => true
  | _ => false

def checkSize (s : TrSet) : Except Problem Unit :=
  if TrSet.countLimit < TrSet.size s then .error .tooMany else .ok ()

def fill (size : Nat) (second : TrSet) : TrSet :=
  let own := TrSet.size second
  if own ≤ size then
    second.map fun e =>
      match e with
      | .repeated c none => .repeated c (some (size - own))
      | e => e
  else second

def extend (missing : Nat) (second : TrSet) : Except Problem TrSet :=
  let more (c : Char) : Except Problem TrSet := .ok (second ++ [.repeated c (some missing)])
  match second.getLast? with
  | some (.single c) | some (.equivalent c) | some (.repeated c _) => more c
  | some (.range _ last) => more last
  | some (.named _) | some (.members _) => .error .namedEnd
  | none => .error .emptySecond

def prepare (s : Settings) (first second : TrSet) : Except Problem TrSet := do
  let size := if s.complements then (TrSet.complement first).length else TrSet.size first
  checkSize second
  let fillings := second.countP isFilling
  let second := if fillings = 1 then fill size second else second
  if 1 < fillings then .error .fillingTwice
  if second.any fun e => e matches .equivalent _ then .error .equivalents
  if second.any fun e => isNamed e && e != .named .upper && e != .named .lower then .error .namedSets
  let sizes := (size, TrSet.size second)
  let sizes ← if s.complements || !second.any isNamed then pure sizes
    else
      match TrSet.aligned? (TrSet.steps first second) first second sizes with
      | some sizes => pure sizes
      | none => .error .misaligned
  let (second, secondSize) ← if sizes.2 < sizes.1 && !s.truncates then
      if sizes.2 = 0 then .error .emptySecond
      else do
        let longer ← extend (sizes.1 - sizes.2) second
        pure (longer, sizes.1)
    else pure (second, sizes.2)
  if s.complements && first.any isNamed then
    let targets := TrSet.chars second
    if secondSize ≠ sizes.1 || targets.isEmpty || targets.any fun c => targets.head? != some c then
      .error .severalTargets
  pure second

structure Plan where
  removed : List Char
  replaced : List (Char × Char)
  squeezed : List Char
  deriving DecidableEq, Repr

def members (s : Settings) (first : TrSet) : List Char :=
  if s.complements then TrSet.complement first else TrSet.chars first

def plan (s : Settings) (first : TrSet) (second : Option TrSet) : Except Problem Plan := do
  checkSize first
  if first.any isFilling then .error .fillingFirst
  match second with
  | none => pure (if s.squeezes then ⟨[], [], members s first⟩ else ⟨members s first, [], []⟩)
  | some second =>
    if s.deletes then
      checkSize second
      let size := if s.complements then (TrSet.complement first).length else TrSet.size first
      let fillings := second.countP isFilling
      if 1 < fillings then .error .fillingTwice
      if fillings = 1 then .error .fillingUnneeded
      let second := fill size second
      pure ⟨members s first, [], TrSet.chars second⟩
    else
      let second ← prepare s first second
      let first := if s.complements then (TrSet.complement first).map TrElement.single else first
      pure ⟨[], TrSet.pairs (TrSet.steps first second) first second,
        if s.squeezes then TrSet.chars second else []⟩

def table (f : Char → Char) : Array Char := ((List.range 256).map fun n => f (Char.ofNat n)).toArray

def Plan.apply (p : Plan) (s : Chars) : Chars :=
  let rules := p.replaced.foldl (fun t r => t.setIfInBounds r.1.toNat r.2) (table id)
  let flags (l : List Char) : Array Bool := l.foldl (fun t c => t.setIfInBounds c.toNat true) (Array.replicate 256 false)
  let removed := flags p.removed
  let squeezed := flags p.squeezed
  let step (acc : Chars) (c : Char) : Chars :=
    if removed.getD c.toNat false then acc
    else
      let c := rules.getD c.toNat c
      if squeezed.getD c.toNat false && acc.head? == some c then acc else c :: acc
  (s.foldl step []).reverse

def badOperands (name problem : Chars) (more : Option String) : Running Nat := do
  complain name problem
  match more with
  | some m => Running.writeChars 2 (m.toList ++ ['\n'])
  | none => pure ()
  hint name
  pure 1

def set? (name text : Chars) : Running (Option TrSet) := do
  let (r, warnings) := TrSet.ofText text
  for w in warnings do complain name w
  match r with
  | .ok s => pure (some s)
  | .error p =>
    complain name p.message
    pure none

def run (name : Chars) (p : Plan) : Running Nat := do
  match ← standardInput with
  | .content b => finish name (p.apply (Chars.ofBytes b)).toBytes 0
  | .missing reason | .unreadable reason =>
    complainText name ("read error: " ++ reason)
    pure 1

end Tr

def tr : Program := fun name arguments => do
  let l := Given.readFront Tr.specs arguments
  let s := Tr.settings l
  let operands := Given.operands l
  match instead? Tr.title 1 name l with
  | some a => a
  | none =>
    let least := if s.deletes == s.squeezes then 2 else 1
    let most := if s.deletes && !s.squeezes then 1 else 2
    if operands.isEmpty then misused 1 name "missing operand".toList
    else if operands.length < least then
      Tr.badOperands name ("missing operand after ".toList ++ Quoting.value (operands.getLast?.getD []))
        (some (if s.squeezes then "Two strings must be given when both deleting and squeezing repeats."
          else "Two strings must be given when translating."))
    else
      match operands[most]? with
      | some extra =>
        Tr.badOperands name ("extra operand ".toList ++ Quoting.value extra)
          (if operands.length = 2 then
            some "Only one string may be given when deleting without squeezing repeats." else none)
      | none =>
        match ← Tr.set? name (operands.headD []) with
        | none => pure 1
        | some first =>
          let second ← match operands[1]? with
            | none => pure none
            | some text =>
              match ← Tr.set? name text with
              | none => return 1
              | some s => pure (some s)
          match Tr.plan s first second with
          | .error p =>
            complainText name p.message
            pure 1
          | .ok p => Tr.run name p

end ToolPipeline.Shell.Program
