import ToolPipeline.Shell.Programs.SortKey

set_option autoImplicit false

/-!
Sorting the lines of files, merging sorted ones and checking whether they are sorted.
-/

namespace ToolPipeline.Shell.Program

namespace Sorting

inductive Job where
  | sort
  | merge
  | check (quiet : Bool)
  deriving DecidableEq, Repr

structure Settings where
  keys : List SortKey
  order : KeyOrder
  separator : Option Char
  job : Job
  unique : Bool
  stable : Bool
  output : Option Chars
  lineEnd : UInt8
  deriving DecidableEq, Repr

def standard : Settings := ⟨[], .plain, none, .sort, false, false, none, 10⟩

def specs : List OptionSpec :=
  let check : OptionSpec := ⟨"check", none, some "check", .optional⟩
  [.plain 'b' "ignore-leading-blanks", check, .letterOnly 'c', .letterOnly 'C',
    .wordOnly "compress-program" .required, .wordOnly "debug" .absent, .plain 'd' "dictionary-order",
    .plain 'f' "ignore-case", .wordOnly "files0-from" .required, .plain 'g' "general-numeric-sort",
    .plain 'i' "ignore-nonprinting", .valued 'k' "key", .plain 'm' "merge", .plain 'M' "month-sort",
    .plain 'n' "numeric-sort", .plain 'h' "human-numeric-sort", .plain 'V' "version-sort", .plain 'R' "random-sort",
    .wordOnly "random-source" .required, .wordOnly "sort" .required, .valued 'o' "output", .plain 'r' "reverse",
    .plain 's' "stable", .wordOnly "batch-size" .required, .valued 'S' "buffer-size", .valued 't' "field-separator",
    .valued 'T' "temporary-directory", .plain 'u' "unique", .plain 'z' "zero-terminated",
    .wordOnly "parallel" .required, ⟨"y", some 'y', none, .required⟩] ++ commonOptions

def title : Title := ⟨"sort", ["[OPTION]... [FILE]...", "[OPTION]... --files0-from=F"]⟩

inductive Problem where
  | fatal (message : Chars)
  | usage (message : Chars)
  | word (w : BadWord)
  | instead (g : Given)
  deriving DecidableEq, Repr

def checkWords : List (String × Bool) := [("quiet", true), ("silent", true), ("diagnose-first", false)]

def sortWords : List (String × Char) :=
  [("general-numeric", 'g'), ("human-numeric", 'h'), ("month", 'M'), ("numeric", 'n'), ("random", 'R'),
    ("version", 'V')]

def separator (s : Settings) (text : Chars) : Except Problem Settings :=
  match (if text == ['\\', '0'] then ['\x00'] else text) with
  | [] => .error (.fatal "empty tab".toList)
  | [c] =>
    if s.separator.any fun d => d != c then .error (.fatal "incompatible tabs".toList)
    else .ok { s with separator := some c }
  | t => .error (.fatal ("multi-character tab ".toList ++ Quoting.value t))

def setJob (s : Settings) (job : Job) : Except Problem Settings :=
  match s.job, job with
  | .check a, .check b =>
    if a = b then .ok s else .error (.fatal "options '-cC' are incompatible".toList)
  | _, _ => .ok { s with job }

def add (s : Settings) : Given → Except Problem Settings
  | .operand _ => .ok s
  | .problem m => .error (.usage m)
  | .option "help" v => .error (.instead (.option "help" v))
  | .option "version" v => .error (.instead (.option "version" v))
  | .option id value =>
    let text := value.getD []
    match id with
    | "k" =>
      match SortKey.parse text with
      | .ok k => .ok { s with keys := s.keys ++ [k] }
      | .error m => .error (.fatal m)
    | "t" => separator s text
    | "o" =>
      if s.output.any fun o => o != text then .error (.fatal "multiple output files specified".toList)
      else .ok { s with output := some text }
    | "c" => setJob s (.check false)
    | "C" => setJob s (.check true)
    | "check" =>
      match value with
      | none => setJob s (.check false)
      | some w =>
        match wordMeaning checkWords "--check".toList w with
        | .ok quiet => setJob s (.check quiet)
        | .error e => .error (.word e)
    | "sort" =>
      match wordMeaning sortWords "--sort".toList text with
      | .ok c => .ok { s with order := (s.order.add? true true c).getD s.order }
      | .error e => .error (.word e)
    | "m" => .ok { s with job := if s.job = .sort then .merge else s.job }
    | "u" => .ok { s with unique := true }
    | "s" => .ok { s with stable := true }
    | "z" => .ok { s with lineEnd := 0 }
    | _ =>
      match id.toList with
      | [c] => .ok { s with order := (s.order.add? true true c).getD s.order }
      | _ => .ok s

/-- Completes the settings: keys without an order of their own have the order of all, and without keys the whole
line is one. -/
def complete (s : Settings) : Except Problem Settings :=
  let keys := s.keys.map fun k =>
    if k.order.isDefault && !k.order.reverse then { k with order := s.order } else k
  let keys := if keys.isEmpty && !s.order.isDefault then [⟨none, none, s.order⟩] else keys
  match keys.findSome? fun k => k.order.conflict? with
  | some letters => .error (.fatal ("options '-".toList ++ letters ++ "' are incompatible".toList))
  | none => .ok { s with keys }

/-- The order of lines, in which the lines as they are decide last. -/
def compareLines (s : Settings) (a b : Chars) : Ordering :=
  match SortKey.compareLines s.separator s.keys a b with
  | .eq =>
    if !s.keys.isEmpty && (s.unique || s.stable) then .eq
    else if s.order.reverse then compareChars b a
    else compareChars a b
  | o => o

def dropRepeated (s : Settings) (acc : List Chars) : List Chars → List Chars
  | [] => acc.reverse
  | x :: l =>
    match acc with
    | y :: _ => if compareLines s y x == .eq then dropRepeated s acc l else dropRepeated s (x :: acc) l
    | [] => dropRepeated s [x] l

def linesOf (s : Settings) (b : Bytes) : List Chars :=
  (lines s.lineEnd b).map fun l => Chars.ofBytes (if l.getLast? == some s.lineEnd then l.dropLast else l)

/-- The number of the first line that does not come behind the one before it, with the line. -/
def disorder? (s : Settings) (number : Nat) : List Chars → Option (Nat × Chars)
  | a :: b :: rest =>
    let o := compareLines s a b
    if o == .gt || (s.unique && o == .eq) then some (number + 1, b) else disorder? s (number + 1) (b :: rest)
  | _ => none

/-- Merges lists of lines: the smallest first line comes next, and of equal ones that of the first list. -/
def merge (s : Settings) : Nat → (acc : List Chars) → List (List Chars) → List Chars
  | 0, acc, _ => acc.reverse
  | fuel + 1, acc, lists =>
    let lists := lists.filter fun l => !l.isEmpty
    let firsts := lists.filterMap List.head?
    match firsts with
    | [] => acc.reverse
    | f :: more =>
      let least := more.foldl (fun best x => if compareLines s x best == .lt then x else best) f
      match firsts.findIdx? fun x => x == least with
      | some i => merge s fuel (least :: acc) (lists.modify i List.tail)
      | none => acc.reverse

def arrange (s : Settings) (inputs : List Bytes) : List Chars :=
  let lists := inputs.map (linesOf s)
  let all := if s.job = .merge then merge s ((lists.map List.length).foldr (· + ·) 0 + 1) [] lists
    else lists.flatten.mergeSort fun a b => compareLines s a b != .gt
  if s.unique then dropRepeated s [] all else all

def readAll (name : Chars) : List Chars → Running (Option (List Bytes))
  | [] => pure (some [])
  | operand :: rest => do
    let title := Quoting.nameIfNeeded operand
    match ← input operand with
    | .content b =>
      match ← readAll name rest with
      | some l => pure (some (b :: l))
      | none => pure none
    | .missing reason =>
      complain name ("cannot read: ".toList ++ title ++ ": ".toList ++ reason.toList)
      pure none
    | .unreadable reason =>
      let problem := if reason == badDescriptor then "stat failed: " else "read failed: "
      complain name (problem.toList ++ title ++ ": ".toList ++ reason.toList)
      pure none

def missing? (files : FileTree) (operands : List Chars) : Option (Chars × FileError) :=
  operands.findSome? fun a =>
    if a == ['-'] then none
    else
      match files.lookup (Chars.toText a) with
      | .error e => some (a, e)
      | .ok _ => none

def writeLines (name : Chars) (s : Settings) (l : List Chars) : Running Nat := do
  let out := (l.map fun x => Chars.toBytes x ++ [s.lineEnd]).flatten
  match s.output with
  | some path =>
    match (FileTree.write path.toText out).run (← get).files with
    | (.ok (), files) =>
      modify fun m => { m with files }
      match files.lookup path.toText with
      | .ok (.device (.stream n)) => let _ ← Running.write n out
      | _ => pure ()
      pure 0
    | (.error e, _) =>
      complain name ("open failed: ".toList ++ Quoting.nameIfNeeded path ++ ": ".toList ++ e.reason.toList)
      pure 2
  | none =>
    if out.isEmpty || (← Running.write 1 out) then pure 0
    else
      complainText name ("fflush failed: 'standard output': " ++ (← writeProblem))
      complainText name "write error"
      pure 2

def run (name : Chars) (s : Settings) (operands : List Chars) : Running Nat := do
  let files := (← get).files
  match missing? files operands with
  | some (a, e) =>
    complain name ("cannot read: ".toList ++ Quoting.nameIfNeeded a ++ ": ".toList ++ e.reason.toList)
    pure 2
  | none =>
    let isWritable (path : Chars) : Bool := (files.writable path.toText).toOption.isSome
    if s.output.any fun path => !isWritable path then writeLines name s []
    else
      match ← readAll name operands with
      | none => pure 2
      | some inputs =>
        match s.job with
        | .check quiet =>
          match disorder? s 1 (inputs.flatMap (linesOf s)) with
          | none => pure 0
          | some (n, line) =>
            if !quiet then
              complain name (operands.headD ['-'] ++ [':'] ++ Chars.ofNat n ++ ": disorder: ".toList ++ line)
            pure 1
        | _ => writeLines name s (arrange s inputs)

end Sorting

def sort : Program := fun name arguments => do
  let l := Given.readAll Sorting.specs arguments
  let given := Given.operands l
  match (l.foldlM Sorting.add Sorting.standard >>= Sorting.complete) with
  | .error (.fatal m) =>
    complain name m
    pure 2
  | .error (.usage m) => misused 2 name m
  | .error (.word w) => badWord 2 name w
  | .error (.instead g) => (instead? Sorting.title 2 name [g]).getD (pure 0)
  | .ok s =>
    match s.job, given with
    | .check quiet, _ :: extra :: _ =>
      complain name ("extra operand ".toList ++ Quoting.name extra ++ " not allowed with -".toList ++
        [if quiet then 'C' else 'c'])
      pure 2
    | _, _ => Sorting.run name s (orStandardInput given)

end ToolPipeline.Shell.Program
