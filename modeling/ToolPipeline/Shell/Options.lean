import ToolPipeline.Shell.Quoting

set_option autoImplicit false

/-!
Options of programs: letters behind a dash and words behind two. Options may stand behind operands, words may be
shortened as long as they stay distinct, and two dashes end the options.
-/

namespace ToolPipeline.Shell

inductive OptionValue where
  | absent
  | required
  | optional
  deriving DecidableEq, Repr

/-- An option; `id` is what the program knows it by. -/
structure OptionSpec where
  id : String
  letter : Option Char
  word : Option String
  value : OptionValue
  deriving DecidableEq, Repr

inductive Given where
  | option (id : String) (value : Option Chars)
  | operand (s : Chars)
  | problem (message : Chars)
  deriving DecidableEq, Repr

namespace OptionSpec

def plain (letter : Char) (word : String) : OptionSpec := ⟨String.singleton letter, some letter, some word, .absent⟩

def valued (letter : Char) (word : String) : OptionSpec :=
  ⟨String.singleton letter, some letter, some word, .required⟩

def letterOnly (letter : Char) : OptionSpec := ⟨String.singleton letter, some letter, none, .absent⟩

def wordOnly (word : String) (value : OptionValue) : OptionSpec := ⟨word, none, some word, value⟩

end OptionSpec

namespace Given

/-- The words of options that a shortened word can stand for; an exact one stands for itself only. -/
def candidates (specs : List OptionSpec) (name : Chars) : List (String × OptionSpec) :=
  let words := specs.filterMap fun s => s.word.map fun w => (w, s)
  match words.find? fun p => p.1.toList == name with
  | some p => [p]
  | none => words.filter fun p => name.isPrefixOf p.1.toList

def readWord (specs : List OptionSpec) (word : Chars) (rest : List Chars) : Given × List Chars :=
  let name := word.takeWhile (· != '=')
  let value := if name.length < word.length then some (word.drop (name.length + 1)) else none
  let full (w : String) : Chars := ['\'', '-', '-'] ++ w.toList ++ ['\'']
  match candidates specs name with
  | [] => (.problem ("unrecognized option '--".toList ++ word ++ ['\'']), rest)
  | (w, s) :: more =>
    if more.any fun p => p.2.id != s.id then
      (.problem ("option '--".toList ++ word ++ "' is ambiguous; possibilities:".toList ++
        ((w, s) :: more).flatMap fun p => ' ' :: full p.1), rest)
    else
      match s.value, value with
      | .absent, some _ => (.problem ("option ".toList ++ full w ++ " doesn't allow an argument".toList), rest)
      | .absent, none | .optional, none => (.option s.id none, rest)
      | .required, none =>
        match rest with
        | v :: rest => (.option s.id (some v), rest)
        | [] => (.problem ("option ".toList ++ full w ++ " requires an argument".toList), rest)
      | _, some v => (.option s.id (some v), rest)

def readLetters (specs : List OptionSpec) : Chars → List Chars → List Given × List Chars
  | [], rest => ([], rest)
  | c :: letters, rest =>
    match specs.find? fun s => s.letter == some c with
    | none => ([.problem ("invalid option -- '".toList ++ [c, '\''])], rest)
    | some s =>
      match s.value with
      | .absent =>
        let r := readLetters specs letters rest
        (.option s.id none :: r.1, r.2)
      | .optional => ([.option s.id (if letters.isEmpty then none else some letters)], rest)
      | .required =>
        if !letters.isEmpty then ([.option s.id (some letters)], rest)
        else
          match rest with
          | v :: rest => ([.option s.id (some v)], rest)
          | [] => ([.problem ("option requires an argument -- '".toList ++ [c, '\''])], rest)

/-- Reads a command line; with `mixed` options may stand behind operands. -/
def read (specs : List OptionSpec) (mixed : Bool) : Nat → List Chars → List Given
  | 0, _ => []
  | fuel + 1, arguments =>
    match arguments with
    | [] => []
    | ['-', '-'] :: rest => rest.map .operand
    | ('-' :: '-' :: word) :: rest =>
      let r := readWord specs word rest
      r.1 :: read specs mixed fuel r.2
    | ('-' :: c :: letters) :: rest =>
      let r := readLetters specs (c :: letters) rest
      r.1 ++ read specs mixed fuel r.2
    | a :: rest => if mixed then .operand a :: read specs mixed fuel rest else (a :: rest).map .operand

def readAll (specs : List OptionSpec) (arguments : List Chars) : List Given :=
  read specs true (arguments.length + 1) arguments

def readFront (specs : List OptionSpec) (arguments : List Chars) : List Given :=
  read specs false (arguments.length + 1) arguments

def operands (l : List Given) : List Chars :=
  l.filterMap fun
    | .operand s => some s
    | _ => none

def problem? (l : List Given) : Option Chars :=
  l.findSome? fun
    | .problem m => some m
    | _ => none

def has (l : List Given) (id : String) : Bool :=
  l.any fun
    | .option i _ => i == id
    | _ => false

def value? (l : List Given) (id : String) : Option Chars :=
  l.reverse.findSome? fun
    | .option i v => if i == id then v else none
    | _ => none

end Given

end ToolPipeline.Shell
