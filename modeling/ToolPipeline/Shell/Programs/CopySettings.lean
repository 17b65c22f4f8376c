import ToolPipeline.Shell.Programs.Basic

set_option autoImplicit false

/-!
What the command line of the program that copies files asks for.
-/

namespace ToolPipeline.Shell.Program.Cp

inductive Replacing where
  | always
  | asking
  | never
  deriving DecidableEq, Repr

inductive Backup where
  | none
  | simple
  /-- With numbers if there are numbered ones already. -/
  | existing
  | numbered
  deriving DecidableEq, Repr

inductive Update where
  | all
  | none
  | older
  deriving DecidableEq, Repr

inductive Linking where
  | none
  | hard
  | symbolic
  deriving DecidableEq, Repr

structure Settings where
  recursive : Bool
  replacing : Replacing
  backup : Backup
  suffix : Chars
  force : Bool
  removesFirst : Bool
  linking : Linking
  verbose : Bool
  parents : Bool
  target : Option Chars
  plainTarget : Bool
  stripsSlashes : Bool
  onlyOlder : Bool
  withoutContent : Bool
  deriving DecidableEq, Repr

def standard : Settings where
  recursive := false
  replacing := .always
  backup := .none
  suffix := ['~']
  force := false
  removesFirst := false
  linking := .none
  verbose := false
  parents := false
  target := none
  plainTarget := false
  stripsSlashes := false
  onlyOlder := false
  withoutContent := false

def specs : List OptionSpec :=
  [.plain 'a' "archive", .wordOnly "attributes-only" .absent, .wordOnly "backup" .optional, .letterOnly 'b',
    .wordOnly "copy-contents" .absent, .wordOnly "debug" .absent, .plain 'L' "dereference", .plain 'f' "force",
    .letterOnly 'H', .plain 'i' "interactive", .plain 'l' "link", .plain 'n' "no-clobber", .letterOnly 'd',
    .plain 'P' "no-dereference", .wordOnly "no-preserve" .required, .plain 'T' "no-target-directory",
    .plain 'x' "one-file-system", .wordOnly "parents" .absent, ⟨"parents", none, some "path", .absent⟩,
    .wordOnly "preserve" .optional, .letterOnly 'p', .plain 'R' "recursive", .letterOnly 'r',
    .wordOnly "remove-destination" .absent, .wordOnly "sparse" .required, .wordOnly "reflink" .optional,
    .wordOnly "strip-trailing-slashes" .absent, .valued 'S' "suffix", .plain 's' "symbolic-link",
    .valued 't' "target-directory", .letterOnly 'u', .wordOnly "update" .optional, .plain 'v' "verbose",
    .letterOnly 'Z', .wordOnly "context" .optional] ++ commonOptions

def title : Title :=
  ⟨"cp", ["[OPTION]... [-T] SOURCE DEST", "[OPTION]... SOURCE... DIRECTORY", "[OPTION]... -t DIRECTORY SOURCE..."]⟩

def backups : List (String × Backup) :=
  [("none", .none), ("off", .none), ("simple", .simple), ("never", .simple), ("existing", .existing),
    ("nil", .existing), ("numbered", .numbered), ("t", .numbered)]

def updates : List (String × Update) := [("all", .all), ("none", .none), ("older", .older)]

/-- Words whose meanings make no difference here. -/
def distinct (l : List String) : List (String × Nat) := l.zipIdx

def attributes : List (String × Nat) :=
  distinct ["mode", "timestamps", "ownership", "links", "context", "xattr", "all"]

inductive Problem where
  | word (w : BadWord)
  | severalTargets
  | instead (g : Given)
  deriving DecidableEq, Repr

def check (s : Settings) (words : List (String × Nat)) (option : String) (w : Chars) : Except Problem Settings :=
  match wordMeaning words option.toList w with
  | .ok _ => .ok s
  | .error e => .error (.word e)

def add (s : Settings) (g : Given) : Except Problem Settings :=
  match g with
  | .operand _ => .ok s
  | .problem _ => .error (.instead g)
  | .option id value =>
    match id with
    | "help" | "version" => .error (.instead g)
    | "a" | "R" | "r" => .ok { s with recursive := true }
    | "attributes-only" => .ok { s with withoutContent := true }
    | "b" => .ok { s with backup := if s.backup = .none then .existing else s.backup }
    | "backup" =>
      match value with
      | none => .ok { s with backup := if s.backup = .none then .existing else s.backup }
      | some w =>
        match wordMeaning backups "backup type".toList w with
        | .ok b => .ok { s with backup := b }
        | .error e => .error (.word e)
    | "f" => .ok { s with force := true }
    | "i" => .ok { s with replacing := .asking }
    | "n" => .ok { s with replacing := .never }
    | "l" => .ok { s with linking := .hard }
    | "s" => .ok { s with linking := .symbolic }
    | "parents" => .ok { s with parents := true }
    | "preserve" | "no-preserve" =>
      match value with
      | none => .ok s
      | some w => (Chars.splitOn ',' w).foldlM (fun s w => check s attributes ("--" ++ id) w) s
    | "sparse" => check s (distinct ["never", "auto", "always"]) "--sparse" (value.getD [])
    | "reflink" =>
      match value with
      | none => .ok s
      | some w => check s (distinct ["auto", "always", "never"]) "--reflink" w
    | "remove-destination" => .ok { s with removesFirst := true }
    | "strip-trailing-slashes" => .ok { s with stripsSlashes := true }
    | "S" =>
      .ok { s with
        suffix := match value with
          | some (c :: w) => if (c :: w).contains '/' then s.suffix else c :: w
          | _ => s.suffix
        backup := if s.backup = .none then .existing else s.backup }
    | "T" => .ok { s with plainTarget := true }
    | "t" => if s.target.isSome then .error .severalTargets else .ok { s with target := value }
    | "u" => .ok { s with onlyOlder := true }
    | "update" =>
      match value with
      | none => .ok { s with onlyOlder := true }
      | some w =>
        match wordMeaning updates "--update".toList w with
        | .ok .all => .ok { s with onlyOlder := false }
        | .ok .none => .ok { s with replacing := .never, onlyOlder := false }
        | .ok .older => .ok { s with onlyOlder := true }
        | .error e => .error (.word e)
    | "v" | "debug" => .ok { s with verbose := true }
    | _ => .ok s

end ToolPipeline.Shell.Program.Cp
