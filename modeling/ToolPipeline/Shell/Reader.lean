import ToolPipeline.Shell.Source

set_option autoImplicit false

/-!
Reading scripts. A word is scanned under nested rules for quotes, braces and arithmetic; scripts inside of words
are read by the same reader. `fuel` bounds the steps behind one another.
-/

namespace ToolPipeline.Shell

inductive Quotes where
  | plain
  | double
  | single
  | arithmetic
  deriving DecidableEq, Repr

inductive CharClass where
  | ordinary
  | guarded
  | backslash
  | singleQuote
  | doubleQuote
  | closingQuote
  | dollar
  | closingBrace
  | opening
  | closing
  | backQuote
  | separator
  deriving DecidableEq, Repr

def backTick : Char := '\x60'

def CharClass.of (quotes : Quotes) (c : Char) : CharClass :=
  let guardedChars := "!*?[=~:/-]".toList
  match quotes with
  | .single => if c == '\'' then .closingQuote else if c == '\\' || guardedChars.contains c then .guarded else .ordinary
  | .plain =>
    if c == '\\' then .backslash
    else if c == '\'' then .singleQuote
    else if c == '"' then .doubleQuote
    else if c == '$' then .dollar
    else if c == '\x7d' then .closingBrace
    else if c == backTick then .backQuote
    else if "<>();&| \t".toList.contains c then .separator
    else .ordinary
  | .double =>
    if c == '\\' then .backslash
    else if c == '"' then .closingQuote
    else if c == '$' then .dollar
    else if c == '\x7d' then .closingBrace
    else if c == backTick then .backQuote
    else if guardedChars.contains c then .guarded
    else .ordinary
  | .arithmetic =>
    if c == '\\' then .backslash
    else if c == '$' then .dollar
    else if c == '\x7d' then .closingBrace
    else if c == backTick then .backQuote
    else if c == '(' then .opening
    else if c == ')' then .closing
    else .ordinary

structure Level where
  quotes : Quotes
  braces : Nat
  doubledBraces : Nat
  innerQuotes : Bool
  endsWithBrace : Bool
  isDouble : Bool
  parentheses : Nat
  deriving DecidableEq, Repr

def Level.start (quotes : Quotes) : Level := ⟨quotes, 0, 0, false, false, quotes == .double, 0⟩

/-- A word while it is scanned; the last item comes first. -/
structure Scan where
  items : List Item
  level : Level
  outer : List Level
  quoted : Bool

namespace Scan

def start (quotes : Quotes) : Scan := ⟨[], .start quotes, [], false⟩

def add (s : Scan) (i : Item) : Scan := { s with items := i :: s.items }

def push (s : Scan) (l : Level) : Scan := { s with level := l, outer := s.level :: s.outer }

def pop (s : Scan) : Scan :=
  match s.outer with
  | l :: rest => { s with level := l, outer := rest }
  | [] => s

def splits (s : Scan) : Bool := s.level.quotes == .plain && s.level.braces == 0

def addMark (s : Scan) (isDocument : Bool) : Scan := if isDocument then s else s.add .quoteMark

def toggle (s : Scan) (isDocument : Bool) : Scan :=
  let l := s.level
  let s := if l.braces = 0 then s else { s with level := { l with innerQuotes := !l.innerQuotes } }
  s.addMark isDocument

def openDouble (s : Scan) (isDocument : Bool) : Scan :=
  ({ s with level := { s.level with quotes := .double, isDouble := true } }).toggle isDocument

def closeQuote (s : Scan) (isDocument : Bool) (c : Char) : Scan :=
  if isDocument && s.level.braces = 0 then s.add (.char c)
  else
    let l := s.level
    let l := if l.doubledBraces = 0 then { l with quotes := .plain, isDouble := false } else l
    let s := { s with level := l, quoted := true }
    if c == '"' then s.toggle isDocument else s.addMark isDocument

def closeBrace (s : Scan) : Scan :=
  let l := s.level
  if l.innerQuotes || l.braces = 0 then s.add (.char '\x7d')
  else
    let l := { l with braces := l.braces - 1 }
    let s := { s with level := l }
    let s := if l.braces = 0 && l.endsWithBrace then s.pop
      else if 0 < l.doubledBraces then { s with level := { l with doubledBraces := l.doubledBraces - 1 } }
      else s
    s.add .endOfParameter

/-- Adds a parameter. Behind some uses of it a word follows, which has a level of its own if its rules are not
those that hold outside. -/
def addParameter (s : Scan) (name : Chars) (use : ParameterUse) : Scan :=
  let quotes := match use with
    | .trimmed .. => .plain
    | _ => if s.level.quotes == .arithmetic then .double else s.level.quotes
  let s :=
    if !Item.takesWord use then s
    else
      let s :=
        if quotes != s.level.quotes || s.level.innerQuotes then
          s.push { Level.start quotes with endsWithBrace := true, isDouble := quotes != .plain }
        else s
      let l := s.level
      { s with level := { l with
          braces := l.braces + 1
          doubledBraces := if l.isDouble then l.doubledBraces + 1 else l.doubledBraces } }
  s.add (.parameter name use)

/-- Reads an escaped character behind its backslash. In double quotes most characters keep the backslash. -/
def escape (s : Scan) (isDocument : Bool) (c : Char) : Scan :=
  let l := s.level
  let keeps := l.isDouble && c != '\\' && c != backTick && c != '$' &&
    (c != '"' || (isDocument && l.braces = 0)) && (c != '\x7d' || l.braces = 0)
  let s := if keeps then s.add (.escaped '\\') else s
  { s.add (.escaped c) with quoted := true }

def problem? (s : Scan) (isDocument : Bool) : Option ScriptProblem :=
  if s.level.quotes == .arithmetic then some .openArithmetic
  else if s.level.quotes != .plain && !isDocument then some .openQuote
  else if s.level.braces ≠ 0 then some .openBrace
  else none

def descriptor? (s : Scan) : Option (Option Nat) :=
  if s.quoted then none
  else
    match s.items with
    | [] => some none
    | [.char c] => if c.isDigit then some (some (c.toNat - 48)) else none
    | _ => none

end Scan

def isSpecialName (c : Char) : Bool := c.isDigit || "!#$*-?@".toList.contains c

def markUse? (orEmpty : Bool) : Char → Option ParameterUse
  | '-' => some (.alternative .default orEmpty)
  | '+' => some (.alternative .replacement orEmpty)
  | '?' => some (.alternative .complaint orEmpty)
  | '=' => some (.alternative .assignment orEmpty)
  | _ => none

namespace Reading

def charOf (x : Option Symbol) : Option Char :=
  match x with
  | some (.char c) => some c
  | _ => none

def parameterName (c : Char) (fuel : Nat) : Reading Chars :=
  takeWhile (if Chars.isNameStart c then Chars.isNameChar else Char.isDigit) fuel [c]

def parameterMark : Reading ParameterUse := do
  let x ← nextJoined
  match charOf x with
  | some '\x7d' => pure .value
  | some ':' =>
    match charOf (← nextJoined) with
    | some c => pure ((markUse? true c).getD .faulty)
    | none => pure .faulty
  | some c =>
    if c == '#' || c == '%' then return .trimmed (c == '#') (← accept c)
    else pure ((markUse? false c).getD .faulty)
  | none => pure .faulty

def bracedParameter (fuel : Nat) : Reading (Chars × ParameterUse) := do
  let x ← nextJoined
  match charOf x with
  | some '\x7d' =>
    back x
    pure ([], .faulty)
  | some c =>
    if Chars.isNameStart c || c.isDigit then
      let name ← parameterName c fuel
      return (name, ← parameterMark)
    else if c == '#' then
      let y ← nextJoined
      match charOf y with
      | some d =>
        if Chars.isNameChar d then
          lengthOf (← parameterName d fuel)
        else
          let z ← nextJoined
          back z
          if d != '\x7d' && z == some (.char '\x7d') then
            if isSpecialName d then pure ([d], .length) else pure ([], .faulty)
          else
            back y
            return (['#'], ← parameterMark)
      | none =>
        back y
        return (['#'], ← parameterMark)
    else if isSpecialName c then return ([c], ← parameterMark)
    else pure ([], .faulty)
  | none => pure ([], .faulty)
where
  lengthOf (name : Chars) : Reading (Chars × ParameterUse) := do
    let x ← nextJoined
    back x
    pure (name, if x == some (.char '\x7d') then .length else .faulty)

def backQuotedText (isDouble : Bool) : Nat → Chars → Reading Chars
  | 0, acc => pure acc.reverse
  | fuel + 1, acc => do
    match ← nextJoined with
    | some (.char '\\') =>
      match ← next with
      | some (.char c) =>
        let escapes := c == '\\' || c == backTick || c == '$' || (isDouble && c == '"')
        backQuotedText isDouble fuel (if escapes then c :: acc else c :: '\\' :: acc)
      | _ => fail .openBackQuote
    | some (.char '\n') =>
      countLines 1
      backQuotedText isDouble fuel ('\n' :: acc)
    | some (.char c) => if c == backTick then pure acc.reverse else backQuotedText isDouble fuel (c :: acc)
    | some (.endOfAlias ..) => backQuotedText isDouble fuel acc
    | none => fail .openBackQuote

def redirectionOperator (c : Char) : Reading RedirectionOperator := do
  if c == '>' then
    if ← accept '>' then pure (.file .append)
    else if ← accept '|' then pure (.file .overwrite)
    else if ← accept '&' then pure .duplicate
    else pure (.file .write)
  else if ← accept '<' then return .document (← accept '-')
  else if ← accept '&' then pure .duplicate
  else if ← accept '>' then pure (.file .update)
  else pure (.file .read)

/-- Passes over the line that ends a document, if it comes next; then there is nothing more to read. -/
def documentLine (d : PendingDocument) (x : Option Symbol) : Reading (Option Symbol) := do
  back x
  let s ← get
  let input := if d.dropsTabs then s.input.dropWhile (· == .char '\t') else s.input
  let (line, rest) := Source.lineText [] input
  if line == d.mark then
    set { s with input := rest.drop 1, line := s.line + 1 }
    pure none
  else
    set { s with input }
    next

mutual

def scanLine : Nat → Option PendingDocument → Scan → Option Symbol → Reading (Scan × Option Symbol)
  | 0, _, s, x => pure (s, x)
  | fuel + 1, document, s, x => do
    match document with
    | some d => scanChar fuel document s (← documentLine d x)
    | none => scanChar fuel document s x

def scanChar : Nat → Option PendingDocument → Scan → Option Symbol → Reading (Scan × Option Symbol)
  | 0, _, s, x => pure (s, x)
  | fuel + 1, document, s, x => do
    match x with
    | none => pure (s, x)
    | some (.endOfAlias ..) => if s.splits then pure (s, x) else scanNext fuel document s
    | some (.char '\n') =>
      if s.splits then pure (s, x)
      else
        countLines 1
        scanLine fuel document (s.add (.char '\n')) (← if s.level.quotes == .single then next else nextJoined)
    | some (.char c) =>
      match CharClass.of s.level.quotes c with
      | .ordinary => scanNext fuel document (s.add (.char c))
      | .guarded =>
        scanNext fuel document (s.add (.escaped c))
      | .backslash =>
        match ← next with
        | some (.char e) => scanNext fuel document (s.escape document.isSome e)
        | y =>
          back y
          scanNext fuel document (s.add (.escaped '\\'))
      | .singleQuote =>
        scanNext fuel document
          (({ s with level := { s.level with quotes := .single } }).addMark document.isSome)
      | .doubleQuote => scanNext fuel document (s.openDouble document.isSome)
      | .closingQuote => scanNext fuel document (s.closeQuote document.isSome c)
      | .dollar => scanNext fuel document (← dollar fuel s)
      | .closingBrace => scanNext fuel document s.closeBrace
      | .opening =>
        let l := s.level
        scanNext fuel document (({ s with level := { l with parentheses := l.parentheses + 1 } }).add (.char c))
      | .closing =>
        let l := s.level
        if 0 < l.parentheses then
          scanNext fuel document (({ s with level := { l with parentheses := l.parentheses - 1 } }).add (.char c))
        else if ← accept ')' then scanNext fuel document (s.pop.add .endOfArithmetic)
        else scanNext fuel document (s.add (.char c))
      | .backQuote =>
        if (← get).checks.isMark then scanNext fuel document { s.add (.char c) with quoted := true }
        else
          let text ← backQuotedText s.level.isDouble fuel []
          scanNext fuel document (s.add (.script (← innerScript fuel text)))
      | .separator => if s.splits then pure (s, x) else scanNext fuel document (s.add (.char c))

def scanNext : Nat → Option PendingDocument → Scan → Reading (Scan × Option Symbol)
  | 0, _, s => pure (s, none)
  | fuel + 1, document, s => do
    scanChar fuel document s (← if s.level.quotes == .single then next else nextJoined)

def dollar : Nat → Scan → Reading Scan
  | 0, s => pure s
  | fuel + 1, s => do
    let x ← nextJoined
    let literal : Reading Scan := do
      back x
      pure (s.add (.char '$'))
    match charOf x with
    | none => literal
    | some c =>
      if (← get).checks.isMark then literal
      else if c == '(' then
        if ← accept '(' then pure ((s.push { Level.start .arithmetic with isDouble := true }).add .arithmetic)
        else return s.add (.script (← scriptInParentheses fuel))
      else if c == '\x7b' then
        let (name, use) ← bracedParameter fuel
        pure (s.addParameter name use)
      else if Chars.isNameStart c then return s.addParameter (← takeWhile Chars.isNameChar fuel [c]) .value
      else if isSpecialName c then pure (s.addParameter [c] .value)
      else literal

/-- Reads a script inside of a word up to its closing parenthesis. Documents of the commands around it stay
pending. -/
def scriptInParentheses : Nat → Reading Command
  | 0 => pure .nothing
  | fuel + 1 => do
    let pending := (← get).pending
    modify fun s => { s with pending := [] }
    let c ← list fuel false true
    if (← token fuel) != .closing then refuse (some .closing)
    modify fun s => { s with pending }
    pure c

def innerScript : Nat → Chars → Reading Command
  | 0, _ => pure .nothing
  | fuel + 1, text => do
    let before ← get
    set { before with input := text.map .char, line := 1, pending := [], again := false }
    let c ← list fuel false true
    modify fun s => { s with
      input := before.input
      line := before.line
      pending := before.pending
      again := false }
    pure c

def documents : Nat → Reading Unit
  | 0 => pure ()
  | fuel + 1 => do
    match (← get).pending with
    | [] => pure ()
    | d :: rest =>
      modify fun s => { s with pending := rest }
      let x ← if d.expands then nextJoined else next
      let (s, _) ← scanLine fuel (some d) (.start (if d.expands then .double else .single)) x
      match s.problem? true with
      | some p => fail p
      | none =>
        let w := if d.expands then Item.word true s.items.reverse else [.text (Item.text s.items.reverse) true]
        modify fun s => { s with documents := s.documents ++ [(d.id, w)] }
        documents fuel

def wordToken : Nat → Option Symbol → Reading Token
  | 0, _ => pure .endOfText
  | fuel + 1, x => do
    let (s, x) ← scanLine fuel none (.start .plain) x
    match s.problem? false with
    | some p => fail p
    | none =>
      match charOf x, s.descriptor? with
      | some c, some descriptor =>
        if c == '<' || c == '>' then
          let operator ← redirectionOperator c
          let descriptor := descriptor.getD (if c == '<' then 0 else 1)
          modify fun s => { s with redirection := (descriptor, operator), last := .redirection }
          pure .redirection
        else wordEnd s x
      | _, _ => wordEnd s x

def wordEnd (s : Scan) (x : Option Symbol) : Reading Token := do
  back x
  modify fun source => { source with items := s.items.reverse, quoted := s.quoted, last := .word }
  pure .word

def rawToken : Nat → Reading Token
  | 0 => pure .endOfText
  | fuel + 1 => do
    if (← get).again then
      modify fun s => { s with again := false }
      return (← get).last
    else
      let found (t : Token) : Reading Token := do
        modify fun s => { s with last := t }
        pure t
      let x ← nextJoined
      match x with
      | none => found .endOfText
      | some (.endOfAlias ..) => rawToken fuel
      | some (.char c) =>
        match c with
        | ' ' | '\t' => rawToken fuel
        | '#' =>
          skipLine
          rawToken fuel
        | '\n' =>
          countLines 1
          found .newline
        | '&' => if ← accept '&' then found .both else found .ampersand
        | '|' => if ← accept '|' then found .either else found .bar
        | ';' => if ← accept ';' then found .endOfBranch else found .semicolon
        | '(' => found .opening
        | ')' => found .closing
        | _ => wordToken fuel x

def tokenBehindLines : Nat → Token → Reading Token
  | 0, t => pure t
  | fuel + 1, t => do
    if t == .newline then
      documents fuel
      expecting .none
      tokenBehindLines fuel (← rawToken fuel)
    else pure t

def checkedToken : Nat → Checks → Reading Token
  | 0, _ => pure .endOfText
  | fuel + 1, checks => do
    let t ← rawToken fuel
    let t ← if checks.newlines then tokenBehindLines fuel t else pure t
    let s ← get
    let keywords := checks.keywords || s.checks.keywords
    let aliases := checks.aliases || s.checks.aliases
    expecting .none
    match (if t == .word && !s.quoted then Item.plainText? s.items else none) with
    | none => pure t
    | some text =>
      match if keywords then Token.ofWord? text else none with
      | some k =>
        modify fun s => { s with last := k }
        pure k
      | none =>
        match if aliases && !s.isInAlias text then s.aliases.get? text else none with
        | some replacement =>
          modify fun s => s.pushAlias text replacement
          checkedToken fuel { checks with keywords, aliases }
        | none => pure t

def token : Nat → Reading Token
  | 0 => pure .endOfText
  | fuel + 1 => do checkedToken fuel (← get).checks

def redirectionTarget : Nat → Reading Redirection
  | 0 => refuse none
  | fuel + 1 => do
    let (descriptor, operator) := (← get).redirection
    match operator with
    | .document _ => expecting { Checks.none with isMark := true }
    | _ => pure ()
    if (← token fuel) != .word then refuse none
    let s ← get
    match operator with
    | .file mode => return .file descriptor mode (← lastWord)
    | .duplicate => return .duplicate descriptor (← lastWord)
    | .document dropsTabs =>
      set { s with
        pending := s.pending ++ [PendingDocument.mk s.nextId (Item.text s.items) dropsTabs (!s.quoted)]
        nextId := s.nextId + 1 }
      pure (.document descriptor s.nextId)

/-- Reads a list of commands. A line on its own ends at its line end; an inner list goes on over lines up to a
token that ends lists, and may be empty only if `mayBeEmpty`. -/
def list : Nat → (isLine mayBeEmpty : Bool) → Reading Command
  | 0, _, _ => pure .nothing
  | fuel + 1, isLine, mayBeEmpty => listAfter fuel isLine mayBeEmpty .nothing

def listAfter : Nat → (isLine mayEnd : Bool) → Command → Reading Command
  | 0, _, _, first => pure first
  | fuel + 1, isLine, mayEnd, first => do
    expecting { Checks.laterCommand with newlines := !isLine }
    let t ← token fuel
    if t == .newline then
      documents fuel
      pure first
    else if t == .endOfText then listEnd fuel first
    else
      readAgain
      if mayEnd && !isLine && t.endsList then pure first
      else
        let c ← conditions fuel (← pipeline fuel)
        let t ← token fuel
        let c := if t == .ampersand then .background c else c
        let all := if first.isNothing then c else .sequence first c
        match t with
        | .endOfText => listEnd fuel all
        | .newline =>
          readAgain
          listAfter fuel isLine true all
        | .ampersand | .semicolon => listAfter fuel isLine true all
        | _ =>
          if isLine then refuse none
          readAgain
          pure all

def listEnd : Nat → Command → Reading Command
  | 0, c => pure c
  | fuel + 1, c => do
    documents fuel
    modify fun s => { s with again := true, last := .endOfText }
    pure c

def conditions : Nat → Command → Reading Command
  | 0, c => pure c
  | fuel + 1, c => do
    let t ← token fuel
    if t == .both || t == .either then
      expecting .laterCommand
      let second ← pipeline fuel
      conditions fuel (if t == .both then .both c second else .either c second)
    else
      readAgain
      pure c

def pipeline : Nat → Reading Command
  | 0 => pure .nothing
  | fuel + 1 => do
    let negated ← do
      if (← token fuel) == .keyword ['!'] then
        expecting .command
        pure true
      else
        readAgain
        pure false
    let first ← command fuel
    let stages ← moreStages fuel [first]
    readAgain
    let c := match stages with
      | [c] => c
      | l => .pipeline l
    pure (if negated then .negation c else c)

def moreStages : Nat → List Command → Reading (List Command)
  | 0, stages => pure stages
  | fuel + 1, stages => do
    if (← token fuel) == .bar then
      expecting .laterCommand
      let c ← command fuel
      moreStages fuel (stages ++ [c])
    else pure stages

def command : Nat → Reading Command
  | 0 => pure .nothing
  | fuel + 1 => do
    let line := (← get).line
    let t ← token fuel
    match t with
    | .word | .redirection =>
      readAgain
      simple fuel (← get).line .command [] [] []
    | .opening =>
      let body ← list fuel false false
      expect fuel .closing
      return .subshell line body (← redirections fuel)
    | .keyword name =>
      match String.ofList name with
      | "\x7b" =>
        let body ← list fuel false false
        expect fuel (.keyword ['\x7d'])
        wrapped fuel line body
      | "if" =>
        let c ← branches fuel
        expect fuel (.keyword "fi".toList)
        wrapped fuel line c
      | "while" | "until" =>
        let condition ← list fuel false false
        expect fuel (.keyword "do".toList)
        let body ← list fuel false false
        expect fuel (.keyword "done".toList)
        wrapped fuel line (.loop (name == "until".toList) condition body)
      | "for" =>
        let c ← each fuel line
        expect fuel (.keyword "done".toList)
        wrapped fuel line c
      | "case" =>
        let c ← choice fuel line
        wrapped fuel line c
      | _ => refuse none
    | _ => refuse none

def expect : Nat → Token → Reading Unit
  | 0, t => refuse (some t)
  | fuel + 1, t => do
    if (← token fuel) != t then refuse (some t)

def wrapped : Nat → (line : Nat) → Command → Reading Command
  | 0, _, c => pure c
  | fuel + 1, line, c => do
    let rs ← redirections fuel
    pure (if rs.isEmpty then c else .redirected line c rs)

def redirections : Nat → Reading (List Redirection)
  | 0 => pure []
  | fuel + 1 => do
    expecting .command
    moreRedirections fuel []

def moreRedirections : Nat → List Redirection → Reading (List Redirection)
  | 0, rs => pure rs
  | fuel + 1, rs => do
    if (← token fuel) == .redirection then
      let r ← redirectionTarget fuel
      moreRedirections fuel (rs ++ [r])
    else
      readAgain
      pure rs

/-- Goes on with a simple command. Only words before its name are looked up as aliases and taken for
assignments. -/
def simple : Nat → (line : Nat) → Checks → (assignments words : List Word) → List Redirection → Reading Command
  | 0, line, _, assignments, words, rs => pure (.simple line assignments words rs)
  | fuel + 1, line, checks, assignments, words, rs => do
    let isOpen := checks.aliases
    expecting { Checks.none with aliases := isOpen }
    match ← token fuel with
    | .word =>
      let w ← lastWord
      if isOpen && w.isAssignment then simple fuel line checks (assignments ++ [w]) words rs
      else simple fuel line .none assignments (words ++ [w]) rs
    | .redirection =>
      let r ← redirectionTarget fuel
      simple fuel line checks assignments words (rs ++ [r])
    | .opening =>
      match assignments, words, rs with
      | [], [w], [] => function fuel w
      | _, _, _ =>
        readAgain
        pure (.simple line assignments words rs)
    | _ =>
      readAgain
      pure (.simple line assignments words rs)

def function : Nat → Word → Reading Command
  | 0, _ => pure .nothing
  | fuel + 1, w => do
    if (← token fuel) != .closing then refuse (some .closing)
    let name := w.leadingText
    if w.length != 1 || !Chars.isName name || specialCommands.contains (String.ofList name) then
      fail .badFunctionName
    expecting .laterCommand
    let line := (← get).line
    return .define line name (← command fuel)

def branches : Nat → Reading Command
  | 0 => pure .nothing
  | fuel + 1 => do
    let condition ← list fuel false false
    expect fuel (.keyword "then".toList)
    let body ← list fuel false false
    let t ← token fuel
    if t == .keyword "elif".toList then return .branch condition body (← branches fuel)
    else if t == .keyword "else".toList then return .branch condition body (← list fuel false false)
    else
      readAgain
      pure (.branch condition body .nothing)

def words : Nat → List Word → Reading (List Word)
  | 0, ws => pure ws
  | fuel + 1, ws => do
    if (← token fuel) == .word then
      let w ← lastWord
      words fuel (ws ++ [w])
    else pure ws

/-- Reads a loop over items behind its first word. Without items it runs over the arguments. -/
def each : Nat → (line : Nat) → Reading Command
  | 0, _ => pure .nothing
  | fuel + 1, line => do
    let t ← token fuel
    let s ← get
    match Item.plainText? s.items with
    | some name =>
      if t != .word || s.quoted || !Chars.isName name then fail .badLoopVariable
      expecting .laterCommand
      let t ← token fuel
      let items ← do
        if t == .keyword "in".toList then
          let items ← words fuel []
          let last := (← get).last
          if last != .newline && last != .semicolon then refuse none
          pure items
        else
          if t != .semicolon then readAgain
          pure [[.parameter ['@'] .value [] true]]
      expecting .laterCommand
      expect fuel (.keyword "do".toList)
      return .each line name items (← list fuel false false)
    | none => fail .badLoopVariable

def patterns : Nat → List Word → Reading (List Word)
  | 0, ws => pure ws
  | fuel + 1, ws => do
    let w ← lastWord
    let ws := ws ++ [w]
    if (← token fuel) == .bar then
      let _ ← token fuel
      patterns fuel ws
    else pure ws

def choices : Nat → List (List Word × Command) → Reading (List (List Word × Command))
  | 0, acc => pure acc
  | fuel + 1, acc => do
    expecting { Checks.laterCommand with aliases := false }
    let t ← token fuel
    if t == .keyword "esac".toList then pure acc
    else
      if t == .opening then
        let _ ← token fuel
      let ws ← patterns fuel []
      if (← get).last != .closing then refuse (some .closing)
      let body ← list fuel false true
      let acc := acc ++ [(ws, body)]
      expecting { Checks.laterCommand with aliases := false }
      let t ← token fuel
      if t == .keyword "esac".toList then pure acc
      else if t == .endOfBranch then choices fuel acc
      else refuse (some .endOfBranch)

def choice : Nat → (line : Nat) → Reading Command
  | 0, _ => pure .nothing
  | fuel + 1, line => do
    if (← token fuel) != .word then refuse (some .word)
    let w ← lastWord
    expecting .laterCommand
    expect fuel (.keyword "in".toList)
    return .choice line w (← choices fuel [])

end

def line (fuel : Nat) : Reading (Option Command) := do
  let s ← get
  set { s with again := false, pending := [] }
  let c ← list fuel true false
  let s ← get
  pure (if c.isNothing && s.last == .endOfText then none else some c)

end Reading

def Source.readLine (s : Source) : Except LocatedProblem (Option Command × Source) :=
  (Reading.line (64 * s.input.length + 65536)).run s

end ToolPipeline.Shell
