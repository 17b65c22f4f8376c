import ToolPipeline.Proofs.ControlLine.Grammar
import ToolPipeline.Proofs.ControlLine.Spelling

set_option autoImplicit false

/-!
Writing pipelines down as control lines. A pipeline has many written forms, for blanks and quotes can be
chosen; `parse` reads it from each of them, and answers only with pipelines that have one.
-/

namespace ToolPipeline.ControlLine

open Text (Blank isBlank)

/-- A text that can be written bare, or in quotes that do not occur in it. -/
def Expressible (s : String) : Prop := isBareWord s.toList = true ∨ ∃ q, isQuote q = true ∧ q ∉ s.toList

structure Command.Expressible (c : Command) : Prop where
  tool_ne : c.tool ≠ ""
  tool : ControlLine.Expressible c.tool
  action_ne : c.action ≠ ""
  action : ControlLine.Expressible c.action
  distinct : c.pairs.Distinct
  keys : ∀ e ∈ c.pairs.toList, isBareWord e.1.toList = true
  values : ∀ e ∈ c.pairs.toList, ControlLine.Expressible e.2

structure Pipeline.Expressible (p : Pipeline) : Prop where
  stdin : ∀ f ∈ p.stdin, f ≠ "" ∧ ControlLine.Expressible f
  stdout : ∀ f ∈ p.stdout, f ≠ "" ∧ ControlLine.Expressible f
  commands_ne : p.commands ≠ []
  commands : ∀ c ∈ p.commands, c.Expressible

def Token.ofText (s : String) : Token := .literal s !isBareWord s.toList

def pairTokens (e : String × String) : List Token := [.dash, .ofText e.1, .equals, .ofText e.2]

def Command.tokens (c : Command) : List Token :=
  .ofText c.tool :: .ofText c.action :: c.pairs.toList.flatMap pairTokens

def Pipeline.tokens (p : Pipeline) : List Token :=
  p.stdin.toList.flatMap (fun f => [.ofText f, .redirect]) ++
    ([.pipe].intercalate (p.commands.map (·.tokens)) ++ p.stdout.toList.flatMap fun f => [.redirect, .ofText f])

inductive Written : List Token → List Char → Prop
  | last {t : Token} {x : List Char} : t.Spelled x → Written [t] x
  | cons {t : Token} {x gap s : List Char} {ts : List Token} : t.Spelled x → gap ≠ [] → Blank gap →
      Written ts s → Written (t :: ts) (x ++ (gap ++ s))

def Token.spelling : Token → List Char
  | .literal s false => s.toList
  | .literal s true =>
    let q := if '"' ∈ s.toList then '\'' else '"'
    q :: (s.toList ++ [q])
  | .redirect => ['>']
  | .pipe => ['|']
  | .dash => ['-']
  | .equals => ['=']
  | .endOfInput => []

def Pipeline.render (p : Pipeline) : String := .ofList ([' '].intercalate (p.tokens.map Token.spelling))

variable {s : String} {t : Token} {ts us : List Token} {x : List Char}

def Token.Sayable (t : Token) : Prop := ∃ x, t.Spelled x

theorem sayable_literal_true_iff : (Token.literal s true).Sayable ↔ ∃ q, isQuote q = true ∧ q ∉ s.toList := by
  constructor
  · rintro ⟨x, h⟩
    generalize ht : Token.literal s true = t at h
    cases h with
    | operator hc => rcases eq_of_operator? hc with ⟨-, rfl⟩ | ⟨-, rfl⟩ | ⟨-, rfl⟩ | ⟨-, rfl⟩ <;> cases ht
    | quoted hq hb => cases ht; exact ⟨_, hq, by simpa using hb⟩
    | word => cases ht
  · rintro ⟨q, hq, hs⟩
    have h := Token.Spelled.quoted hq hs
    rw [String.ofList_toList] at h
    exact ⟨_, h⟩

theorem sayable_literal_false_iff : (Token.literal s false).Sayable ↔ isBareWord s.toList = true := by
  constructor
  · rintro ⟨x, h⟩
    generalize ht : Token.literal s false = t at h
    cases h with
    | operator hc => rcases eq_of_operator? hc with ⟨-, rfl⟩ | ⟨-, rfl⟩ | ⟨-, rfl⟩ | ⟨-, rfl⟩ <;> cases ht
    | quoted => cases ht
    | word hw => cases ht; simpa using hw
  · intro h
    have h := Token.Spelled.word h
    rw [String.ofList_toList] at h
    exact ⟨_, h⟩

theorem expressible_of_sayable {q : Bool} (h : (Token.literal s q).Sayable) : Expressible s := by
  cases q with
  | true => exact .inr (sayable_literal_true_iff.1 h)
  | false => exact .inl (sayable_literal_false_iff.1 h)

theorem sayable_ofText (h : Expressible s) : (Token.ofText s).Sayable := by
  unfold Token.ofText
  cases hb : isBareWord s.toList with
  | true => exact sayable_literal_false_iff.2 hb
  | false => exact sayable_literal_true_iff.2 (h.resolve_left (by simp [hb]))

theorem spelled_spelling (h : t.Sayable) : t.Spelled t.spelling := by
  obtain ⟨x, hx⟩ := h
  cases hx with
  | operator hc =>
    rcases eq_of_operator? hc with ⟨rfl, rfl⟩ | ⟨rfl, rfl⟩ | ⟨rfl, rfl⟩ | ⟨rfl, rfl⟩ <;>
      exact .operator hc
  | @quoted q body hq hb =>
    have hs : (if '"' ∈ body then '\'' else '"') ∉ body := by
      simp only [isQuote, Bool.or_eq_true, beq_iff_eq] at hq
      split
      · rcases hq with rfl | rfl
        · contradiction
        · exact hb
      · assumption
    simpa [Token.spelling] using Token.Spelled.quoted (by split <;> rfl) hs
  | word hw => simpa [Token.spelling] using Token.Spelled.word hw

theorem sayable_of_begins {s rest : List Char} (h : Begins s ts rest) : ∀ t ∈ ts, t.Sayable := by
  induction h with
  | nil => simp
  | cons _ ht _ _ ih => simpa using ⟨⟨_, ht⟩, ih⟩

theorem sayable_of_lex (h : lex s = ⟨ts, none⟩) : ∀ t ∈ ts, t.Sayable := by
  have ht : (lexRest (Text.byteLength s.toList) s.toList).tokens = ts ++ [] := by
    rw [List.append_nil]
    exact congrArg Lexed.tokens h
  obtain ⟨_, hb, -⟩ := begins_of_lexRest ht
  exact sayable_of_begins hb

theorem endsBefore_of_blank {gap : List Char} (hg : Blank gap) (hne : gap ≠ []) (r : List Char) :
    t.EndsBefore (gap ++ r) := by
  cases gap with
  | nil => contradiction
  | cons c gap =>
    have hc : isWordChar c = false := by simp [isWordChar, hg c List.mem_cons_self]
    unfold Token.EndsBefore
    split
    · simpa using hc
    · trivial

theorem endsBefore_nil (t : Token) : t.EndsBefore [] := by
  unfold Token.EndsBefore
  split <;> simp

theorem begins_of_written {s : List Char} (h : Written ts s) {gap : List Char} (hg : Blank gap) :
    Begins (gap ++ s) ts [] := by
  induction h generalizing gap with
  | last ht => simpa using Begins.cons hg ht (endsBefore_nil _) (.nil [])
  | cons ht hne hb _ ih => exact .cons hg ht (endsBefore_of_blank hb hne _) (ih hb)

theorem lex_of_written {s : List Char} (h : Written ts s) : lex (.ofList s) = ⟨ts, none⟩ := by
  have hb : Begins s ts [] := begins_of_written h Text.blank_nil
  rw [lex, String.toList_ofList]
  simpa [lexRest_eq_end_iff.2 Text.blank_nil] using lexRest_of_begins hb _

theorem written_intercalate (hne : ts ≠ []) (h : ∀ t ∈ ts, t.Sayable) :
    Written ts ([' '].intercalate (ts.map Token.spelling)) := by
  induction ts with
  | nil => contradiction
  | cons t ts ih =>
    have ht := spelled_spelling (h t List.mem_cons_self)
    cases ts with
    | nil => simpa [List.intercalate] using Written.last ht
    | cons u us =>
      have hs := ih (by simp) fun v hv => h v (List.mem_cons_of_mem _ hv)
      exact Written.cons ht (by simp) (by simp [Blank]; decide) hs

namespace Grammar

theorem pairs_flatMap {l : List (String × String)} (h : ∀ e ∈ l, isBareWord e.1.toList = true) :
    Pairs (l.flatMap pairTokens) l := by
  induction l with
  | nil => exact .nil
  | cons e l ih =>
    have he : pairTokens e = [.dash, .literal e.1 false, .equals, .ofText e.2] := by
      simp [pairTokens, Token.ofText, h e List.mem_cons_self]
    rw [List.flatMap_cons, he]
    exact .cons (ih fun d hd => h d (List.mem_cons_of_mem _ hd))

theorem behind_tokens {c : Command} (h : c.Expressible) :
    Behind c.tool (.ofText c.action :: c.pairs.toList.flatMap pairTokens) c := by
  have hc := OrderedMap.collects_ofList c.pairs.toList
  rw [h.distinct.ofList_toList] at hc
  exact .intro h.tool_ne h.action_ne (pairs_flatMap h.keys) hc

theorem further_flatMap {cs : List Command} (h : ∀ c ∈ cs, c.Expressible) :
    Further (cs.flatMap fun c => .pipe :: c.tokens) cs := by
  induction cs with
  | nil => exact .nil
  | cons c cs ih =>
    exact .cons (behind_tokens (h c List.mem_cons_self)) (ih fun d hd => h d (List.mem_cons_of_mem _ hd))

theorem intercalate_tokens (c : Command) (cs : List Command) :
    [.pipe].intercalate ((c :: cs).map (·.tokens)) = c.tokens ++ cs.flatMap fun c => .pipe :: c.tokens := by
  induction cs generalizing c with
  | nil => simp [List.intercalate]
  | cons d cs ih =>
    rw [List.flatMap_cons, List.cons_append, ← ih d]
    simp [List.intercalate]

theorem redirection_tokens {stdout : Option String} (h : ∀ f ∈ stdout, f ≠ "") :
    Redirection (stdout.toList.flatMap fun f => [.redirect, .ofText f]) stdout := by
  cases stdout with
  | none => exact .nil
  | some f => exact .file (h f rfl)

theorem line_tokens {p : Pipeline} (h : p.Expressible) : Line p.tokens p := by
  obtain ⟨stdin, stdout, commands⟩ := p
  cases commands with
  | nil => exact absurd rfl h.commands_ne
  | cons c cs =>
    have ht : Tail c.tool _ stdout (c :: cs) :=
      .intro (behind_tokens (h.commands c List.mem_cons_self))
        (further_flatMap fun d hd => h.commands d (List.mem_cons_of_mem _ hd))
        (redirection_tokens fun f hf => (h.stdout f hf).1)
    unfold Pipeline.tokens
    rw [intercalate_tokens]
    cases stdin with
    | none =>
      have hl : Line (.ofText c.tool :: _) ⟨none, stdout, c :: cs⟩ := .fromTool ht
      simpa [Command.tokens] using hl
    | some f =>
      have hl : Line (.ofText f :: .redirect :: .ofText c.tool :: _) ⟨some f, stdout, c :: cs⟩ :=
        .fromFile (h.stdin f rfl).1 ht
      simpa [Command.tokens] using hl

theorem sayable_of_pairs {ps : List (String × String)} (h : Pairs ts ps) (hs : ∀ t ∈ ts, t.Sayable) :
    ∀ e ∈ ps, isBareWord e.1.toList = true ∧ Expressible e.2 := by
  induction h with
  | nil => simp
  | @cons key value q ts ps _ ih =>
    simp only [List.mem_cons, forall_eq_or_imp] at hs ⊢
    obtain ⟨-, hk, -, hv, hs⟩ := hs
    exact ⟨⟨sayable_literal_false_iff.1 hk, expressible_of_sayable hv⟩, ih hs⟩

theorem expressible_of_behind {tool : String} {q : Bool} {c : Command} (h : Behind tool ts c)
    (ht : (Token.literal tool q).Sayable) (hs : ∀ t ∈ ts, t.Sayable) : c.Expressible := by
  cases h with
  | intro htn han hp hc =>
    rw [List.forall_mem_cons] at hs
    obtain rfl := hc.eq_ofList
    have he := sayable_of_pairs hp hs.2
    exact {
      tool_ne := htn
      tool := expressible_of_sayable ht
      action_ne := han
      action := expressible_of_sayable hs.1
      distinct := OrderedMap.distinct_ofList _
      keys := fun e hm => (he e (OrderedMap.mem_of_mem_ofList hm)).1
      values := fun e hm => (he e (OrderedMap.mem_of_mem_ofList hm)).2 }

theorem expressible_of_further {cs : List Command} (h : Further ts cs) (hs : ∀ t ∈ ts, t.Sayable) :
    ∀ c ∈ cs, c.Expressible := by
  induction h with
  | nil => simp
  | @cons tool q ts us c cs hb _ ih =>
    simp only [List.mem_cons, List.mem_append] at hs
    rw [List.forall_mem_cons]
    exact ⟨expressible_of_behind hb (hs (.literal tool q) (by simp)) fun t ht => hs t (by simp [ht]),
      ih fun t ht => hs t (by simp [ht])⟩

theorem expressible_of_redirection {stdout : Option String} (h : Redirection ts stdout)
    (hs : ∀ t ∈ ts, t.Sayable) : ∀ f ∈ stdout, f ≠ "" ∧ Expressible f := by
  cases h with
  | nil => simp
  | @file name q hn =>
    rintro f ⟨⟩
    exact ⟨hn, expressible_of_sayable (hs (.literal name q) (by simp))⟩
  | unnamed => simp

theorem expressible_of_tail {tool : String} {q : Bool} {stdin stdout : Option String} {cs : List Command}
    (h : Tail tool ts stdout cs) (ht : (Token.literal tool q).Sayable) (hs : ∀ t ∈ ts, t.Sayable)
    (hi : ∀ f ∈ stdin, f ≠ "" ∧ Expressible f) : Pipeline.Expressible ⟨stdin, stdout, cs⟩ := by
  obtain ⟨hb, hf, hr⟩ := h
  simp only [List.mem_append] at hs
  refine ⟨hi, expressible_of_redirection hr fun t ht => hs t (.inr ht), by simp, ?_⟩
  rw [List.forall_mem_cons]
  exact ⟨expressible_of_behind hb ht fun t ht => hs t (.inl (.inl ht)),
    expressible_of_further hf fun t ht => hs t (.inl (.inr ht))⟩

theorem expressible_of_line {p : Pipeline} (h : Line ts p) (hs : ∀ t ∈ ts, t.Sayable) : p.Expressible := by
  cases h with
  | fromFile hf h =>
    simp only [List.forall_mem_cons] at hs
    refine expressible_of_tail h hs.2.2.1 hs.2.2.2 ?_
    rintro f ⟨⟩
    exact ⟨hf, expressible_of_sayable hs.1⟩
  | fromUnnamed h =>
    simp only [List.forall_mem_cons] at hs
    exact expressible_of_tail h hs.2.2.1 hs.2.2.2 (by simp)
  | fromTool h =>
    rw [List.forall_mem_cons] at hs
    exact expressible_of_tail h hs.1 hs.2 (by simp)

end Grammar

theorem sayable_pairTokens {e : String × String} (hk : isBareWord e.1.toList = true) (hv : Expressible e.2) :
    ∀ t ∈ pairTokens e, t.Sayable := by
  simp only [pairTokens, List.mem_cons, List.not_mem_nil, or_false, forall_eq_or_imp, forall_eq]
  exact ⟨⟨_, .operator (c := '-') rfl⟩, sayable_ofText (.inl hk), ⟨_, .operator (c := '=') rfl⟩, sayable_ofText hv⟩

theorem Command.Expressible.sayable {c : Command} (h : c.Expressible) : ∀ t ∈ c.tokens, t.Sayable := by
  unfold Command.tokens
  rw [List.forall_mem_cons, List.forall_mem_cons, List.forall_mem_flatMap]
  exact ⟨sayable_ofText h.tool, sayable_ofText h.action,
    fun e he => sayable_pairTokens (h.keys e he) (h.values e he)⟩

theorem Pipeline.Expressible.sayable {p : Pipeline} (h : p.Expressible) : ∀ t ∈ p.tokens, t.Sayable := by
  obtain ⟨stdin, stdout, commands⟩ := p
  cases commands with
  | nil => exact absurd rfl h.commands_ne
  | cons c cs =>
    have hr : Token.redirect.Sayable := ⟨_, .operator (c := '>') rfl⟩
    have hp : Token.pipe.Sayable := ⟨_, .operator (c := '|') rfl⟩
    unfold Pipeline.tokens
    rw [Grammar.intercalate_tokens, List.forall_mem_append, List.forall_mem_append, List.forall_mem_append]
    refine ⟨?_, ⟨(h.commands c List.mem_cons_self).sayable, ?_⟩, ?_⟩
    · rw [List.forall_mem_flatMap]
      intro f hf
      simpa using ⟨sayable_ofText (h.stdin f (by simpa using hf)).2, hr⟩
    · rw [List.forall_mem_flatMap]
      intro d hd
      rw [List.forall_mem_cons]
      exact ⟨hp, (h.commands d (List.mem_cons_of_mem _ hd)).sayable⟩
    · rw [List.forall_mem_flatMap]
      intro f hf
      simpa using ⟨hr, sayable_ofText (h.stdout f (by simpa using hf)).2⟩

theorem Pipeline.tokens_ne_nil {p : Pipeline} (h : p.commands ≠ []) : p.tokens ≠ [] := by
  obtain ⟨stdin, stdout, commands⟩ := p
  cases commands with
  | nil => contradiction
  | cons c cs =>
    unfold Pipeline.tokens
    rw [Grammar.intercalate_tokens]
    simp [Command.tokens]

theorem written_render {p : Pipeline} (h : p.Expressible) : Written p.tokens p.render.toList := by
  rw [Pipeline.render, String.toList_ofList]
  exact written_intercalate (Pipeline.tokens_ne_nil h.commands_ne) h.sayable

theorem parse_eq_ok_of_written {p : Pipeline} {s : List Char} (h : p.Expressible) (hs : Written p.tokens s) :
    parse (.ofList s) = .ok p := by
  rw [parse_eq_tokens, lex_of_written hs]
  exact Grammar.line_complete (Grammar.line_tokens h)

theorem expressible_of_parse {p : Pipeline} {line : String} (h : parse line = .ok p) : p.Expressible := by
  rw [parse_eq_tokens] at h
  obtain ⟨hu, hl⟩ := Grammar.line_sound h
  have hlex : lex line = ⟨(lex line).tokens, none⟩ := by rw [← hu]
  exact Grammar.expressible_of_line hl (sayable_of_lex hlex)

/-- The answers of the parser are the expressible pipelines. Each of them can be written, and is read from
everything that it is written as. -/
theorem parse_written (p : Pipeline) :
    (p.Expressible ↔ ∃ line, parse line = .ok p) ∧
      (p.Expressible → Written p.tokens p.render.toList ∧ ∀ s, Written p.tokens s → parse (.ofList s) = .ok p) := by
  refine ⟨⟨fun h => ⟨_, parse_eq_ok_of_written h (written_render h)⟩, ?_⟩, fun h => ⟨written_render h, ?_⟩⟩
  · rintro ⟨line, h⟩
    exact expressible_of_parse h
  · exact fun s hs => parse_eq_ok_of_written h hs

/-- Operators in quotes, a word with both quotes in it, and a value without characters. -/
def Pipeline.awkward : Pipeline :=
  ⟨some "my file", some "a>b", [⟨"it's-", "x'\"y", ⟨[("k", ""), ("m", "b\u00a0c"), ("n", "\"")]⟩⟩, ⟨"d", "e", ∅⟩]⟩

theorem parse_written_awkward :
    parse Pipeline.awkward.render = .ok .awkward ∧
      ∀ s, Written Pipeline.awkward.tokens s → parse (.ofList s) = .ok .awkward := by
  have h : parse Pipeline.awkward.render = .ok .awkward := by decide +kernel
  exact ⟨h, ((parse_written _).2 ((parse_written _).1.2 ⟨_, h⟩)).2⟩

end ToolPipeline.ControlLine
