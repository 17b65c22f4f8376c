import ToolPipeline.Proofs.ControlLine.Grammar
import ToolPipeline.Proofs.ControlLine.Spelling

set_option autoImplicit false

/-!
Where a control line is refused. The tokens in front of the place can be continued to a line of the
grammar, and together with the token at the place they cannot; nothing behind that token is looked at.
The one exception is an empty first literal, which shows to be no tool only behind the next token.
-/

namespace ToolPipeline.ControlLine

open Text (Blank isBlank)

def Viable (ts : List Token) : Prop := ∃ us p, Grammar.Line (ts ++ us) p

def Sentence (ts : List Token) : Prop := ∃ p, Grammar.Line ts p

namespace Tokens

variable {α β : Type} {f g : Option (Nat × Char) → List Token → Except SyntaxError α} {n : Nat} {e : SyntaxError}
  {t : Token} {ts us xs s : List Token} {u : Option (Nat × Char)} {x : Expectation}

/-- All of these tokens are taken, and more of them are asked for: a quote that is not closed behind them
is found. -/
def Takes (f : Option (Nat × Char) → List Token → Except SyntaxError α) (ts : List Token) : Prop :=
  ∀ o q, f (some (o, q)) ts = .error (.unterminatedQuote o q)

/-- What a failure behind `n` tokens tells. It is the same whatever stands behind the token that it
names. -/
inductive Fails (f : Option (Nat × Char) → List Token → Except SyntaxError α) (n : Nat)
    (u : Option (Nat × Char)) : List Token → SyntaxError → Prop
  | here {ts rest : List Token} {t : Token} {x : Expectation} : Takes f ts →
      (∀ u rest, f u (ts ++ t :: rest) = .error (.unexpectedToken (n + ts.length + 1) x t)) →
      Fails f n u (ts ++ t :: rest) (.unexpectedToken (n + ts.length + 1) x t)
  | atEnd {ts : List Token} {x : Expectation} : u = none → Takes f ts →
      Fails f n u ts (.unexpectedToken (n + ts.length + 1) x .endOfInput)
  | inQuote {ts : List Token} {o : Nat} {q : Char} : u = some (o, q) → Takes f ts →
      Fails f n u ts (.unterminatedQuote o q)

/-- Failures behind some tokens that were taken. How the reader goes on may depend on the next token. -/
theorem Fails.behind (xs : List Token) (h : Fails g (n + xs.length) u s e)
    (hf : ∀ u s', s'.head? = none ∨ s'.head? = s.head? → f u (xs ++ s') = g u s') : Fails f n u (xs ++ s) e := by
  have hn : ∀ ts : List Token, n + xs.length + ts.length + 1 = n + (xs ++ ts).length + 1 := by
    simp [Nat.add_assoc]
  cases h with
  | @here ts rest t x hg hr =>
    have hh : ∀ r, (ts ++ t :: r).head? = (ts ++ t :: rest).head? := by cases ts <;> simp
    have ht : Takes f (xs ++ ts) := fun o q => (hf _ _ (by cases ts <;> simp)).trans (hg o q)
    rw [hn] at hr ⊢
    rw [← List.append_assoc]
    exact .here ht fun u r => by rw [List.append_assoc, hf _ _ (.inr (hh r)), hr]
  | atEnd hu hg =>
    rw [hn]
    exact .atEnd hu fun o q => (hf _ _ (.inr rfl)).trans (hg o q)
  | inQuote hu hg => exact .inQuote hu fun o q => (hf _ _ (.inr rfl)).trans (hg o q)

theorem Fails.map (h : Fails f n u ts e) (k : α → β) : Fails (fun u ts => (f u ts).map k) n u ts e := by
  have ht : ∀ {ts}, Takes f ts → Takes (fun u ts => (f u ts).map k) ts :=
    fun h o q => congrArg (·.map k) (h o q)
  cases h with
  | here hf hr => exact .here (ht hf) fun u rest => by rw [hr]; rfl
  | atEnd hu hf => exact .atEnd hu (ht hf)
  | inQuote hu hf => exact .inQuote hu (ht hf)

theorem Fails.refusal (xs : List Token) (hx : Takes f xs)
    (hs : ∀ t r, s = t :: r → ∀ u r, f u (xs ++ t :: r) = .error (.unexpectedToken (n + xs.length + 1) x t)) :
    Fails f n u (xs ++ s) (refusal u (n + xs.length + 1) x s) := by
  cases s with
  | cons t r => exact .here hx (hs t r rfl)
  | nil =>
    rw [List.append_nil]
    cases u with
    | none => exact .atEnd rfl hx
    | some p => exact .inQuote rfl hx

theorem Fails.notLiteral (xs : List Token) (hx : Takes f xs)
    (hf : ∀ u t r, (∀ v q, t ≠ .literal v q) →
      f u (xs ++ t :: r) = .error (.unexpectedToken (n + xs.length + 1) x t))
    (hs : ∀ v q r, s = .literal v q :: r → False) :
    Fails f n u (xs ++ s) (Tokens.refusal u (n + xs.length + 1) x s) :=
  .refusal xs hx fun t r h u r' => hf u t r' fun v q ht => hs v q r (ht ▸ h)

theorem fails_further {done : List Command} {last : Command} (h : further u n done last ts = .error e) :
    Fails (fun u => further u n done last) n u ts e := by
  -- In each case the list is what was taken since the last whole parameter or command.
  fun_induction further u n done last ts with
  | case1 n done last k v q s ih =>
    exact .behind [.dash, .literal k false, .equals, .literal v q] (ih h) fun _ _ _ => by simp [further]
  | case2 n done last k s hne =>
    cases h
    refine .notLiteral [.dash, .literal k false, .equals] (fun _ _ => by simp [further, refusal]) ?_ hne
    intro u t r ht
    cases t <;> simp_all [further, refusal]
  | case3 n done last k s _ hne =>
    cases h
    refine .refusal [.dash, .literal k false] (fun _ _ => by simp [further, refusal]) ?_
    rintro t r rfl u r
    cases t with
    | equals => exact absurd rfl (hne _)
    | _ => simp [further, refusal]
  | case4 n done last s _ _ hne =>
    cases h
    refine .refusal [.dash] (fun _ _ => by simp [further, refusal]) ?_
    rintro t r rfl u r
    cases t with
    | literal k q =>
      cases q with
      | false => exact absurd rfl (hne k _)
      | true => simp [further, refusal]
    | _ => simp [further, refusal]
  | case5 n done last tool q s ht =>
    cases h
    have hx : Takes (fun u => further u n done last) [.pipe] := fun _ _ => by simp [further, refusal]
    refine .here hx fun u r => ?_
    rw [further.eq_def]
    simp [refusal, ht]
  | case6 n done last tool q ht action r s ha =>
    cases h
    have hx : Takes (fun u => further u n done last) [.pipe, .literal tool q] :=
      fun _ _ => by simp [further, refusal, ht]
    exact .here hx fun u r => by simp [further, refusal, ht, ha]
  | case7 n done last tool q ht action r s ha ih =>
    exact .behind [.pipe, .literal tool q, .literal action r] (ih h) fun _ _ _ => by simp [further, ht, ha]
  | case8 n done last tool q ht s hne =>
    cases h
    refine .notLiteral [.pipe, .literal tool q] (fun _ _ => by simp [further, refusal, ht]) ?_ hne
    intro u t r hl
    cases t <;> simp_all [further, refusal]
  | case9 n done last s hne =>
    cases h
    refine .notLiteral [.pipe] (fun _ _ => by simp [further, refusal]) ?_ hne
    intro u t r hl
    cases t <;> simp_all [further, refusal]
  | case10 => cases h
  | case11 n done last file q s he =>
    cases h
    refine .refusal [.redirect, .literal file q] (fun _ _ => by simp [further, refusal]) ?_
    rintro t r rfl u r
    simp [further, refusal]
  | case12 n done last s hne =>
    cases h
    refine .notLiteral [.redirect] (fun _ _ => by simp [further, refusal]) ?_ hne
    intro u t r hl
    cases t <;> simp_all [further, refusal]
  | case13 => cases h
  | case14 n done last s _ _ _ hd _ hb _ hr =>
    cases h
    refine .refusal [] (fun _ _ => by simp [further, refusal]) ?_
    rintro t r rfl u r
    cases t with
    | dash => exact absurd rfl (hd _)
    | pipe => exact absurd rfl (hb _)
    | redirect => exact absurd rfl (hr _)
    | _ => simp [further, refusal]

theorem fails_tail {stdin : Option String} {tool : String} (h : tail u n stdin tool ts = .error e) :
    Fails (fun u => tail u n stdin tool) n u ts e := by
  revert h
  fun_cases tail u n stdin tool ts with
  | case1 action q s ha =>
    intro h
    cases h
    have hx : Takes (fun u => tail u n stdin tool) [] := fun _ _ => by simp [tail, refusal]
    exact .here hx fun u r => by simp [tail, refusal, ha]
  | case2 action q s ha =>
    intro h
    cases hs : further u (n + 1) [] ⟨tool, action, ∅⟩ s with
    | ok r => rw [hs] at h; cases h
    | error e' =>
      rw [hs] at h
      cases h
      have hm := (fails_further hs).map fun r => (⟨stdin, r.1, r.2⟩ : Pipeline)
      exact .behind [.literal action q] hm fun _ _ _ => by simp [tail, ha]
  | case3 s hne =>
    intro h
    cases h
    refine .notLiteral [] (fun _ _ => by simp [tail, refusal]) ?_ hne
    intro u t r hl
    cases t <;> simp_all [tail, refusal]

inductive EmptyTool (u : Option (Nat × Char)) : List Token → SyntaxError → Prop
  | before {q : Bool} {t : Token} {rest : List Token} : t ≠ .redirect →
      EmptyTool u (.literal "" q :: t :: rest) (.unexpectedToken 1 .stdinOrTool (.literal "" true))
  | atEnd {q : Bool} : u = none →
      EmptyTool u [.literal "" q] (.unexpectedToken 1 .stdinOrTool (.literal "" true))

theorem fails_line (h : line u ts = .error e) : Fails line 0 u ts e ∨ EmptyTool u ts e := by
  revert h
  fun_cases line u ts with
  | case1 first q tool r s ht =>
    intro h
    cases h
    have hx : Takes line [.literal first q, .redirect] := fun _ _ => by simp [line, refusal]
    exact .inl (.here hx fun u r => by simp [line, refusal, ht])
  | case2 first q tool r s ht =>
    intro h
    exact .inl (.behind [.literal first q, .redirect, .literal tool r] (fails_tail h) fun _ _ _ => by simp [line, ht])
  | case3 first q s hne =>
    intro h
    cases h
    refine .inl (.notLiteral [.literal first q, .redirect] (fun _ _ => by simp [line, refusal]) ?_ hne)
    intro u t r hl
    cases t <;> simp_all [line, refusal]
  | case4 first q s _ hr he =>
    intro h
    cases h
    simp only [Bool.and_eq_true, Bool.not_eq_true', String.isEmpty_iff] at he
    obtain ⟨rfl, he⟩ := he
    cases s with
    | cons t r => exact .inr (.before fun ht => hr r (ht ▸ rfl))
    | nil => exact .inr (.atEnd (by simpa using he))
  | case5 first q s _ hr he =>
    intro h
    by_cases hf : first.isEmpty = true
    · obtain ⟨rfl, -⟩ : s = [] ∧ u ≠ none := by simpa [hf] using he
      cases h
      refine .inl (.refusal [.literal first q] (fun _ _ => by simp [line, tail, refusal]) ?_)
      intro t r hs
      cases hs
    · refine .inl (.behind [.literal first q] (fails_tail h) fun u s' hs => ?_)
      cases s' with
      | nil => simp [line, hf]
      | cons t r =>
        have ht : t ≠ .redirect := by
          rintro rfl
          obtain ⟨s', rfl⟩ := List.head?_eq_some_iff.1 (hs.resolve_left (by simp)).symm
          exact hr s' rfl
        simp_all [line]
  | case6 s _ _ hne =>
    intro h
    cases h
    refine .inl (.notLiteral [] (fun _ _ => by simp [line, refusal]) ?_ hne)
    intro u t r hl
    cases t <;> simp_all [line, refusal]

theorem eq_nil_of_refusal {o : Nat} {q : Char} (h : refusal u n x s = .unterminatedQuote o q) : s = [] := by
  cases s with
  | nil => rfl
  | cons => cases h

theorem rest_of_further {o : Nat} {q : Char} {done : List Command} {last : Command}
    (h : further u n done last ts = .error (.unterminatedQuote o q)) :
    ∃ us ps cs stdout, Grammar.Rest (ts ++ us) ps cs stdout := by
  fun_induction further u n done last ts with
  | case1 n done last k v r s ih =>
    obtain ⟨us, ps, cs, stdout, hr⟩ := ih h
    exact ⟨us, _, cs, stdout, hr.pair⟩
  | case2 n done last k s =>
    obtain rfl := eq_nil_of_refusal (Except.error.inj h)
    exact ⟨[.literal "" true], _, _, _, Grammar.Rest.nil.pair⟩
  | case3 n done last k s =>
    obtain rfl := eq_nil_of_refusal (Except.error.inj h)
    exact ⟨[.equals, .literal "" true], _, _, _, Grammar.Rest.nil.pair⟩
  | case4 n done last s =>
    obtain rfl := eq_nil_of_refusal (Except.error.inj h)
    exact ⟨[.literal "k" false, .equals, .literal "" true], _, _, _, Grammar.Rest.nil.pair⟩
  | case7 n done last tool q ht action r s ha ih =>
    obtain ⟨us, ps, cs, stdout, hr⟩ := ih h
    exact ⟨us, _, _, stdout, hr.command (Grammar.ne_empty_of_isEmpty ht) (Grammar.ne_empty_of_isEmpty ha)⟩
  | case8 n done last tool q ht s =>
    obtain rfl := eq_nil_of_refusal (Except.error.inj h)
    exact ⟨[.literal "a" false], _, _, _,
      Grammar.Rest.nil.command (Grammar.ne_empty_of_isEmpty ht) (by decide)⟩
  | case9 n done last s =>
    obtain rfl := eq_nil_of_refusal (Except.error.inj h)
    exact ⟨[.literal "t" false, .literal "a" false], _, _, _, Grammar.Rest.nil.command (by decide) (by decide)⟩
  | case11 n done last file q s =>
    obtain rfl := eq_nil_of_refusal (Except.error.inj h)
    exact ⟨[], _, _, _, Grammar.Rest.file⟩
  | case12 n done last s =>
    obtain rfl := eq_nil_of_refusal (Except.error.inj h)
    exact ⟨[.literal "" true], _, _, _, Grammar.Rest.file⟩
  | case14 n done last s =>
    obtain rfl := eq_nil_of_refusal (Except.error.inj h)
    exact ⟨[], _, _, _, Grammar.Rest.nil⟩
  | _ => cases h

theorem tail_of_rest {tool action : String} {q : Bool} {ps : List (String × String)} {cs : List Command}
    {stdout : Option String} (ht : tool ≠ "") (ha : action ≠ "") (h : Grammar.Rest ts ps cs stdout) :
    Grammar.Tail tool (.literal action q :: ts) stdout (⟨tool, action, .ofList ps⟩ :: cs) := by
  obtain ⟨hp, hf, hr⟩ := h
  have hb := Grammar.Behind.intro (q := q) ht ha hp (OrderedMap.collects_ofList ps)
  simpa using Grammar.Tail.intro hb hf hr

theorem tail_of_tail {o : Nat} {q : Char} {stdin : Option String} {tool : String} (ht : tool ≠ "")
    (h : tail u n stdin tool ts = .error (.unterminatedQuote o q)) :
    ∃ us stdout cs, Grammar.Tail tool (ts ++ us) stdout cs := by
  revert h
  fun_cases tail u n stdin tool ts with
  | case1 =>
    intro h
    cases h
  | case2 action r s ha =>
    intro h
    cases hs : further u (n + 1) [] ⟨tool, action, ∅⟩ s with
    | ok p => rw [hs] at h; cases h
    | error e =>
      rw [hs] at h
      cases h
      obtain ⟨us, ps, cs, stdout, hr⟩ := rest_of_further hs
      exact ⟨us, _, _, tail_of_rest ht (Grammar.ne_empty_of_isEmpty ha) hr⟩
  | case3 s =>
    intro h
    obtain rfl := eq_nil_of_refusal (Except.error.inj h)
    exact ⟨[.literal "a" false], _, _, tail_of_rest ht (by decide) .nil⟩

theorem viable_of_line {o : Nat} {q : Char} (h : line u ts = .error (.unterminatedQuote o q)) : Viable ts := by
  revert h
  fun_cases line u ts with
  | case2 first r tool r' s ht =>
    intro h
    obtain ⟨us, stdout, cs, hs⟩ := tail_of_tail (Grammar.ne_empty_of_isEmpty ht) h
    exact ⟨us, _, Grammar.line_fileName first r r' hs⟩
  | case3 first r s =>
    intro h
    obtain rfl := eq_nil_of_refusal (Except.error.inj h)
    exact ⟨[.literal "t" false, .literal "a" false], _,
      Grammar.line_fileName first r false (tail_of_rest (by decide) (by decide) .nil)⟩
  | case5 first r s _ _ he =>
    intro h
    by_cases hf : first.isEmpty = true
    · obtain ⟨rfl, -⟩ : s = [] ∧ u ≠ none := by simpa [hf] using he
      exact ⟨[.redirect, .literal "t" false, .literal "a" false], _,
        Grammar.line_fileName first r false (tail_of_rest (by decide) (by decide) .nil)⟩
    · obtain ⟨us, stdout, cs, hs⟩ := tail_of_tail (Grammar.ne_empty_of_isEmpty hf) h
      exact ⟨us, _, .fromTool hs⟩
  | case6 s =>
    intro h
    obtain rfl := eq_nil_of_refusal (Except.error.inj h)
    exact ⟨[.literal "t" false, .literal "a" false], _, .fromTool (tail_of_rest (by decide) (by decide) .nil)⟩
  | _ =>
    intro h
    cases h

theorem line_of_emptyTool {q : Bool} (ht : t ≠ .redirect) :
    line u (.literal "" q :: t :: s) = .error (.unexpectedToken 1 .stdinOrTool (.literal "" true)) := by
  cases t <;> simp_all [line]

/-- No line of the grammar fails, whatever part of it is behind the token that the failure names. -/
theorem takes_of_viable (h : Viable ts) : Takes line ts := by
  obtain ⟨us, p, hl⟩ := h
  intro o q
  have hp := Grammar.line_complete hl
  cases hr : line (some (o, q)) ts with
  | ok p' => cases (Grammar.line_sound hr).1
  | error e =>
    rcases fails_line hr with hf | he
    · cases hf with
      | here _ hf =>
        rw [List.append_assoc, List.cons_append, hf] at hp
        cases hp
      | atEnd hu => cases hu
      | inQuote hu => cases hu; rfl
    · cases he with
      | before ht =>
        rw [List.cons_append, List.cons_append, line_of_emptyTool ht] at hp
        cases hp
      | atEnd hu => cases hu

theorem takes_line_iff : Takes line ts ↔ Viable ts :=
  ⟨fun h => viable_of_line (h 0 '"'), takes_of_viable⟩

end Tokens

/-- A token of a text with the tokens in front of it and the text behind it. The last one is the end of
input. -/
inductive TokenAt (s : List Char) : List Token → Token → List Char → Prop
  | token {ts : List Token} {t : Token} {rest : List Char} : Begins s (ts ++ [t]) rest → TokenAt s ts t rest
  | endOfInput {ts : List Token} {gap : List Char} : Begins s ts gap → Blank gap → TokenAt s ts .endOfInput []

/-- The text behind the token can be replaced by any other that leaves the token as it is; the parser says
the same. -/
def Unread (line : String) (t : Token) (rest : List Char) : Prop :=
  ∃ front, line.toList = front ++ rest ∧
    (t ≠ .endOfInput → ∀ other, t.EndsBefore other → parse (.ofList (front ++ other)) = parse line)

def Inadmissible (ts : List Token) (t : Token) : Prop :=
  if t = .endOfInput then ¬ Sentence ts else ¬ Viable (ts ++ [t])

inductive Offends (line : String) : Nat → Token → Prop
  | intro {ts : List Token} {t : Token} {rest : List Char} : TokenAt line.toList ts t rest → Viable ts →
      Inadmissible ts t → Unread line t rest → Offends line (ts.length + 1) t

/-- The first literal is empty and this token, which is no redirection, follows it. -/
def EmptyFirst (line : String) (t : Token) (rest : List Char) : Prop :=
  TokenAt line.toList [.literal "" true] t rest ∧ t ≠ .redirect

inductive OpensQuote (line : String) (ts : List Token) : Nat → Char → Prop
  | intro {front gap behind : List Char} {q : Char} : line.toList = front ++ q :: behind →
      Begins line.toList ts (gap ++ q :: behind) → Blank gap → isQuote q = true → q ∉ behind →
      OpensQuote line ts (Text.byteLength front) q

variable {line : String} {ts us : List Token} {t : Token} {rest : List Char}

theorem begins_of_lex (ts us : List Token) (h : (lex line).tokens = ts ++ us) :
    ∃ rest, Begins line.toList ts rest ∧ lexRest (Text.byteLength line.toList) rest = ⟨us, (lex line).unclosed⟩ :=
  begins_of_lexRest h

theorem parse_of_begins (h : Begins line.toList ts rest) :
    parse line = Tokens.line (lexRest (Text.byteLength line.toList) rest).unclosed
      (ts ++ (lexRest (Text.byteLength line.toList) rest).tokens) := by
  rw [parse_eq_tokens, lex, lexRest_of_begins h]

theorem unread_of_begins {e : SyntaxError} (ts : List Token) (h : Begins line.toList (ts ++ [t]) rest)
    (hf : ∀ u us, Tokens.line u (ts ++ t :: us) = .error e) : Unread line t rest := by
  obtain ⟨front, -, hs, hb⟩ := h.exists_front
  refine ⟨front, hs, fun _ other ho => ?_⟩
  have hb' := hb other ho
  rw [← String.toList_ofList (l := front ++ other)] at hb'
  rw [parse_of_begins h, parse_of_begins hb', List.append_assoc, List.append_assoc]
  exact (hf _ _).trans (hf _ _).symm

theorem unread_endOfInput (line : String) : Unread line .endOfInput [] :=
  ⟨line.toList, by simp, fun h => absurd rfl h⟩

theorem not_viable_of_line_eq_error {e : SyntaxError} (h : ∀ u us, Tokens.line u (ts ++ us) = .error e) :
    ¬ Viable ts := by
  rintro ⟨us, p, hl⟩
  have hp := Grammar.line_complete hl
  rw [h] at hp
  cases hp

theorem offends_of_fails {p : Nat} {x : Expectation}
    (h : Tokens.Fails Tokens.line 0 (lex line).unclosed (lex line).tokens (.unexpectedToken p x t))
    (hp : parse line = .error (.unexpectedToken p x t)) : Offends line p t := by
  rw [parse_eq_tokens] at hp
  generalize hl : (lex line).tokens = ts at h hp
  cases h with
  | @here ts us t x ht hf =>
    obtain ⟨rest, hb, -⟩ := begins_of_lex (ts ++ [t]) us (by simpa using hl)
    have hne : t ≠ .endOfInput := by
      rintro rfl
      exact proper_of_lexRest _ _ _ (show .endOfInput ∈ (lex line).tokens by simp [hl])
    rw [Nat.zero_add] at hf ⊢
    refine .intro (.token hb) (Tokens.takes_line_iff.1 ht) ?_ (unread_of_begins ts hb hf)
    rw [Inadmissible, if_neg hne]
    exact not_viable_of_line_eq_error fun u us => by simpa using hf u us
  | atEnd hu ht =>
    obtain ⟨gap, hb, hg⟩ := begins_of_lex ts [] (by simpa using hl)
    rw [hu] at hg hp
    rw [Nat.zero_add]
    refine .intro (.endOfInput hb (lexRest_eq_end_iff.1 hg)) (Tokens.takes_line_iff.1 ht) ?_ (unread_endOfInput line)
    rw [Inadmissible, if_pos rfl]
    rintro ⟨p, hs⟩
    rw [Grammar.line_complete hs] at hp
    cases hp

theorem eq_true_of_proper {q : Bool} (h : (Token.literal "" q).Proper) : q = true := by
  cases q with
  | true => rfl
  | false => cases h

theorem emptyFirst_of_emptyTool {e : SyntaxError} (h : Tokens.EmptyTool (lex line).unclosed (lex line).tokens e) :
    e = .unexpectedToken 1 .stdinOrTool (.literal "" true) ∧
      ∃ next rest, EmptyFirst line next rest ∧ Unread line next rest := by
  have hp : ∀ t ∈ (lex line).tokens, t.Proper := proper_of_lexRest _ _
  generalize hl : (lex line).tokens = ts at h hp
  cases h with
  | @before q t us ht =>
    obtain rfl := eq_true_of_proper (hp _ List.mem_cons_self)
    obtain ⟨rest, hb, -⟩ := begins_of_lex [.literal "" true, t] us hl
    exact ⟨rfl, t, rest, ⟨.token hb, ht⟩,
      unread_of_begins [.literal "" true] hb fun u us => Tokens.line_of_emptyTool ht⟩
  | @atEnd q hu =>
    obtain rfl := eq_true_of_proper (hp _ List.mem_cons_self)
    obtain ⟨gap, hb, hg⟩ := begins_of_lex [.literal "" true] [] hl
    rw [hu] at hg
    exact ⟨rfl, .endOfInput, [], ⟨.endOfInput hb (lexRest_eq_end_iff.1 hg), nofun⟩, unread_endOfInput line⟩

theorem parse_of_emptyFirst (h : EmptyFirst line t rest) :
    parse line = .error (.unexpectedToken 1 .stdinOrTool (.literal "" true)) := by
  obtain ⟨ht, hr⟩ := h
  cases ht with
  | token hb =>
    rw [parse_of_begins hb]
    exact Tokens.line_of_emptyTool hr
  | endOfInput hb hg =>
    rw [parse_of_begins hb, lexRest_eq_end_iff.2 hg]
    simp [Tokens.line]

theorem lex_of_opensQuote {o : Nat} {q : Char} (h : OpensQuote line ts o q) : lex line = ⟨ts, some (o, q)⟩ := by
  obtain ⟨hl, hb, hg, hq, hn⟩ := h
  rw [lex, lexRest_of_begins hb, lexRest_eq_unclosed_iff.2 ⟨_, _, rfl, hg, hq, hn, rfl⟩]
  simp [hl, Text.byteLength_append]

theorem opensQuote_of_lex {o : Nat} {q : Char} (h : lex line = ⟨ts, some (o, q)⟩) : OpensQuote line ts o q := by
  have ht : (lex line).tokens = ts ++ [] := by simp [h]
  obtain ⟨rest, hb, hr⟩ := begins_of_lex ts [] ht
  rw [h] at hr
  obtain ⟨gap, behind, rfl, hg, hq, hn, rfl⟩ := lexRest_eq_unclosed_iff.1 hr
  obtain ⟨front, hf⟩ := hb.exists_eq_append
  have hl : line.toList = (front ++ gap) ++ q :: behind := by simp [hf]
  have ho : Text.byteLength line.toList - Text.byteLength (q :: behind) = Text.byteLength (front ++ gap) := by
    rw [hl, Text.byteLength_append, Nat.add_sub_cancel]
  rw [ho]
  exact .intro hl hb hg hq hn

theorem opensQuote_iff {o : Nat} {q : Char} : OpensQuote line ts o q ↔ lex line = ⟨ts, some (o, q)⟩ :=
  ⟨lex_of_opensQuote, opensQuote_of_lex⟩

theorem parse_eq_unterminatedQuote_iff {o : Nat} {q : Char} :
    parse line = .error (.unterminatedQuote o q) ↔ ∃ ts, OpensQuote line ts o q ∧ Viable ts := by
  simp only [opensQuote_iff]
  constructor
  · intro h
    rcases Tokens.fails_line ((parse_eq_tokens line).symm.trans h) with hf | he
    · generalize hl : (lex line).tokens = ts at hf
      cases hf with
      | inQuote hu ht => exact ⟨ts, by rw [← hl, ← hu], Tokens.takes_line_iff.1 ht⟩
    · cases (emptyFirst_of_emptyTool he).1
  · rintro ⟨ts, hl, hv⟩
    rw [parse_eq_tokens, hl]
    exact Tokens.takes_line_iff.2 hv o q

/-- A line is refused at the first token that cannot stand behind the ones before it, or in the first quote
that is not closed if what stands before it can be continued. Only an empty first literal is refused later
than it is read: that it names no file shows at the next token. -/
theorem parse_refuses (line : String) :
    (∀ p x t, parse line = .error (.unexpectedToken p x t) →
      Offends line p t ∨
        p = 1 ∧ t = .literal "" true ∧ ∃ next rest, EmptyFirst line next rest ∧ Unread line next rest) ∧
    (∀ next rest, EmptyFirst line next rest →
      parse line = .error (.unexpectedToken 1 .stdinOrTool (.literal "" true))) ∧
    ∀ o q, parse line = .error (.unterminatedQuote o q) ↔ ∃ ts, OpensQuote line ts o q ∧ Viable ts := by
  refine ⟨fun p x t h => ?_, fun _ _ h => parse_of_emptyFirst h, fun o q => parse_eq_unterminatedQuote_iff⟩
  rcases Tokens.fails_line ((parse_eq_tokens line).symm.trans h) with hf | he
  · exact .inl (offends_of_fails hf h)
  · obtain ⟨he, hn⟩ := emptyFirst_of_emptyTool he
    cases he
    exact .inr ⟨rfl, rfl, hn⟩

end ToolPipeline.ControlLine
