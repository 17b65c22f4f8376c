import ToolPipeline.Proofs.ControlLine.Spelling

set_option autoImplicit false

/-!
How a control line is cut into tokens. `Cuts` describes the cut by the characters of the line alone: blanks,
and tokens of which a word is as long as it can be. `segmented` says that each line has one such cut and that
reading the line, however often it is done, tells the tokens of that cut and then how the line ends.
-/

namespace ToolPipeline.ControlLine

open Text (Blank isBlank dropBlanks)

structure Segment where
  gap : List Char
  text : List Char
  token : Token
  deriving DecidableEq, Repr

/-- The segments stand in front of the rest. A word goes on as long as there is something for it to go on with. -/
inductive Segments : List Char → List Segment → List Char → Prop
  | nil (s : List Char) : Segments s [] s
  | cons {gap x s rest : List Char} {t : Token} {l : List Segment} : Blank gap → t.Spelled x →
      t.EndsBefore s → Segments s l rest → Segments (gap ++ (x ++ s)) (⟨gap, x, t⟩ :: l) rest

structure Segmentation where
  segments : List Segment
  gap : List Char
  unclosed : Option (Char × List Char)
  deriving DecidableEq, Repr

namespace Segmentation

def front (g : Segmentation) : List Char := g.segments.flatMap (fun x => x.gap ++ x.text) ++ g.gap

def tail (g : Segmentation) : List Char :=
  match g.unclosed with
  | none => []
  | some (q, v) => q :: v

structure Cuts (g : Segmentation) (s : List Char) : Prop where
  segments : Segments s g.segments (g.gap ++ g.tail)
  gap : Blank g.gap
  unclosed : ∀ u ∈ g.unclosed, isQuote u.1 = true ∧ u.1 ∉ u.2

def answer (g : Segmentation) (n : Nat) : Except SyntaxError Token :=
  match g.segments[n]?, g.unclosed with
  | some x, _ => .ok x.token
  | none, none => .ok .endOfInput
  | none, some (q, _) => .error (.unterminatedQuote (Text.byteLength g.front) q)

end Segmentation

/-- The answer to the reading behind `n` others, when nothing is pushed back in between. -/
def Cursor.answer (c : Cursor) : Nat → Except SyntaxError Token
  | 0 => c.next.1
  | n + 1 => c.next.2.answer n

namespace Lexed

def answer (l : Lexed) (n : Nat) : Except SyntaxError Token :=
  match l.tokens[n]?, l.unclosed with
  | some t, _ => .ok t
  | none, none => .ok .endOfInput
  | none, some (o, q) => .error (.unterminatedQuote o q)

def tail (l : Lexed) : Lexed := ⟨l.tokens.tail, l.unclosed⟩

theorem answer_tail (l : Lexed) (n : Nat) : l.tail.answer n = l.answer (n + 1) := by simp [answer, tail]

end Lexed

variable {c : Cursor} {s rest : List Char} {ts : List Token} {l l' : List Segment} {g g' : Segmentation}

theorem dropBlanks_dropBlanks (s : List Char) : dropBlanks (dropBlanks s) = dropBlanks s :=
  Text.dropBlanks_append Text.blank_nil fun _ => Text.isBlank_of_mem_head?_dropBlanks

theorem next_lex (hp : c.pushedBack = false) {d : Lexed} (hd : lexRest (Text.byteLength c.line) c.rest = d) :
    c.next.1 = d.answer 0 ∧ c.next.2.pushedBack = false ∧
      lexRest (Text.byteLength c.next.2.line) c.next.2.rest = d.tail := by
  rw [lexRest_eq] at hd
  subst hd
  cases hs : scan (dropBlanks c.rest) with
  | nothing =>
    have hend : lexRest (Text.byteLength c.line) [] = ⟨[], none⟩ := lexRest_eq_end_iff.2 Text.blank_nil
    simpa [Cursor.next, hp, hs, Lexed.answer, Lexed.tail, Cursor.deliver] using hend
  | token t rest => simp [Cursor.next, hp, hs, Lexed.answer, Lexed.tail, Cursor.deliver]
  | unclosed q =>
    have hagain : lexRest (Text.byteLength c.line) (dropBlanks c.rest) =
        ⟨[], some (Text.byteLength c.line - Text.byteLength (dropBlanks c.rest), q)⟩ := by
      rw [lexRest_eq, dropBlanks_dropBlanks, hs]
    simpa [Cursor.next, hp, hs, Lexed.answer, Lexed.tail, Cursor.offset] using hagain

theorem answer_eq_lexRest (hp : c.pushedBack = false) {d : Lexed}
    (hd : lexRest (Text.byteLength c.line) c.rest = d) (n : Nat) : c.answer n = d.answer n := by
  induction n generalizing c d with
  | zero => exact (next_lex hp hd).1
  | succ n ih =>
    obtain ⟨-, hp', hd'⟩ := next_lex hp hd
    rw [Cursor.answer, ih hp' hd', Lexed.answer_tail]

theorem answer_ofLine (line : String) (n : Nat) : (Cursor.ofLine line).answer n = (lex line).answer n :=
  answer_eq_lexRest rfl rfl n

theorem Token.Spelled.ne_endOfInput {t : Token} {x : List Char} (h : t.Spelled x) : t ≠ .endOfInput := by
  cases h with
  | operator hc => rcases eq_of_operator? hc with ⟨-, rfl⟩ | ⟨-, rfl⟩ | ⟨-, rfl⟩ | ⟨-, rfl⟩ <;> nofun
  | quoted => nofun
  | word => nofun

theorem Segments.begins (h : Segments s l rest) : Begins s (l.map (·.token)) rest := by
  induction h with
  | nil s => exact .nil s
  | cons hg ht he _ ih => exact .cons hg ht he ih

theorem Begins.exists_segments (h : Begins s ts rest) : ∃ l, Segments s l rest ∧ l.map (·.token) = ts := by
  induction h with
  | nil s => exact ⟨[], .nil s, rfl⟩
  | cons hg ht he _ ih =>
    obtain ⟨l, hl, rfl⟩ := ih
    exact ⟨_, .cons hg ht he hl, rfl⟩

theorem Segments.text_eq (h : Segments s l rest) : l.flatMap (fun x => x.gap ++ x.text) ++ rest = s := by
  induction h with
  | nil => rfl
  | cons _ _ _ _ ih => simp [← ih]

theorem Segments.token_ne_endOfInput (h : Segments s l rest) : ∀ x ∈ l, x.token ≠ .endOfInput := by
  induction h with
  | nil => simp
  | cons _ ht _ _ ih => exact List.forall_mem_cons.2 ⟨ht.ne_endOfInput, ih⟩

namespace Segmentation

theorem Cuts.isBlank_tail (h : g.Cuts s) : ∀ c ∈ g.tail.head?, isBlank c = false := by
  unfold tail
  cases hg : g.unclosed with
  | none => simp
  | some u => simpa using isBlank_of_isQuote (h.unclosed u hg).1

theorem Cuts.scan_ne_token (h : g.Cuts s) (t : Token) (r : List Char) :
    scan (dropBlanks (g.gap ++ g.tail)) ≠ .token t r := by
  have hu := h.unclosed
  cases hg : g.unclosed with
  | none =>
    have hb : Blank (g.gap ++ g.tail) := by simpa [tail, hg] using h.gap
    rw [scan_dropBlanks_eq_nothing_iff.2 hb]
    nofun
  | some u =>
    obtain ⟨q, v⟩ := u
    have ho : scan (dropBlanks (g.gap ++ g.tail)) = .unclosed q :=
      scan_dropBlanks_eq_unclosed_iff.2 ⟨g.gap, v, by simp [tail, hg], h.gap, hu _ hg⟩
    rw [ho]
    nofun

/-- The tokens of a cut are the ones that are read, and so is the quote behind them. -/
theorem Cuts.answer_eq {line : String} (h : g.Cuts line.toList) (n : Nat) : (lex line).answer n = g.answer n := by
  have hu := h.unclosed
  have hl := lexRest_of_begins h.segments.begins (Text.byteLength line.toList)
  have ht := h.segments.text_eq
  unfold answer
  cases hg : g.unclosed with
  | none =>
    have hb : Blank (g.gap ++ g.tail) := by simpa [tail, hg] using h.gap
    rw [lexRest_eq_end_iff.2 hb] at hl
    rw [lex, hl]
    cases hx : g.segments[n]? <;> simp [Lexed.answer, hx]
  | some u =>
    obtain ⟨q, v⟩ := u
    have hfront : line.toList = g.front ++ q :: v := by simp [← ht, front, tail, hg]
    have hsize : Text.byteLength g.front = Text.byteLength line.toList - Text.byteLength (q :: v) := by
      rw [hfront, Text.byteLength_append]
      omega
    have hend : lexRest (Text.byteLength line.toList) (g.gap ++ g.tail) = ⟨[], some (Text.byteLength g.front, q)⟩ :=
      lexRest_eq_unclosed_iff.2 ⟨g.gap, v, by simp [tail, hg], h.gap, (hu _ hg).1, (hu _ hg).2, hsize⟩
    rw [hend] at hl
    rw [lex, hl]
    cases hx : g.segments[n]? <;> simp [Lexed.answer, hx]

theorem exists_cuts (s : List Char) : ∃ g : Segmentation, g.Cuts s := by
  have ht : (lexRest 0 s).tokens = (lexRest 0 s).tokens ++ [] := (List.append_nil _).symm
  obtain ⟨rest, hb, hr⟩ := begins_of_lexRest ht
  obtain ⟨l, hl, -⟩ := hb.exists_segments
  cases hu : (lexRest 0 s).unclosed with
  | none =>
    rw [hu] at hr
    exact ⟨⟨l, rest, none⟩, by simpa [tail] using hl, lexRest_eq_end_iff.1 hr, nofun⟩
  | some u =>
    obtain ⟨o, q⟩ := u
    rw [hu] at hr
    obtain ⟨gap, v, rfl, hg, hq, hv, -⟩ := lexRest_eq_unclosed_iff.1 hr
    exact ⟨⟨l, gap, some (q, v)⟩, hl, hg, by simpa using ⟨hq, hv⟩⟩

end Segmentation

/-- A text begins with one list of segments only, if nothing can be read behind them. -/
theorem Segments.unique {rest' : List Char} (h : Segments s l rest) (h' : Segments s l' rest')
    (he : ∀ t r, scan (dropBlanks rest) ≠ .token t r) (he' : ∀ t r, scan (dropBlanks rest') ≠ .token t r) :
    l = l' ∧ rest = rest' := by
  induction h generalizing l' with
  | nil s =>
    cases h' with
    | nil => exact ⟨rfl, rfl⟩
    | cons hg ht hb _ => exact absurd (scan_dropBlanks_eq_token_iff.2 ⟨_, _, rfl, hg, ht, hb⟩) (he _ _)
  | @cons gap x s rest t l hg ht hb _ ih =>
    have hscan : scan (dropBlanks (gap ++ (x ++ s))) = .token t s :=
      scan_dropBlanks_eq_token_iff.2 ⟨gap, x, rfl, hg, ht, hb⟩
    generalize hu : gap ++ (x ++ s) = u at h' hscan
    cases h' with
    | nil => exact absurd hscan (he' _ _)
    | @cons gap' x' s' _ t' l' hg' ht' hb' hl' =>
      have hscan' : scan (dropBlanks (gap' ++ (x' ++ s'))) = .token t' s' :=
        scan_dropBlanks_eq_token_iff.2 ⟨gap', x', rfl, hg', ht', hb'⟩
      obtain ⟨rfl, rfl⟩ := Scanned.token.inj (hscan.symm.trans hscan')
      obtain ⟨rfl, rfl⟩ := ih hl' he
      -- What is left when the blanks are dropped is the written token with the same text behind it.
      obtain ⟨c, y, rfl, hc⟩ := ht.eq_cons
      obtain ⟨c', y', rfl, hc'⟩ := ht'.eq_cons
      have hdrop := congrArg dropBlanks hu
      rw [Text.dropBlanks_append hg (by simpa using hc), Text.dropBlanks_append hg' (by simpa using hc')] at hdrop
      have hx := List.append_cancel_right hdrop
      rw [hx] at hu ⊢
      rw [List.append_cancel_right hu]
      exact ⟨rfl, rfl⟩

namespace Segmentation

theorem Cuts.unique (h : g.Cuts s) (h' : g'.Cuts s) : g' = g := by
  obtain ⟨hl, hr⟩ := h'.segments.unique h.segments h'.scan_ne_token h.scan_ne_token
  have htail := congrArg dropBlanks hr
  rw [Text.dropBlanks_append h'.gap h'.isBlank_tail, Text.dropBlanks_append h.gap h.isBlank_tail] at htail
  rw [htail] at hr
  have hgap := List.append_cancel_right hr
  obtain ⟨l, gap, u⟩ := g
  obtain ⟨l', gap', u'⟩ := g'
  have hu : u' = u := by
    unfold tail at htail
    cases u <;> cases u' <;> simp_all [Prod.ext_iff]
  simp_all

theorem answer_of_lt {n : Nat} (h : n < g.segments.length) : g.answer n = .ok g.segments[n].token := by
  simp [answer, h]

theorem answer_of_le {n : Nat} (h : g.segments.length ≤ n) : g.answer n =
    match g.unclosed with
    | none => .ok .endOfInput
    | some (q, _) => .error (.unterminatedQuote (Text.byteLength g.front) q) := by
  rw [answer, List.getElem?_eq_none h]
  cases g.unclosed <;> rfl

theorem Cuts.answer_eq_endOfInput_iff (h : g.Cuts s) :
    (∃ n, g.answer n = .ok .endOfInput) ↔ g.unclosed = none := by
  constructor
  · rintro ⟨n, hn⟩
    rcases Nat.lt_or_ge n g.segments.length with hlt | hle
    · rw [answer_of_lt hlt, Except.ok.injEq] at hn
      exact absurd hn (h.segments.token_ne_endOfInput _ (List.getElem_mem hlt))
    · rw [answer_of_le hle] at hn
      cases hu : g.unclosed with
      | none => rfl
      | some u => simp [hu] at hn
  · intro hu
    exact ⟨g.segments.length, by rw [answer_of_le (Nat.le_refl _), hu]⟩

theorem answer_eq_error_iff :
    (∃ n o q, g.answer n = .error (.unterminatedQuote o q)) ↔ ∃ u, g.unclosed = some u := by
  constructor
  · rintro ⟨n, o, q, hn⟩
    rcases Nat.lt_or_ge n g.segments.length with hlt | hle
    · rw [answer_of_lt hlt] at hn
      cases hn
    · rw [answer_of_le hle] at hn
      cases hu : g.unclosed with
      | none => simp [hu] at hn
      | some u => exact ⟨u, rfl⟩
  · rintro ⟨⟨q, v⟩, hu⟩
    exact ⟨g.segments.length, _, q, by rw [answer_of_le (Nat.le_refl _), hu]⟩

end Segmentation

/-- Every line has one segmentation, and reading it tells the tokens of that and how the line ends. -/
theorem segmented (line : String) :
    ∃ g : Segmentation, g.Cuts line.toList ∧ (∀ g', g'.Cuts line.toList → g' = g) ∧
      (∀ n, (Cursor.ofLine line).answer n = g.answer n) ∧
      ((∃ n, (Cursor.ofLine line).answer n = .ok .endOfInput) ↔ g.unclosed = none) ∧
      ((∃ n o q, (Cursor.ofLine line).answer n = .error (.unterminatedQuote o q)) ↔ ∃ u, g.unclosed = some u) := by
  obtain ⟨g, hg⟩ := Segmentation.exists_cuts line.toList
  have hanswer (n : Nat) : (Cursor.ofLine line).answer n = g.answer n := (answer_ofLine line n).trans (hg.answer_eq n)
  simp only [hanswer]
  exact ⟨g, hg, fun _ hg' => hg.unique hg', fun _ => rfl, hg.answer_eq_endOfInput_iff, Segmentation.answer_eq_error_iff⟩

/-- A quote inside a word belongs to it, and behind a quoted text a word can begin at once. -/
example : (List.range 6).map (Cursor.ofLine "a'b' \"c\"d>'").answer =
    [.ok (.literal "a'b'" false), .ok (.literal "c" true), .ok (.literal "d" false), .ok .redirect,
      .error (.unterminatedQuote 10 '\''), .error (.unterminatedQuote 10 '\'')] := by decide +kernel

end ToolPipeline.ControlLine
