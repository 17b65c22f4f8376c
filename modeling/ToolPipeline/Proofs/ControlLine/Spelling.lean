import ToolPipeline.Proofs.ControlLine.Lexer
import ToolPipeline.Proofs.Text.Blank
import ToolPipeline.Proofs.Text.Cut
import ToolPipeline.Proofs.Text.Utf8

set_option autoImplicit false

/-!
How tokens are written on a line. `Begins` says which tokens a text begins with and what stands behind
them, in terms of the characters alone; `lexRest_of_begins` and `begins_of_lexRest` say that reading
finds just these.
-/

namespace ToolPipeline

namespace ControlLine

open Text (Blank isBlank dropBlanks)

/-- A word that needs no quotes: it has no blanks and no operators, and no quote in front. -/
def isBareWord : List Char → Bool
  | [] => false
  | c :: s => !isQuote c && (c :: s).all isWordChar

inductive Token.Spelled : Token → List Char → Prop
  | operator {c : Char} {t : Token} : operator? c = some t → Spelled t [c]
  | quoted {q : Char} {body : List Char} : isQuote q = true → q ∉ body →
      Spelled (.literal (.ofList body) true) (q :: (body ++ [q]))
  | word {w : List Char} : isBareWord w = true → Spelled (.literal (.ofList w) false) w

/-- The token can end in front of this text, for a bare word goes as far as it can. -/
def Token.EndsBefore : Token → List Char → Prop
  | .literal _ false, rest => ∀ c ∈ rest.head?, isWordChar c = false
  | _, _ => True

inductive Begins : List Char → List Token → List Char → Prop
  | nil (s : List Char) : Begins s [] s
  | cons {gap x s rest : List Char} {t : Token} {ts : List Token} : Blank gap → t.Spelled x →
      t.EndsBefore s → Begins s ts rest → Begins (gap ++ (x ++ s)) (t :: ts) rest

variable {s rest x : List Char} {t : Token} {ts us : List Token} {total : Nat}

theorem eq_of_operator? {c : Char} (h : operator? c = some t) :
    c = '>' ∧ t = .redirect ∨ c = '|' ∧ t = .pipe ∨ c = '-' ∧ t = .dash ∨ c = '=' ∧ t = .equals := by
  unfold operator? at h
  grind

theorem isBlank_of_operator? {c : Char} (h : operator? c = some t) : isBlank c = false := by
  rcases eq_of_operator? h with ⟨rfl, -⟩ | ⟨rfl, -⟩ | ⟨rfl, -⟩ | ⟨rfl, -⟩ <;> decide

theorem endsBefore_of_operator? {c : Char} (h : operator? c = some t) (rest : List Char) : t.EndsBefore rest := by
  rcases eq_of_operator? h with ⟨-, rfl⟩ | ⟨-, rfl⟩ | ⟨-, rfl⟩ | ⟨-, rfl⟩ <;> trivial

theorem isBlank_of_isQuote {c : Char} (h : isQuote c = true) : isBlank c = false := by
  simp only [isQuote, Bool.or_eq_true, beq_iff_eq] at h
  rcases h with rfl | rfl <;> decide

theorem operator?_of_isQuote {c : Char} (h : isQuote c = true) : operator? c = none := by
  simp only [isQuote, Bool.or_eq_true, beq_iff_eq] at h
  rcases h with rfl | rfl <;> decide

theorem isWordChar_iff {c : Char} : isWordChar c = true ↔ isBlank c = false ∧ operator? c = none := by
  simp [isWordChar]

theorem isBareWord_cons {c : Char} {w : List Char} :
    isBareWord (c :: w) = true ↔ isQuote c = false ∧ isWordChar c = true ∧ ∀ d ∈ w, isWordChar d = true := by
  simp [isBareWord]

theorem Token.Spelled.eq_cons (h : t.Spelled x) : ∃ c y, x = c :: y ∧ isBlank c = false := by
  cases h with
  | operator hc => exact ⟨_, _, rfl, isBlank_of_operator? hc⟩
  | quoted hq => exact ⟨_, _, rfl, isBlank_of_isQuote hq⟩
  | word hw =>
    cases x with
    | nil => simp [isBareWord] at hw
    | cons c w => exact ⟨c, w, rfl, (isWordChar_iff.1 (isBareWord_cons.1 hw).2.1).1⟩

theorem scan_of_spelled (h : t.Spelled x) (hr : t.EndsBefore rest) : scan (x ++ rest) = .token t rest := by
  cases h with
  | operator hc => simp [scan, hc]
  | @quoted q body hq hb =>
    have hc : Text.cut [q] (body ++ [q] ++ rest) = some (body, rest) :=
      Text.cut_singleton_eq_some_iff.2 ⟨by simp, hb⟩
    simp only [scan, List.cons_append, operator?_of_isQuote hq, hq, if_true, hc]
  | word hw =>
    cases x with
    | nil => simp [isBareWord] at hw
    | cons c w =>
      obtain ⟨hq, hc, hw⟩ := isBareWord_cons.1 hw
      obtain ⟨ht, hd⟩ := Text.takeWhile_run hw hr
      simp [scan, (isWordChar_iff.1 hc).2, hq, ht, hd]

theorem spelled_of_scan (hs : ∀ c ∈ s.head?, isBlank c = false) (h : scan s = .token t rest) :
    ∃ x, s = x ++ rest ∧ t.Spelled x ∧ t.EndsBefore rest := by
  cases s with
  | nil => cases h
  | cons c s =>
    cases ho : operator? c with
    | some u =>
      simp only [scan, ho, Scanned.token.injEq] at h
      obtain ⟨rfl, rfl⟩ := h
      exact ⟨[c], rfl, .operator ho, endsBefore_of_operator? ho _⟩
    | none =>
      by_cases hq : isQuote c = true
      · cases hc : Text.cut [c] s with
        | none => simp [scan, ho, hq, hc] at h
        | some p =>
          simp only [scan, ho, hq, if_true, hc, Scanned.token.injEq] at h
          obtain ⟨rfl, rfl⟩ := h
          obtain ⟨hb, hn⟩ := Text.cut_singleton_eq_some_iff.1 hc
          exact ⟨c :: (p.1 ++ [c]), by simp [hb], .quoted hq hn, trivial⟩
      · simp only [scan, ho, hq, Bool.false_eq_true, if_false, Scanned.token.injEq] at h
        obtain ⟨rfl, rfl⟩ := h
        have hc : isWordChar c = true := isWordChar_iff.2 ⟨hs c rfl, ho⟩
        refine ⟨c :: s.takeWhile isWordChar, by simp, .word ?_, ?_⟩
        · exact isBareWord_cons.2 ⟨by simpa using hq, hc, fun d hd => List.mem_takeWhile_imp hd⟩
        · exact fun d hd => Text.eq_false_of_mem_head?_dropWhile hd

theorem scan_dropBlanks_eq_token_iff :
    scan (dropBlanks s) = .token t rest ↔
      ∃ gap x, s = gap ++ (x ++ rest) ∧ Blank gap ∧ t.Spelled x ∧ t.EndsBefore rest := by
  constructor
  · intro h
    obtain ⟨x, hx, ht, he⟩ := spelled_of_scan (fun _ => Text.isBlank_of_mem_head?_dropBlanks) h
    obtain ⟨gap, hg, hb⟩ := Text.exists_eq_append_dropBlanks s
    exact ⟨gap, x, hx ▸ hg, hb, ht, he⟩
  · rintro ⟨gap, x, rfl, hg, ht, he⟩
    obtain ⟨c, y, rfl, hc⟩ := ht.eq_cons
    rw [Text.dropBlanks_append hg (by simpa using hc), scan_of_spelled ht he]

theorem scan_dropBlanks_eq_nothing_iff : scan (dropBlanks s) = .nothing ↔ Blank s := by
  constructor
  · intro h
    obtain ⟨gap, hg, hb⟩ := Text.exists_eq_append_dropBlanks s
    cases hd : dropBlanks s with
    | nil => rw [hd, List.append_nil] at hg; exact hg ▸ hb
    | cons c r =>
      rw [hd] at h
      simp only [scan] at h
      repeat' split at h
      all_goals cases h
  · intro h
    have hd := Text.dropBlanks_append (s := []) h (by simp)
    rw [List.append_nil] at hd
    rw [hd]
    rfl

theorem scan_dropBlanks_eq_unclosed_iff {q : Char} :
    scan (dropBlanks s) = .unclosed q ↔ ∃ gap v, s = gap ++ q :: v ∧ Blank gap ∧ isQuote q = true ∧ q ∉ v := by
  constructor
  · intro h
    obtain ⟨gap, hg, hb⟩ := Text.exists_eq_append_dropBlanks s
    cases hd : dropBlanks s with
    | nil => rw [hd] at h; cases h
    | cons c v =>
      rw [hd] at h hg
      simp only [scan] at h
      split at h
      · cases h
      · split at h
        · next hq =>
          split at h
          · cases h
          · next hc =>
            cases h
            exact ⟨gap, v, hg, hb, hq, Text.cut_singleton_eq_none_iff.1 hc⟩
        · cases h
  · rintro ⟨gap, v, rfl, hg, hq, hv⟩
    rw [Text.dropBlanks_append hg (by simpa using isBlank_of_isQuote hq)]
    simp [scan, operator?_of_isQuote hq, hq, Text.cut_singleton_eq_none_iff.2 hv]

theorem Begins.exists_eq_append (h : Begins s ts rest) : ∃ front, s = front ++ rest := by
  induction h with
  | nil s => exact ⟨[], rfl⟩
  | @cons gap x s rest t ts _ _ _ _ ih =>
    obtain ⟨front, rfl⟩ := ih
    exact ⟨gap ++ (x ++ front), by simp⟩

theorem Token.EndsBefore.congr {s' : List Char} (h : t.EndsBefore s) (hs : s'.head? = s.head?) :
    t.EndsBefore s' := by
  unfold EndsBefore at *
  split at h
  · rwa [hs]
  · trivial

/-- What stands behind the last of the tokens can be replaced, as long as that token still ends there. -/
theorem Begins.exists_front (h : Begins s (ts ++ [t]) rest) :
    ∃ front, front ≠ [] ∧ s = front ++ rest ∧
      ∀ other, t.EndsBefore other → Begins (front ++ other) (ts ++ [t]) other := by
  induction ts generalizing s with
  | nil =>
    cases h with
    | @cons gap x _ _ _ _ hg ht _ hb =>
      cases hb
      obtain ⟨c, y, rfl, -⟩ := ht.eq_cons
      refine ⟨gap ++ (c :: y), by simp, by simp, fun other ho => ?_⟩
      rw [List.append_assoc]
      exact .cons hg ht ho (.nil other)
  | cons v ts ih =>
    cases h with
    | @cons gap x _ _ _ _ hg ht he hb =>
      obtain ⟨front, hne, rfl, hf⟩ := ih hb
      refine ⟨gap ++ (x ++ front), by simp [hne], by simp, fun other ho => ?_⟩
      have hv : v.EndsBefore (front ++ other) := he.congr (by cases front <;> simp_all)
      rw [List.append_assoc, List.append_assoc]
      exact .cons hg ht hv (hf other ho)

/-- Reading finds the tokens that a text begins with, and goes on behind them. -/
theorem lexRest_of_begins (h : Begins s ts rest) (total : Nat) :
    lexRest total s = ⟨ts ++ (lexRest total rest).tokens, (lexRest total rest).unclosed⟩ := by
  induction h with
  | nil => rfl
  | cons hg ht he _ ih =>
    rw [lexRest_eq, scan_dropBlanks_eq_token_iff.2 ⟨_, _, rfl, hg, ht, he⟩]
    simp only [ih, List.cons_append]

theorem begins_of_lexRest (h : (lexRest total s).tokens = ts ++ us) :
    ∃ rest, Begins s ts rest ∧ lexRest total rest = ⟨us, (lexRest total s).unclosed⟩ := by
  induction ts generalizing s with
  | nil => exact ⟨s, .nil s, by rw [← List.nil_append us, ← h]⟩
  | cons t ts ih =>
    rw [lexRest_eq] at h ⊢
    cases hs : scan (dropBlanks s) with
    | nothing => simp [hs] at h
    | unclosed q => simp [hs] at h
    | token v r =>
      simp only [hs, List.cons_append, List.cons.injEq] at h
      obtain ⟨rfl, h⟩ := h
      obtain ⟨gap, x, rfl, hg, ht, he⟩ := scan_dropBlanks_eq_token_iff.1 hs
      obtain ⟨rest, hb, hr⟩ := ih h
      exact ⟨rest, .cons hg ht he hb, hr⟩

theorem lexRest_eq_end_iff : lexRest total s = ⟨[], none⟩ ↔ Blank s := by
  rw [lexRest_eq, ← scan_dropBlanks_eq_nothing_iff]
  cases scan (dropBlanks s) <;> simp

theorem lexRest_eq_unclosed_iff {o : Nat} {q : Char} :
    lexRest total s = ⟨[], some (o, q)⟩ ↔
      ∃ gap v, s = gap ++ q :: v ∧ Blank gap ∧ isQuote q = true ∧ q ∉ v ∧ o = total - Text.byteLength (q :: v) := by
  rw [lexRest_eq]
  cases hs : scan (dropBlanks s) with
  | nothing =>
    refine ⟨by simp, fun ⟨gap, v, h, hg, hq, hv, _⟩ => ?_⟩
    cases hs.symm.trans (scan_dropBlanks_eq_unclosed_iff.2 ⟨gap, v, h, hg, hq, hv⟩)
  | token t r =>
    refine ⟨by simp, fun ⟨gap, v, h, hg, hq, hv, _⟩ => ?_⟩
    cases hs.symm.trans (scan_dropBlanks_eq_unclosed_iff.2 ⟨gap, v, h, hg, hq, hv⟩)
  | unclosed p =>
    simp only [Lexed.mk.injEq, true_and, Option.some.injEq, Prod.mk.injEq]
    constructor
    · rintro ⟨rfl, rfl⟩
      obtain ⟨gap, v, rfl, hg, hq, hv⟩ := scan_dropBlanks_eq_unclosed_iff.1 hs
      rw [Text.dropBlanks_append hg (by simpa using isBlank_of_isQuote hq)]
      exact ⟨gap, v, rfl, hg, hq, hv, rfl⟩
    · rintro ⟨gap, v, rfl, hg, hq, hv, rfl⟩
      have hd := Text.dropBlanks_append (s := q :: v) hg (by simpa using isBlank_of_isQuote hq)
      rw [hd] at hs ⊢
      refine ⟨rfl, ?_⟩
      have := scan_dropBlanks_eq_unclosed_iff.2 ⟨gap, v, rfl, hg, hq, hv⟩
      rw [hd, hs] at this
      exact Scanned.unclosed.inj this

end ControlLine

end ToolPipeline
