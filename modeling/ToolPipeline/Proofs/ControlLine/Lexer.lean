import ToolPipeline.ControlLine.Reading

set_option autoImplicit false

/-!
The tokens of a whole line, and how a cursor delivers them. A line ends cleanly or in a quote that is not
closed; the tokens before that quote are read in both cases.
-/

namespace ToolPipeline.ControlLine

/-- The tokens of a line, and the quote that cuts the reading short with the bytes before it. -/
structure Lexed where
  tokens : List Token
  unclosed : Option (Nat × Char)
  deriving DecidableEq, Repr

def lexRest (total : Nat) (s : List Char) : Lexed :=
  match h : scan (Text.dropBlanks s) with
  | .nothing => ⟨[], none⟩
  | .unclosed quote => ⟨[], some (total - Text.byteLength (Text.dropBlanks s), quote)⟩
  | .token t rest =>
    have : rest.length < s.length :=
      Nat.lt_of_lt_of_le (length_of_scan_eq_token h) (Text.length_dropBlanks_le s)
    let l := lexRest total rest
    ⟨t :: l.tokens, l.unclosed⟩
  termination_by s.length

def lex (line : String) : Lexed := lexRest (Text.byteLength line.toList) line.toList

theorem lexRest_eq (total : Nat) (s : List Char) : lexRest total s = match scan (Text.dropBlanks s) with
    | .nothing => ⟨[], none⟩
    | .unclosed quote => ⟨[], some (total - Text.byteLength (Text.dropBlanks s), quote)⟩
    | .token t rest => ⟨t :: (lexRest total rest).tokens, (lexRest total rest).unclosed⟩ := by
  rw [lexRest]
  split <;> simp_all

/-- A token as it can stand on a line: not the end of input, and no bare word without characters. -/
def Token.Proper : Token → Prop
  | .endOfInput => False
  | .literal text false => text.isEmpty = false
  | _ => True

theorem proper_of_operator? {c : Char} {t : Token} (h : operator? c = some t) : t.Proper := by
  unfold operator? at h
  split at h
  · cases h; trivial
  · split at h
    · cases h; trivial
    · split at h
      · cases h; trivial
      · split at h
        · cases h; trivial
        · cases h

theorem proper_of_scan {s r : List Char} {t : Token} (h : scan s = .token t r) : t.Proper := by
  cases s with
  | nil => simp [scan] at h
  | cons c s =>
    simp only [scan] at h
    split at h
    · next u hu =>
      injection h with ht
      exact ht ▸ proper_of_operator? hu
    · split at h
      · split at h
        · injection h with ht
          exact ht ▸ trivial
        · cases h
      · injection h with ht
        exact ht ▸ by simp [Token.Proper]

theorem proper_of_lexRest (total : Nat) (s : List Char) : ∀ t ∈ (lexRest total s).tokens, t.Proper := by
  fun_induction lexRest total s with
  | case1 => simp
  | case2 => simp
  | case3 s t rest h _ l ih =>
    simp only [List.mem_cons, forall_eq_or_imp]
    exact ⟨proper_of_scan h, ih⟩

namespace Cursor

inductive Delivers : Cursor → List Token → Prop
  | done {c d : Cursor} : c.next = (.ok .endOfInput, d) → Delivers c []
  | step {c d : Cursor} {t : Token} {ts : List Token} : c.next = (.ok t, d) → t ≠ .endOfInput →
      Delivers d ts → Delivers c (t :: ts)

/-- The cursor stands at its `n`th token, which is `t`, and these tokens follow it on the line. -/
structure Stands (c : Cursor) (n : Nat) (t : Token) (l : Lexed) : Prop where
  pushedBack_eq : c.pushedBack = false
  consumed_eq : c.consumed = n
  current_eq : c.current = t
  rest_eq : lexRest (Text.byteLength c.line) c.rest = l

/-- Behind `n` tokens the cursor delivers these. -/
inductive Ahead : Cursor → Nat → List Token → Option (Nat × Char) → Prop
  | fresh {c : Cursor} {n : Nat} {t : Token} {ts : List Token} {u : Option (Nat × Char)} :
      c.Stands n t ⟨ts, u⟩ → Ahead c n ts u
  | again {c : Cursor} {n : Nat} {t : Token} {ts : List Token} {u : Option (Nat × Char)} :
      c.Stands (n + 1) t ⟨ts, u⟩ → Ahead c.pushBack n (t :: ts) u
  | againEnd {c : Cursor} {n : Nat} : c.Stands (n + 1) .endOfInput ⟨[], none⟩ → Ahead c.pushBack n [] none

variable {c : Cursor} {n : Nat} {t : Token} {ts : List Token} {u : Option (Nat × Char)}

theorem ahead_ofLine (line : String) : (ofLine line).Ahead 0 (lex line).tokens (lex line).unclosed :=
  .fresh (t := .endOfInput) ⟨rfl, rfl, rfl, rfl⟩

theorem Stands.position_eq (h : c.Stands n t ⟨ts, u⟩) : c.position = n := by
  simp [position, h.pushedBack_eq, h.consumed_eq]

theorem Stands.next_of_cons {s : Token} (h : c.Stands n s ⟨t :: ts, u⟩) :
    ∃ d, c.next = (.ok t, d) ∧ d.Stands (n + 1) t ⟨ts, u⟩ := by
  obtain ⟨hp, hn, -, hr⟩ := h
  rw [lexRest_eq] at hr
  unfold next
  simp only [hp, Bool.false_eq_true, if_false]
  cases hs : scan (Text.dropBlanks c.rest) with
  | nothing => simp [hs] at hr
  | unclosed q => simp [hs] at hr
  | token v rest =>
    simp only [hs, Lexed.mk.injEq, List.cons.injEq] at hr
    obtain ⟨⟨rfl, rfl⟩, rfl⟩ := hr
    exact ⟨_, rfl, rfl, by simp [deliver, hn], rfl, rfl⟩

theorem Stands.next_of_nil {s : Token} (h : c.Stands n s ⟨[], none⟩) :
    ∃ d, c.next = (.ok .endOfInput, d) ∧ d.Stands (n + 1) .endOfInput ⟨[], none⟩ := by
  obtain ⟨hp, hn, -, hr⟩ := h
  rw [lexRest_eq] at hr
  unfold next
  simp only [hp, Bool.false_eq_true, if_false]
  cases hs : scan (Text.dropBlanks c.rest) with
  | token t rest => simp [hs] at hr
  | unclosed q => simp [hs] at hr
  | nothing => exact ⟨_, rfl, rfl, by simp [deliver, hn], rfl, by simp [deliver, lexRest_eq, Text.dropBlanks, scan]⟩

theorem Stands.next_pushBack {l : Lexed} (h : c.Stands n t l) : c.pushBack.next = (.ok t, c) := by
  obtain ⟨line, rest, consumed, current, pushedBack⟩ := c
  obtain ⟨rfl, -, rfl, -⟩ := h
  rfl

theorem Ahead.next_of_cons (h : c.Ahead n (t :: ts) u) :
    ∃ d, c.next = (.ok t, d) ∧ d.Stands (n + 1) t ⟨ts, u⟩ := by
  cases h with
  | fresh h => exact h.next_of_cons
  | again h => exact ⟨_, h.next_pushBack, h⟩

theorem Ahead.next_of_nil (h : c.Ahead n [] none) :
    ∃ d, c.next = (.ok .endOfInput, d) ∧ d.Stands (n + 1) .endOfInput ⟨[], none⟩ := by
  cases h with
  | fresh h => exact h.next_of_nil
  | againEnd h => exact ⟨_, h.next_pushBack, h⟩

theorem Ahead.next_of_unclosed {o : Nat} {q : Char} (h : c.Ahead n [] (some (o, q))) :
    ∃ d, c.next = (.error (.unterminatedQuote o q), d) := by
  cases h with
  | fresh h =>
    obtain ⟨hp, -, -, hr⟩ := h
    rw [lexRest_eq] at hr
    unfold next
    simp only [hp, Bool.false_eq_true, if_false]
    cases hs : scan (Text.dropBlanks c.rest) with
    | nothing => simp [hs] at hr
    | token t rest => simp [hs] at hr
    | unclosed r =>
      simp only [hs, Lexed.mk.injEq, Option.some.injEq, Prod.mk.injEq, true_and] at hr
      exact ⟨_, by rw [← hr.1, ← hr.2]; rfl⟩

theorem Ahead.delivers (h : c.Ahead n ts none) (ht : ∀ t ∈ ts, t ≠ .endOfInput) : c.Delivers ts := by
  induction ts generalizing c n with
  | nil =>
    obtain ⟨d, hd, -⟩ := h.next_of_nil
    exact .done hd
  | cons t ts ih =>
    obtain ⟨d, hd, hs⟩ := h.next_of_cons
    exact .step hd (ht t List.mem_cons_self) (ih (.fresh hs) fun t h => ht t (List.mem_cons_of_mem _ h))

theorem Delivers.eq_of_ahead (h : c.Delivers ts) {us : List Token} (ha : c.Ahead n us u)
    (hu : ∀ t ∈ us, t ≠ .endOfInput) : us = ts ∧ u = none := by
  induction h generalizing n us with
  | @done c d hd =>
    cases us with
    | cons t us =>
      obtain ⟨e, he, -⟩ := ha.next_of_cons
      rw [hd] at he
      cases he
      exact absurd rfl (hu _ List.mem_cons_self)
    | nil =>
      cases u with
      | none => exact ⟨rfl, rfl⟩
      | some p =>
        obtain ⟨e, he⟩ := ha.next_of_unclosed
        rw [hd] at he
        cases he
  | @step c d t ts hd ht _ ih =>
    cases us with
    | cons t' us =>
      obtain ⟨e, he, hs⟩ := ha.next_of_cons
      rw [hd] at he
      cases he
      obtain ⟨rfl, rfl⟩ := ih (.fresh hs) fun t h => hu t (List.mem_cons_of_mem _ h)
      exact ⟨rfl, rfl⟩
    | nil =>
      cases u with
      | none =>
        obtain ⟨e, he, -⟩ := ha.next_of_nil
        rw [hd] at he
        cases he
        exact absurd rfl ht
      | some p =>
        obtain ⟨e, he⟩ := ha.next_of_unclosed
        rw [hd] at he
        cases he

theorem delivers_ofLine_iff (line : String) : (ofLine line).Delivers ts ↔ lex line = ⟨ts, none⟩ := by
  have hp : ∀ t ∈ (lex line).tokens, t ≠ .endOfInput := by
    rintro t ht rfl
    exact proper_of_lexRest _ _ _ ht
  constructor
  · intro h
    obtain ⟨rfl, hu⟩ := h.eq_of_ahead (ahead_ofLine line) hp
    rw [← hu]
  · intro h
    have ha := ahead_ofLine line
    rw [h] at ha hp
    exact ha.delivers hp

end Cursor

end ToolPipeline.ControlLine
