import ToolPipeline.Arguments
import ToolPipeline.Proofs.Text.Blank
import ToolPipeline.Proofs.Text.Cut

set_option autoImplicit false

/-!
How a command line is made of its arguments. `Laid` says in terms of the characters what stands on a line,
and `split_laid` that splitting finds the words and the quoted texts among it, and leaves out nothing else
than blanks, the quotes around a text and quotes that are closed nowhere.
-/

namespace ToolPipeline.Arguments

open Text (Blank isBlank)

inductive Piece where
  | word (text : List Char)
  | quoted (quote : Char) (text : List Char)
  deriving DecidableEq, Repr

namespace Piece

def content : Piece → List Char
  | word w => w
  | quoted _ body => body

def written : Piece → List Char
  | word w => w
  | quoted q body => q :: (body ++ [q])

/-- The piece can stand in front of this text. A word does not go on there. -/
def Before (s : List Char) : Piece → Prop
  | word w => w ≠ [] ∧ (∀ c ∈ w, isBare c = true) ∧ ∀ c ∈ s.head?, isBare c = false
  | quoted q body => isQuote q = true ∧ q ∉ body

instance (s : List Char) : (p : Piece) → Decidable (p.Before s)
  | word w => decidable_of_iff (w ≠ [] ∧ w.all isBare = true ∧ s.head?.all (!isBare ·) = true) (by
      cases s <;> simp [Before])
  | quoted q body => decidable_of_iff (isQuote q = true ∧ q ∉ body) Iff.rfl

end Piece

inductive Item where
  | piece (p : Piece)
  | stray (quote : Char)
  deriving DecidableEq, Repr

namespace Item

def written : Item → List Char
  | piece p => p.written
  | stray q => [q]

def argument? : Item → Option (List Char)
  | piece p => some p.content
  | stray _ => none

def Before (s : List Char) : Item → Prop
  | piece p => p.Before s
  | stray q => isQuote q = true ∧ q ∉ s

instance (s : List Char) : (x : Item) → Decidable (x.Before s)
  | piece p => decidable_of_iff (p.Before s) Iff.rfl
  | stray q => decidable_of_iff (isQuote q = true ∧ q ∉ s) Iff.rfl

end Item

/-- The items stand on the line in this order, with blanks around them. -/
inductive Laid : List Char → List Item → Prop
  | nil {gap : List Char} : Blank gap → Laid gap []
  | cons {gap s : List Char} {x : Item} {xs : List Item} : Blank gap → x.Before s → Laid s xs →
      Laid (gap ++ (x.written ++ s)) (x :: xs)

variable {s r w body : List Char} {c q : Char} {p : Piece} {x : Item} {xs ys : List Item} {ps : List Piece}

theorem isBlank_of_isQuote (h : isQuote q = true) : isBlank q = false := by
  simp only [isQuote, Bool.or_eq_true, beq_iff_eq] at h
  rcases h with rfl | rfl <;> decide

theorem isBare_iff : isBare c = true ↔ isBlank c = false ∧ isQuote c = false := by simp [isBare]

theorem isBare_eq_false_iff : isBare c = false ↔ isBlank c = true ∨ isQuote c = true := by
  cases hb : isBlank c <;> simp [isBare, hb]

theorem splitChars_nil : splitChars [] = [] := by rw [splitChars.eq_def]

theorem splitChars_cons (c : Char) (s : List Char) : splitChars (c :: s) =
    if isBlank c then splitChars s
    else if isQuote c then
      match Text.cut [c] s with
      | some (body, rest) => body :: splitChars rest
      | none => splitChars s
    else (c :: s.takeWhile isBare) :: splitChars (s.dropWhile isBare) := by
  rw [splitChars.eq_def]
  dsimp only
  congr 2
  split <;> simp_all

theorem splitChars_cons_blank (hc : isBlank c = true) : splitChars (c :: s) = splitChars s := by
  rw [splitChars_cons, if_pos hc]

theorem splitChars_blank {gap : List Char} (hg : Blank gap) : splitChars (gap ++ s) = splitChars s := by
  induction gap with
  | nil => rfl
  | cons c gap ih =>
    have hc : isBlank c = true := hg c List.mem_cons_self
    rw [List.cons_append, splitChars_cons_blank hc, ih fun d hd => hg d (List.mem_cons_of_mem c hd)]

theorem splitChars_quoted (hq : isQuote q = true) (hb : q ∉ body) :
    splitChars (q :: (body ++ q :: s)) = body :: splitChars s := by
  have hc : Text.cut [q] (body ++ q :: s) = some (body, s) := Text.cut_singleton_eq_some_iff.2 ⟨rfl, hb⟩
  rw [splitChars_cons, if_neg (by simp [isBlank_of_isQuote hq]), if_pos hq, hc]

theorem splitChars_stray (hq : isQuote q = true) (hs : q ∉ s) : splitChars (q :: s) = splitChars s := by
  have hc : Text.cut [q] s = none := Text.cut_singleton_eq_none_iff.2 hs
  rw [splitChars_cons, if_neg (by simp [isBlank_of_isQuote hq]), if_pos hq, hc]

theorem splitChars_word (hne : w ≠ []) (hw : ∀ c ∈ w, isBare c = true) (hs : ∀ c ∈ s.head?, isBare c = false) :
    splitChars (w ++ s) = w :: splitChars s := by
  cases w with
  | nil => contradiction
  | cons c w =>
    obtain ⟨hb, hq⟩ := isBare_iff.1 (hw c List.mem_cons_self)
    obtain ⟨ht, hd⟩ := Text.takeWhile_run (fun d hd => hw d (List.mem_cons_of_mem c hd)) hs
    rw [List.cons_append, splitChars_cons, if_neg (by simp [hb]), if_neg (by simp [hq]), ht, hd]

theorem splitChars_item (h : x.Before s) : splitChars (x.written ++ s) = x.argument?.toList ++ splitChars s := by
  match x, h with
  | .piece (.word w), ⟨hne, hw, hs⟩ => exact splitChars_word hne hw hs
  | .piece (.quoted q body), ⟨hq, hb⟩ =>
    have hs := splitChars_quoted (s := s) hq hb
    simpa [Item.written, Piece.written, Item.argument?, Piece.content] using hs
  | .stray q, ⟨hq, hs⟩ => exact splitChars_stray hq hs

theorem splitChars_of_laid (h : Laid s xs) : splitChars s = xs.filterMap Item.argument? := by
  induction h with
  | nil hg => simpa [splitChars_nil] using splitChars_blank (s := []) hg
  | @cons gap s x xs hg hx _ ih =>
    rw [splitChars_blank hg, splitChars_item hx, ih]
    cases ha : x.argument? <;> simp [ha]

theorem Laid.blank {gap : List Char} (hg : Blank gap) (h : Laid s xs) : Laid (gap ++ s) xs := by
  cases h with
  | nil hb => exact .nil (hg.append hb)
  | cons hb hx hs =>
    rw [← List.append_assoc]
    exact .cons (hg.append hb) hx hs

theorem Laid.item (hx : x.Before s) (h : Laid s xs) : Laid (x.written ++ s) (x :: xs) :=
  .cons Text.blank_nil hx h

theorem exists_laid (s : List Char) : ∃ xs, Laid s xs := by
  fun_induction splitChars s with
  | case1 => exact ⟨[], .nil Text.blank_nil⟩
  | case2 c s hc ih =>
    obtain ⟨xs, h⟩ := ih
    have hg : Blank [c] := by simpa [Blank] using hc
    exact ⟨xs, h.blank hg⟩
  | case3 q s _ hq body rest h _ ih =>
    obtain ⟨xs, hs⟩ := ih
    obtain ⟨rfl, hb⟩ := Text.cut_singleton_eq_some_iff.1 h
    have hx : (Item.piece (.quoted q body)).Before rest := ⟨hq, hb⟩
    exact ⟨_, by simpa [Item.written, Piece.written] using hs.item hx⟩
  | case4 q s _ hq h ih =>
    obtain ⟨xs, hs⟩ := ih
    have hx : (Item.stray q).Before s := ⟨hq, Text.cut_singleton_eq_none_iff.1 h⟩
    exact ⟨_, hs.item hx⟩
  | case5 c s hc hq _ ih =>
    obtain ⟨xs, hs⟩ := ih
    have hw : ∀ d ∈ c :: s.takeWhile isBare, isBare d = true :=
      List.forall_mem_cons.2 ⟨isBare_iff.2 ⟨by simpa using hc, by simpa using hq⟩, fun d => List.mem_takeWhile_imp⟩
    have hstop : ∀ d ∈ (s.dropWhile isBare).head?, isBare d = false := fun d hd =>
      Text.eq_false_of_mem_head?_dropWhile hd
    have hx : (Item.piece (.word (c :: s.takeWhile isBare))).Before (s.dropWhile isBare) := ⟨by simp, hw, hstop⟩
    have hl := hs.item hx
    have htext : (Item.piece (.word (c :: s.takeWhile isBare))).written ++ s.dropWhile isBare = c :: s := by
      simp [Item.written, Piece.written]
    exact ⟨_, htext ▸ hl⟩

theorem Piece.Before.append (h : p.Before s) (hr : ∀ c ∈ r.head?, isBare c = false) : p.Before (s ++ r) := by
  cases p with
  | word w =>
    obtain ⟨hne, hw, hs⟩ := h
    refine ⟨hne, hw, ?_⟩
    cases s with
    | nil => simpa using hr
    | cons d s => simpa using hs
  | quoted q body => exact h

theorem Laid.append (h : Laid s (ps.map .piece)) (hr : ∀ c ∈ r.head?, isBare c = false) (hys : Laid r ys) :
    Laid (s ++ r) (ps.map .piece ++ ys) := by
  induction ps generalizing s with
  | nil =>
    cases h with
    | nil hg => exact hys.blank hg
  | cons p ps ih =>
    cases h with
    | @cons gap s _ _ hg hp hs =>
      have hp' : (Item.piece p).Before (s ++ r) := Piece.Before.append hp hr
      have hl := Laid.cons hg hp' (ih hs)
      simpa using hl

theorem filterMap_argument? (ps : List Piece) :
    (ps.map Item.piece).filterMap Item.argument? = ps.map Piece.content := by
  simp [List.filterMap_map, Function.comp_def, Item.argument?]

theorem splitChars_append (h : Laid s (ps.map .piece)) (hr : ∀ c ∈ r.head?, isBare c = false) :
    splitChars (s ++ r) = splitChars s ++ splitChars r := by
  obtain ⟨ys, hys⟩ := exists_laid r
  rw [splitChars_of_laid (h.append hr hys), splitChars_of_laid h, splitChars_of_laid hys, List.filterMap_append]

theorem split_ofList (s : List Char) : split (.ofList s) = (splitChars s).map .ofList := by simp [split]

/-- Pieces are found again where they were laid out, up to a quote that is not closed or a blank behind them.
Every line has items, and its arguments are what the items hold. -/
theorem split_laid :
    (∀ (ps : List Piece) (w : List Char), Laid w (ps.map .piece) →
      split (.ofList w) = ps.map (fun p => .ofList p.content) ∧
      (∀ q r, isQuote q = true → q ∉ r →
        split (.ofList (w ++ q :: r)) = split (.ofList w) ++ split (.ofList r)) ∧
      ∀ c r, isBlank c = true → split (.ofList (w ++ c :: r)) = split (.ofList w) ++ split (.ofList r)) ∧
    ∀ line, ∃ xs, Laid line.toList xs ∧ split line = (xs.filterMap Item.argument?).map .ofList := by
  simp only [split_ofList, ← List.map_append]
  refine ⟨fun ps w h => ⟨?_, fun q r hq hr => ?_, fun c r hc => ?_⟩, fun line => ?_⟩
  · rw [splitChars_of_laid h, filterMap_argument?, List.map_map]
    rfl
  · have hstop : ∀ d ∈ (q :: r).head?, isBare d = false := by simpa [isBare_eq_false_iff] using .inr hq
    rw [splitChars_append h hstop, splitChars_stray hq hr]
  · have hstop : ∀ d ∈ (c :: r).head?, isBare d = false := by simpa [isBare_eq_false_iff] using .inl hc
    rw [splitChars_append h hstop, splitChars_cons_blank hc]
  · obtain ⟨xs, h⟩ := exists_laid line.toList
    exact ⟨xs, h, by rw [split, splitChars_of_laid h]⟩

def touching : List Piece :=
  [.word ['p', 'r', 'e'], .quoted '"' ['i', 't', '\'', 's', ' '], .word ['p', 'o', 's', 't'], .quoted '\'' []]

def touchingLine : List Char :=
  ['p', 'r', 'e', '"', 'i', 't', '\'', 's', ' ', '"', 'p', 'o', 's', 't', '\u00a0', '\'', '\'']

theorem laid_touchingLine : Laid touchingLine (touching.map .piece) := by
  have hgap : Blank ['\u00a0'] := by decide
  have hempty : Laid ['\'', '\''] [.piece (.quoted '\'' [])] :=
    Laid.item (x := .piece (.quoted '\'' [])) (by decide) (.nil Text.blank_nil)
  have hpost := (hempty.blank hgap).item (x := .piece (.word ['p', 'o', 's', 't'])) (by decide)
  have hquoted := hpost.item (x := .piece (.quoted '"' ['i', 't', '\'', 's', ' '])) (by decide)
  exact hquoted.item (x := .piece (.word ['p', 'r', 'e'])) (by decide)

theorem split_laid_touching :
    Laid touchingLine (touching.map .piece) ∧
      split (.ofList touchingLine) = ["pre", "it's ", "post", ""] ∧
      split (.ofList (touchingLine ++ '"' :: ['a', ' ', 'b'])) = ["pre", "it's ", "post", "", "a", "b"] ∧
      split (.ofList (touchingLine ++ '\t' :: ['\'', 'a', ' ', '"', 'b'])) = ["pre", "it's ", "post", "", "a", "b"] := by
  obtain ⟨hw, hq, hc⟩ := split_laid.1 touching touchingLine laid_touchingLine
  refine ⟨laid_touchingLine, hw, ?_, ?_⟩
  · rw [hq '"' _ (by decide) (by decide), hw]
    decide +kernel
  · rw [hc '\t' _ (by decide), hw]
    decide +kernel

end ToolPipeline.Arguments
