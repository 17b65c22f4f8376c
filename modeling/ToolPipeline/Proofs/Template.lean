import ToolPipeline.Proofs.Text.Cut
import ToolPipeline.Template

set_option autoImplicit false

/-!
How a template is taken apart. `dissects_iff` says that the parts are determined by the text: a
placeholder starts at the first opening and reaches to the next closing brace, and the search goes on
behind it. Listing the placeholders and filling them in are loops of their own, and `namesIn_eq` and
`fillIn_eq` say that both go by these parts.
-/

namespace ToolPipeline.Template

/-- A text taken apart: each piece is verbatim text and the name of the placeholder behind it. -/
structure Parts where
  pieces : List (List Char × List Char)
  tail : List Char
  deriving DecidableEq, Repr

namespace Parts

def ofChars (s : List Char) : Parts :=
  match h : Text.cut opening s with
  | none => ⟨[], s⟩
  | some (before, rest) =>
    match k : Text.cut closing rest with
    | none => ⟨[], s⟩
    | some (name, after) =>
      have : after.length < s.length :=
        Nat.lt_trans (Text.length_lt_of_cut_eq_some (List.cons_ne_nil _ _) k)
          (Text.length_lt_of_cut_eq_some (List.cons_ne_nil _ _) h)
      let t := ofChars after
      ⟨(before, name) :: t.pieces, t.tail⟩
  termination_by s.length

def placeholders (t : Parts) : List String := t.pieces.map fun p => .ofList p.2

def fillWith (value : String → String) (t : Parts) : String :=
  .ofList (t.pieces.flatMap (fun p => p.1 ++ (value (.ofList p.2)).toList) ++ t.tail)

end Parts

open Parts (ofChars)

/-- What stands in the place of a placeholder: the value of its name, or else its own text. -/
def fill (layers : List ParameterMap) (name : List Char) : List Char :=
  match valueIn? layers (String.ofList name) with
  | some v => v.toList
  | none => opening ++ name ++ closing

def Parts.expandChars (layers : List ParameterMap) (t : Parts) : List Char :=
  t.pieces.flatMap (fun p => p.1 ++ fill layers p.2) ++ t.tail

def parts (t : Template) : Parts := ofChars t.text.toList

variable {s before rest name after : List Char} {t : Parts}

def HasPlaceholder (s : List Char) : Prop := ∃ before name after, s = before ++ opening ++ name ++ closing ++ after

inductive Dissects : List Char → Parts → Prop
  | tail {s : List Char} : ¬ HasPlaceholder s → Dissects s ⟨[], s⟩
  | piece {before name after : List Char} {t : Parts} : ¬ opening <:+: before → '\x7d' ∉ name →
      Dissects after t → Dissects (before ++ opening ++ name ++ closing ++ after) ⟨(before, name) :: t.pieces, t.tail⟩

/-- The first opening is the one with no opening in front of it. -/
theorem cut_opening_eq_some_iff :
    Text.cut opening s = some (before, after) ↔ s = before ++ opening ++ after ∧ ¬ opening <:+: before := by
  rw [Text.cut_eq_some_iff]
  refine and_congr_right fun hs => ⟨?_, fun hb x y hx => ?_⟩
  · rintro hf ⟨x, y, rfl⟩
    have := hf x (y ++ opening ++ after) (by simp [hs])
    simp only [opening, List.length_append, List.length_cons] at this
    omega
  · by_contra hl
    obtain ⟨z, rfl⟩ : x <+: before := by
      have hp : x <+: before ++ (opening ++ after) := ⟨opening ++ y, by
        rw [← List.append_assoc, ← List.append_assoc, ← hx, hs]⟩
      exact List.prefix_of_prefix_length_le hp (List.prefix_append _ _) (by omega)
    rw [hs] at hx
    simp only [List.append_assoc, List.append_cancel_left_eq] at hx
    -- An earlier opening reaches at most one character into the text behind, and that is no brace.
    match z, hx with
    | [], _ => simp at hl
    | [c], hx => simp [opening] at hx
    | c :: d :: z, hx =>
      simp only [opening, List.cons_append, List.cons.injEq] at hx
      exact hb ⟨x, z, by simp [opening, hx.1, hx.2.1]⟩

theorem cut_closing_eq_some_iff :
    Text.cut closing s = some (name, after) ↔ s = name ++ closing ++ after ∧ '\x7d' ∉ name := by
  rw [closing, Text.cut_singleton_eq_some_iff]
  simp

theorem not_hasPlaceholder_of_cut (h : Text.cut opening s = none) : ¬ HasPlaceholder s := by
  rintro ⟨before, name, after, rfl⟩
  exact Text.cut_eq_none_iff.1 h ⟨before, name ++ closing ++ after, by simp⟩

theorem not_hasPlaceholder_of_cut_closing (h : Text.cut opening s = some (before, after))
    (hc : Text.cut closing after = none) : ¬ HasPlaceholder s := by
  rintro ⟨before', name, after', hs⟩
  have hm : '\x7d' ∉ after := Text.cut_singleton_eq_none_iff.1 hc
  -- The closing brace of the placeholder stands behind the first opening.
  have hl := (Text.cut_eq_some_iff.1 h).2 before' (name ++ closing ++ after') (by simp [hs])
  have ha : after <:+ s := ⟨before ++ opening, (cut_opening_eq_some_iff.1 h).1.symm⟩
  have hc : closing ++ after' <:+ s := ⟨before' ++ opening ++ name, by simp [hs]⟩
  obtain ⟨x, rfl⟩ := List.suffix_of_suffix_length_le hc ha (by
    have := congrArg List.length ((cut_opening_eq_some_iff.1 h).1.symm.trans hs)
    simp only [List.length_append] at this ⊢
    omega)
  exact hm (by simp [closing])

theorem dissects_ofChars (s : List Char) : Dissects s (ofChars s) := by
  fun_induction ofChars s with
  | case1 s h => exact .tail (not_hasPlaceholder_of_cut h)
  | case2 s before rest h k => exact .tail (not_hasPlaceholder_of_cut_closing h k)
  | case3 s before rest h name after k _ t ih =>
    obtain ⟨rfl, hb⟩ := cut_opening_eq_some_iff.1 h
    obtain ⟨rfl, hn⟩ := cut_closing_eq_some_iff.1 k
    simpa using Dissects.piece hb hn ih

theorem ofChars_of_not_hasPlaceholder (h : ¬ HasPlaceholder s) : ofChars s = ⟨[], s⟩ := by
  fun_cases ofChars s with
  | case1 => rfl
  | case2 => rfl
  | case3 before rest hb name after hn =>
    obtain ⟨rfl, -⟩ := cut_opening_eq_some_iff.1 hb
    obtain ⟨rfl, -⟩ := cut_closing_eq_some_iff.1 hn
    exact absurd ⟨before, name, after, by simp⟩ h

theorem ofChars_of_cut (ho : Text.cut opening s = some (before, rest))
    (hc : Text.cut closing rest = some (name, after)) :
    ofChars s = ⟨(before, name) :: (ofChars after).pieces, (ofChars after).tail⟩ := by
  rw [ofChars]
  split
  · next h => cases ho.symm.trans h
  · next h =>
    cases ho.symm.trans h
    split
    · next h => cases hc.symm.trans h
    · next h => cases hc.symm.trans h; rfl

theorem ofChars_piece (hb : ¬ opening <:+: before) (hn : '\x7d' ∉ name) :
    ofChars (before ++ opening ++ name ++ closing ++ after) =
      ⟨(before, name) :: (ofChars after).pieces, (ofChars after).tail⟩ :=
  ofChars_of_cut (cut_opening_eq_some_iff.2 ⟨by simp, hb⟩) (cut_closing_eq_some_iff.2 ⟨rfl, hn⟩)

/-- A text is taken apart in one way only. -/
theorem dissects_iff : Dissects s t ↔ ofChars s = t := by
  constructor
  · intro h
    induction h with
    | tail h => exact ofChars_of_not_hasPlaceholder h
    | piece hb hn _ ih => rw [ofChars_piece hb hn, ih]
  · rintro rfl
    exact dissects_ofChars s

/-- The loop that lists the placeholders finds the ones of the parts. -/
theorem namesIn_eq (s : List Char) : namesIn s = (ofChars s).placeholders := by
  fun_induction namesIn s with
  | case1 s ho =>
    rw [ofChars_of_not_hasPlaceholder (not_hasPlaceholder_of_cut (Text.find?_eq_none_iff.1 ho))]
    rfl
  | case2 s start ho behind hc =>
    rw [ofChars_of_not_hasPlaceholder
      (not_hasPlaceholder_of_cut_closing (Text.cut_of_find? ho) (Text.find?_eq_none_iff.1 hc))]
    rfl
  | case3 s start ho behind stop hc _ ih =>
    rw [ih, ofChars_of_cut (Text.cut_of_find? ho) (Text.cut_of_find? hc)]
    rfl

/-- So does the loop that fills them in, by positions of its own. -/
theorem fillIn_eq (layers : List ParameterMap) (s : List Char) : fillIn layers s = (ofChars s).expandChars layers := by
  fun_induction fillIn layers s with
  | case1 s ho =>
    rw [ofChars_of_not_hasPlaceholder (not_hasPlaceholder_of_cut (Text.find?_eq_none_iff.1 ho))]
    rfl
  | case2 s start ho behind hc =>
    rw [ofChars_of_not_hasPlaceholder
      (not_hasPlaceholder_of_cut_closing (Text.cut_of_find? ho) (Text.find?_eq_none_iff.1 hc))]
    rfl
  | case3 s start ho behind stop hc width _ value ih =>
    have ho := Text.cut_of_find? ho
    have hc := Text.cut_of_find? hc
    have hlength : (behind.take stop).length = stop := by
      have := Text.length_of_cut_eq_some hc
      simp only [List.length_take, List.length_drop, closing, List.length_singleton] at this ⊢
      omega
    have hwidth : (opening ++ behind.take stop ++ closing).length = width := by
      rw [List.length_append, List.length_append, hlength]
    have hdrop : s.drop start = opening ++ behind.take stop ++ closing ++ behind.drop (stop + closing.length) :=
      calc s.drop start
        _ = opening ++ behind := List.append_cancel_left
          ((List.take_append_drop start s).trans ((Text.cut_eq_some ho).trans (List.append_assoc _ _ _)))
        _ = opening ++ (behind.take stop ++ closing ++ behind.drop (stop + closing.length)) :=
          congrArg (opening ++ ·) (Text.cut_eq_some hc)
        _ = _ := by simp only [List.append_assoc]
    have hplaceholder : (s.drop start).take width = opening ++ behind.take stop ++ closing :=
      (congrArg (List.take width) hdrop).trans (List.take_left' hwidth)
    have hafter : s.drop (start + width) = behind.drop (stop + closing.length) := by
      simp only [behind, width, List.drop_drop, Nat.add_assoc]
    have hvalue : value = fill layers (behind.take stop) := by
      simp only [value, hplaceholder]
      rfl
    rw [ih, hafter, hvalue, ofChars_of_cut ho hc]
    simp [Parts.expandChars]

theorem placeholders_eq_parts (t : Template) : t.placeholders = t.parts.placeholders := namesIn_eq _

theorem expand_eq_parts (layers : List ParameterMap) (t : Template) :
    t.expand layers = .ofList (t.parts.expandChars layers) :=
  congrArg _ (fillIn_eq layers _)

theorem fill_eq {layers : List ParameterMap} {value : String → String}
    (h : valueIn? layers (.ofList name) = some (value (.ofList name))) :
    fill layers name = (value (.ofList name)).toList := by
  rw [fill, h]

theorem expand_eq_fillWith {m : Template} {layers : List ParameterMap} {value : String → String}
    (h : ∀ k ∈ m.placeholders, valueIn? layers k = some (value k)) : m.expand layers = m.parts.fillWith value := by
  rw [placeholders_eq_parts] at h
  rw [expand_eq_parts, Parts.expandChars, Parts.fillWith]
  congr 2
  refine List.flatMap_congr fun p hp => ?_
  rw [fill_eq (h _ (List.mem_map_of_mem hp))]

theorem fillWith_congr {value value' : String → String} (h : ∀ k ∈ t.placeholders, value k = value' k) :
    t.fillWith value = t.fillWith value' := by
  rw [Parts.fillWith, Parts.fillWith]
  congr 2
  refine List.flatMap_congr fun p hp => ?_
  rw [h _ (List.mem_map_of_mem hp)]

end ToolPipeline.Template
