import ToolPipeline.Archive.Manifest
import ToolPipeline.Proofs.Text.Blank
import ToolPipeline.Proofs.Text.Lines

set_option autoImplicit false

/-!
Folded attributes. A header line may be broken anywhere, if each further part of it stands behind a space;
`mainClass?_folded` says that the main class is found in the header lines as they were before, whichever way
they were broken and ended.
-/

namespace ToolPipeline.Manifest

open Text (Blank isBlank Ended)

/-- The lines that a header line is broken into at the ends of these parts. -/
def folded : List (List Char) → List (List Char)
  | [] => []
  | p :: ps => p :: ps.map (' ' :: ·)

def Folds (ls : List (List Char)) (s : List Char) : Prop :=
  ∃ parts : List (List (List Char)), (∀ ps ∈ parts, ps ≠ []) ∧ parts.map List.flatten = ls ∧
    Ended (parts.flatMap folded) s

/-- A header line holds no ends of lines, and begins like no line that is joined to another one. -/
structure Header (l : List Char) : Prop where
  feed_notMem : '\n' ∉ l
  return_notMem : '\r' ∉ l
  head_ne : l.head? ≠ some ' '

instance (l : List Char) : Decidable (Header l) :=
  decidable_of_iff ('\n' ∉ l ∧ '\r' ∉ l ∧ l.head? ≠ some ' ')
    ⟨fun h => ⟨h.1, h.2.1, h.2.2⟩, fun h => ⟨h.feed_notMem, h.return_notMem, h.head_ne⟩⟩

variable {l line next s value : List Char} {ls rest : List (List Char)} {ps : List (List Char)}
  {parts : List (List (List Char))} {v : String}

theorem unfoldGo_cons (h : next.head? ≠ some ' ') (line : List Char) (rest : List (List Char)) :
    unfold.go line (next :: rest) = line :: unfold.go next rest := by
  rw [unfold.go]
  rintro more rfl
  exact h rfl

theorem unfoldGo_append (line : List Char) (ps rest : List (List Char)) :
    unfold.go line (ps.map (' ' :: ·) ++ rest) = unfold.go (line ++ ps.flatten) rest := by
  induction ps generalizing line with
  | nil => simp
  | cons p ps ih => simp [unfold.go, ih]

theorem head?_of_flatten {p : List Char} (h : (p :: ps).flatten.head? ≠ some ' ') : p.head? ≠ some ' ' := by
  cases p with
  | nil => simp
  | cons c p => simpa using h

theorem unfoldGo_folded (line : List Char) (hne : ∀ ps ∈ parts, ps ≠ [])
    (hs : ∀ ps ∈ parts, ps.flatten.head? ≠ some ' ') :
    unfold.go line (parts.flatMap folded) = line :: parts.map List.flatten := by
  induction parts generalizing line with
  | nil => rfl
  | cons ps parts ih =>
    obtain ⟨hp, hparts⟩ := List.forall_mem_cons.1 hne
    obtain ⟨hhead, hheads⟩ := List.forall_mem_cons.1 hs
    cases ps with
    | nil => contradiction
    | cons p ps =>
      rw [List.flatMap_cons, folded, List.cons_append, unfoldGo_cons (head?_of_flatten hhead), unfoldGo_append,
        ih _ hparts hheads]
      simp

theorem unfold_folded (hne : ∀ ps ∈ parts, ps ≠ []) (hs : ∀ ps ∈ parts, ps.flatten.head? ≠ some ' ') :
    unfold (parts.flatMap folded) = parts.map List.flatten := by
  cases parts with
  | nil => rfl
  | cons ps parts =>
    obtain ⟨hp, hparts⟩ := List.forall_mem_cons.1 hne
    obtain ⟨-, hheads⟩ := List.forall_mem_cons.1 hs
    cases ps with
    | nil => contradiction
    | cons p ps =>
      rw [List.flatMap_cons, folded, List.cons_append, unfold, unfoldGo_append, unfoldGo_folded _ hparts hheads]
      simp

theorem unfoldGo_concat_nil (line : List Char) (rest : List (List Char)) :
    unfold.go line (rest ++ [[]]) = unfold.go line rest ++ [[]] := by
  fun_induction unfold.go line rest with
  | case1 line => rfl
  | case2 line more rest ih => simpa [unfold.go] using ih
  | case3 line next rest hn ih =>
    rw [List.cons_append, unfold.go, ih]
    · rfl
    · exact hn

theorem unfold_concat_nil (ls : List (List Char)) : unfold (ls ++ [[]]) = unfold ls ++ [[]] := by
  cases ls with
  | nil => rfl
  | cons l ls => exact unfoldGo_concat_nil l ls

theorem dropReturns_of_notMem (h : '\r' ∉ l) : dropReturns l = l := by
  have hd : l.reverse.dropWhile (· == '\r') = l.reverse := by
    cases hl : l.reverse with
    | nil => rfl
    | cons c r =>
      have hc : c ≠ '\r' := by
        rintro rfl
        exact h (List.mem_reverse.1 (by simp [hl]))
      rw [List.dropWhile_cons_of_neg (by simpa using hc)]
  rw [dropReturns, hd, List.reverse_reverse]

theorem trim_isEmpty_iff_blank : (Text.trim (.ofList value)).isEmpty = true ↔ Blank value := by
  rw [Text.trim_isEmpty_iff, String.toList_ofList, Blank]

theorem valueOf?_append : valueOf? (mainClassAttribute ++ value) =
    if (Text.trim (.ofList value)).isEmpty then none else some (Text.trim (.ofList value)) := by
  rw [valueOf?, if_pos (List.isPrefixOf_iff_prefix.2 (List.prefix_append _ _)), List.drop_left]

theorem valueOf?_of_not_attribute (h : ¬ mainClassAttribute <+: l) : valueOf? l = none := by
  rw [valueOf?, if_neg (by simpa using h)]

theorem valueOf?_eq_some_iff : valueOf? l = some v ↔
    ∃ value, l = mainClassAttribute ++ value ∧ ¬ Blank value ∧ v = Text.trim (.ofList value) := by
  constructor
  · intro h
    by_cases hp : mainClassAttribute <+: l
    · obtain ⟨value, rfl⟩ := hp
      rw [valueOf?_append] at h
      split at h
      · cases h
      · next hv => exact ⟨value, rfl, mt trim_isEmpty_iff_blank.2 hv, (Option.some.inj h).symm⟩
    · rw [valueOf?_of_not_attribute hp] at h
      cases h
  · rintro ⟨value, rfl, hb, rfl⟩
    rw [valueOf?_append, if_neg (mt trim_isEmpty_iff_blank.1 hb)]

theorem valueOf?_eq_none_iff : valueOf? l = none ↔ ∀ value, l = mainClassAttribute ++ value → Blank value := by
  constructor
  · rintro h value rfl
    by_contra hb
    have hv := valueOf?_eq_some_iff.2 ⟨value, rfl, hb, rfl⟩
    rw [h] at hv
    cases hv
  · intro h
    cases hv : valueOf? l with
    | none => rfl
    | some v =>
      obtain ⟨value, hl, hb, -⟩ := valueOf?_eq_some_iff.1 hv
      exact absurd (h value hl) hb

/-- A character that is no space stands in one of the lines only if it stands in what was broken. -/
theorem notMem_of_mem_folded {c : Char} (hc : c ≠ ' ') (h : c ∉ ps.flatten) (hl : l ∈ folded ps) : c ∉ l := by
  cases ps with
  | nil => cases hl
  | cons p ps =>
    simp only [List.mem_flatten, not_exists, not_and] at h
    simp only [folded, List.mem_cons, List.mem_map] at hl
    rcases hl with rfl | ⟨q, hq, rfl⟩
    · exact h _ List.mem_cons_self
    · intro hm
      rcases List.mem_cons.1 hm with rfl | hm
      · exact hc rfl
      · exact h q (List.mem_cons_of_mem _ hq) hm

theorem mainClass?_eq_findSome? {text : String} (hl : ∀ l ∈ ls, Header l) (hf : Folds ls text.toList) :
    mainClass? text = ls.findSome? valueOf? := by
  obtain ⟨parts, hne, rfl, he⟩ := hf
  have hparts : ∀ ps ∈ parts, Header ps.flatten := fun ps hps => hl _ (List.mem_map_of_mem hps)
  have hfree : ∀ l ∈ parts.flatMap folded, '\n' ∉ l ∧ '\r' ∉ l := by
    intro l hm
    obtain ⟨ps, hps, hm⟩ := List.mem_flatMap.1 hm
    exact ⟨notMem_of_mem_folded (by decide) (hparts ps hps).feed_notMem hm,
      notMem_of_mem_folded (by decide) (hparts ps hps).return_notMem hm⟩
  have hlines := Text.lines_of_ended he hfree
  have hsub : ∀ l ∈ Text.lines text.toList, l ∈ parts.flatMap folded := by
    rcases hlines with h | h
    · exact fun l hm => h ▸ hm
    · exact fun l hm => h ▸ List.mem_append_left _ hm
  have hdrop : (Text.lines text.toList).map dropReturns = Text.lines text.toList := by
    rw [List.map_congr_left fun l hm => dropReturns_of_notMem (hfree l (hsub l hm)).2, List.map_id']
  have hunfold := unfold_folded hne fun ps hps => (hparts ps hps).head_ne
  rw [mainClass?, hdrop, ← hunfold]
  rcases hlines with h | h
  · rw [h]
  · -- The last line is empty and was not seen, but it has no attribute.
    rw [h, unfold_concat_nil, List.findSome?_append, List.findSome?_singleton]
    have hnil : valueOf? [] = none := by decide
    rw [hnil, Option.or_none]

/-- The main class is the value of the first of the header lines that is this attribute and has a value. Where
these lines were broken, and how they end, does not count. -/
theorem mainClass?_folded (ls : List (List Char)) (text : String) (hl : ∀ l ∈ ls, Header l)
    (hf : Folds ls text.toList) :
    (∀ v, mainClass? text = some v ↔ ∃ before value after, ls = before ++ (mainClassAttribute ++ value) :: after ∧
      ¬ Blank value ∧ v = Text.trim (.ofList value) ∧
      ∀ l ∈ before, ∀ value, l = mainClassAttribute ++ value → Blank value) ∧
    (mainClass? text = none ↔ ∀ value, mainClassAttribute ++ value ∈ ls → Blank value) ∧
    ∀ text' : String, Folds ls text'.toList → mainClass? text' = mainClass? text := by
  have hm := mainClass?_eq_findSome? hl hf
  refine ⟨fun v => ?_, ?_, fun text' hf' => (mainClass?_eq_findSome? hl hf').trans hm.symm⟩
  · rw [hm, List.findSome?_eq_some_iff]
    constructor
    · rintro ⟨before, l, after, hls, hv, hbefore⟩
      obtain ⟨value, rfl, hb, rfl⟩ := valueOf?_eq_some_iff.1 hv
      exact ⟨before, value, after, hls, hb, rfl, fun l h => valueOf?_eq_none_iff.1 (hbefore l h)⟩
    · rintro ⟨before, value, after, hls, hb, rfl, hbefore⟩
      exact ⟨before, _, after, hls, valueOf?_eq_some_iff.2 ⟨value, rfl, hb, rfl⟩,
        fun l h => valueOf?_eq_none_iff.2 (hbefore l h)⟩
  · rw [hm, List.findSome?_eq_none_iff]
    constructor
    · exact fun h value hv => valueOf?_eq_none_iff.1 (h _ hv) value rfl
    · exact fun h l hmem => valueOf?_eq_none_iff.2 fun value hv => h value (hv ▸ hmem)

def broken : List (List Char) :=
  ["Main-Class: \t".toList, "Main-Class: good.Main ".toList, "Main-Class: other.Main".toList]

/-- A break in the name, one behind which the value goes on with a space, and two at one place. -/
def brokenParts : List (List (List Char)) :=
  [["Main-".toList, "Class: \t".toList], ["Main-Cl".toList, "ass:".toList, " good".toList, [], ".Main ".toList],
    ["Main-Class: other.Main".toList]]

def brokenText : String :=
  "Main-\r\n Class: \t\nMain-Cl\n ass:\r\n  good\n \n .Main \nMain-Class: other.Main"

theorem mainClass?_folded_broken :
    (∀ l ∈ broken, Header l) ∧ Folds broken brokenText.toList ∧ mainClass? brokenText = some "good.Main" := by
  have hl : ∀ l ∈ broken, Header l := by
    simp only [broken, List.forall_mem_cons]
    exact ⟨by decide +kernel, by decide +kernel, by decide +kernel, nofun⟩
  have hf : Folds broken brokenText.toList := by
    have ht : brokenText.toList = "Main-".toList ++ (['\r', '\n'] ++ (" Class: \t".toList ++ (['\n'] ++ ("Main-Cl".toList ++
        (['\n'] ++ (" ass:".toList ++ (['\r', '\n'] ++ ("  good".toList ++ (['\n'] ++ (" ".toList ++ (['\n'] ++
        (" .Main ".toList ++ (['\n'] ++ "Main-Class: other.Main".toList))))))))))))) := by decide +kernel
    refine ⟨brokenParts, by simp [brokenParts], by decide +kernel, ?_⟩
    rw [ht]
    exact .cons (.inr rfl) <| .cons (.inl rfl) <| .cons (.inl rfl) <| .cons (.inr rfl) <| .cons (.inl rfl) <|
      .cons (.inl rfl) <| .cons (.inl rfl) <| .unended _
  refine ⟨hl, hf, ?_⟩
  refine ((mainClass?_folded broken brokenText hl hf).1 "good.Main").2
    ⟨["Main-Class: \t".toList], " good.Main ".toList, ["Main-Class: other.Main".toList], by decide +kernel, ?_, ?_, ?_⟩
  · decide +kernel
  · decide +kernel
  · intro l hm value hv
    have hfirst : mainClassAttribute ++ " \t".toList = mainClassAttribute ++ value := by
      rw [← hv, List.mem_singleton.1 hm]
      decide +kernel
    rw [← List.append_cancel_left hfirst]
    decide +kernel

end ToolPipeline.Manifest
