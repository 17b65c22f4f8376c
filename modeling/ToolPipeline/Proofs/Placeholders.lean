import ToolPipeline.Proofs.OrderedMap
import ToolPipeline.Proofs.Template

set_option autoImplicit false

/-!
The placeholders that are listed and the ones that are filled in. `exists_cut_seenAlike` says that every text has
one cut, that both loops go by it, and what this means for the values: which of them count, and that none is
looked at again.
-/

namespace ToolPipeline

theorem OrderedMap.get?_eq_lookup {κ α : Type} [DecidableEq κ] (m : OrderedMap κ α) (k : κ) :
    m.get? k = m.toList.lookup k := by
  unfold get?
  induction m.toList with
  | nil => rfl
  | cons e l ih =>
    obtain ⟨j, v⟩ := e
    by_cases hj : j = k
    · simp [hj]
    · have hk : (k == j) = false := by simpa using Ne.symm hj
      simpa [List.lookup_cons, hj, hk] using ih

namespace Template

open Parts (ofChars)

variable {s : List Char} {t : Parts} {layers layers' : List ParameterMap} {k : String}

def Parts.text (t : Parts) : List Char := t.pieces.flatMap (fun p => p.1 ++ opening ++ p.2 ++ closing) ++ t.tail

/-- A cut of a text. In front of a placeholder there is no opening, no name holds a closing brace, and
behind the last placeholder no opening is closed. -/
structure Parts.Cuts (s : List Char) (t : Parts) : Prop where
  text_eq : t.text = s
  before : ∀ p ∈ t.pieces, ¬ opening <:+: p.1
  name : ∀ p ∈ t.pieces, '\x7d' ∉ p.2
  tail : ¬ HasPlaceholder t.tail

theorem Parts.Cuts.dissects (h : t.Cuts s) : Dissects s t := by
  obtain ⟨pieces, tail⟩ := t
  induction pieces generalizing s with
  | nil =>
    obtain rfl : tail = s := h.text_eq
    exact .tail h.tail
  | cons p pieces ih =>
    obtain ⟨hp, hpieces⟩ := List.forall_mem_cons.1 h.before
    obtain ⟨hn, hnames⟩ := List.forall_mem_cons.1 h.name
    have hrest : Dissects (Parts.text ⟨pieces, tail⟩) ⟨pieces, tail⟩ := ih ⟨rfl, hpieces, hnames, h.tail⟩
    have hs : p.1 ++ opening ++ p.2 ++ closing ++ Parts.text ⟨pieces, tail⟩ = s := by
      rw [← h.text_eq]
      simp [Parts.text]
    rw [← hs]
    exact .piece hp hn hrest

theorem Dissects.cuts (h : Dissects s t) : t.Cuts s := by
  induction h with
  | tail h => exact ⟨rfl, by simp, by simp, h⟩
  | @piece before name after t hb hn _ ih =>
    refine ⟨?_, List.forall_mem_cons.2 ⟨hb, ih.before⟩, List.forall_mem_cons.2 ⟨hn, ih.name⟩, ih.tail⟩
    rw [← ih.text_eq]
    simp [Parts.text]

theorem cuts_iff : t.Cuts s ↔ ofChars s = t := by
  rw [← dissects_iff]
  exact ⟨Parts.Cuts.dissects, Dissects.cuts⟩

theorem fill_eq_of_valueIn? {name : List Char}
    (h : valueIn? layers (.ofList name) = valueIn? layers' (.ofList name)) : fill layers name = fill layers' name := by
  rw [fill, fill, h]

theorem expand_congr {m : Template} (h : ∀ k ∈ m.placeholders, valueIn? layers k = valueIn? layers' k) :
    m.expand layers = m.expand layers' := by
  rw [placeholders_eq_parts] at h
  rw [expand_eq_parts, expand_eq_parts, Parts.expandChars, Parts.expandChars]
  congr 2
  refine List.flatMap_congr fun p hp => ?_
  rw [fill_eq_of_valueIn? (h _ (List.mem_map_of_mem hp))]

theorem valueIn?_eq_none (h : ∀ m ∈ layers, m.get? k = none) : valueIn? layers k = none :=
  List.findSome?_eq_none_iff.2 h

theorem expand_nil (m : Template) : m.expand [] = .ofList m.parts.text := by
  simp [expand_eq_parts, Parts.expandChars, Parts.text, fill, valueIn?]

/-- All entries of the layers in one map. They are put in from the last one to the first one, so a value
of an earlier layer takes the place of a later one's. -/
def overlay (layers : List ParameterMap) : ParameterMap := .ofList (layers.flatMap OrderedMap.toList).reverse

theorem get?_overlay (layers : List ParameterMap) (k : String) : (overlay layers).get? k = valueIn? layers k := by
  rw [overlay, OrderedMap.get?_ofList, List.reverse_reverse, valueIn?]
  induction layers with
  | nil => rfl
  | cons m layers ih =>
    rw [List.flatMap_cons, List.lookup_append, ih, List.findSome?_cons, m.get?_eq_lookup]
    cases m.toList.lookup k <;> rfl

structure SeenAlike (s : String) (t : Parts) : Prop where
  placeholders_eq : (ofText s).placeholders = t.pieces.map fun p => .ofList p.2
  /-- The value of the first layer that has one stands as it is, whatever it holds. -/
  expand_eq : ∀ layers, (ofText s).expand layers = .ofList (t.pieces.flatMap (fun p => p.1 ++
    match layers.findSome? fun m => m.get? (.ofList p.2) with
    | some v => v.toList
    | none => opening ++ p.2 ++ closing) ++ t.tail)
  expand_unknown : ∀ layers, (∀ m ∈ layers, ∀ k ∈ (ofText s).placeholders, m.get? k = none) →
    (ofText s).expand layers = s
  expand_congr : ∀ layers layers',
    (∀ k ∈ (ofText s).placeholders, valueIn? layers k = valueIn? layers' k) →
    (ofText s).expand layers = (ofText s).expand layers'
  expand_overlay : ∀ layers, (ofText s).expand [overlay layers] = (ofText s).expand layers

/-- Every text has one cut, which listing and filling both go by. -/
theorem exists_cut_seenAlike (s : String) :
    ∃ t : Parts, t.Cuts s.toList ∧ (∀ t' : Parts, t'.Cuts s.toList → t' = t) ∧ SeenAlike s t := by
  have hcut : (ofText s).parts.Cuts s.toList := cuts_iff.2 rfl
  refine ⟨(ofText s).parts, hcut, fun t' h => (cuts_iff.1 h).symm, placeholders_eq_parts _,
    fun layers => expand_eq_parts layers _, fun layers h => ?_, fun _ _ h => expand_congr h, fun layers => expand_congr fun k _ => ?_⟩
  · have hnone : (ofText s).expand layers = (ofText s).expand [] :=
      expand_congr fun k hk => valueIn?_eq_none fun m hm => h m hm k hk
    rw [hnone, expand_nil, hcut.text_eq, String.ofList_toList]
  · have hone : valueIn? [overlay layers] k = (overlay layers).get? k := by simp [valueIn?]
    rw [hone, get?_overlay]

/-- A second opening in front of the closing brace belongs to the name. -/
example : (ofText "$$\x7ba$\x7bb\x7d c\x7d").placeholders = ["a$\x7bb"] := by decide +kernel

end Template

end ToolPipeline
