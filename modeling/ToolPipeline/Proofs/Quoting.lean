import ToolPipeline.Proofs.Arguments
import ToolPipeline.Proofs.Substitution

set_option autoImplicit false

/-!
Placeholders in quotes. Values are put into a template before the command line is split, and a value may hold
whatever means something to either of the two; `split_commandLine` says that in quotes it is one argument all
the same, as long as it is free of these quotes.
-/

namespace ToolPipeline

open Arguments (Laid isBare isQuote)
open Text (Blank isBlank)

namespace Template

open Parts (ofChars)

inductive Word where
  | plain (text : List Char)
  | placeholder (quote : Char) (name : String)
  deriving DecidableEq, Repr

namespace Word

def written : Word → List Char
  | plain w => w
  | placeholder q k => q :: (opening ++ k.toList ++ closing ++ [q])

/-- The word can stand in a template where these names are declared. As everywhere in templates, a closing
brace is no part of a name. -/
def Proper (names : List String) : Word → Prop
  | plain w => w ≠ [] ∧ (∀ c ∈ w, isBare c = true) ∧ ¬ opening <:+: w
  | placeholder q k => isQuote q = true ∧ '\x7d' ∉ k.toList ∧ k ∈ names

instance (names : List String) : (w : Word) → Decidable (w.Proper names)
  | plain w => decidable_of_iff (w ≠ [] ∧ w.all isBare = true ∧ ¬ opening <:+: w) (by simp [Proper])
  | placeholder q k => decidable_of_iff (isQuote q = true ∧ '\x7d' ∉ k.toList ∧ k ∈ names) Iff.rfl

def Encloses (value : String → String) : Word → Prop
  | plain _ => True
  | placeholder q k => q ∉ (value k).toList

def argument (value : String → String) : Word → String
  | plain w => .ofList w
  | placeholder _ k => value k

def filled (value : String → String) : Word → Arguments.Piece
  | plain w => .word w
  | placeholder q k => .quoted q (value k).toList

end Word

inductive Listing (names : List String) : List Char → List Word → Prop
  | nil {gap : List Char} : Blank gap → Listing names gap []
  | cons {gap s : List Char} {w : Word} {ws : List Word} : Blank gap → w.Proper names →
      (∀ c ∈ s.head?, isBlank c = true) → Listing names s ws → Listing names (gap ++ (w.written ++ s)) (w :: ws)

variable {layers : List ParameterMap} {names : List String} {value : String → String} {s t name : List Char}
  {c : Char} {w : Word} {ws : List Word}

theorem expandChars_cons (h : ¬ opening <+: c :: s) :
    (ofChars (c :: s)).expandChars layers = c :: (ofChars s).expandChars layers := by
  have hcut : Text.cut opening (c :: s) = (Text.cut opening s).map fun p => (c :: p.1, p.2) := by
    rw [Text.cut, if_neg (by simpa using h)]
  cases ho : Text.cut opening s with
  | none =>
    rw [ho, Option.map_none] at hcut
    rw [ofChars_of_not_hasPlaceholder (not_hasPlaceholder_of_cut hcut),
      ofChars_of_not_hasPlaceholder (not_hasPlaceholder_of_cut ho)]
    simp [Parts.expandChars]
  | some p =>
    obtain ⟨before, rest⟩ := p
    rw [ho, Option.map_some] at hcut
    cases hc : Text.cut closing rest with
    | none =>
      rw [ofChars_of_not_hasPlaceholder (not_hasPlaceholder_of_cut_closing hcut hc),
        ofChars_of_not_hasPlaceholder (not_hasPlaceholder_of_cut_closing ho hc)]
      simp [Parts.expandChars]
    | some p =>
      obtain ⟨name, after⟩ := p
      obtain ⟨-, hbefore'⟩ := cut_opening_eq_some_iff.1 hcut
      obtain ⟨rfl, hbefore⟩ := cut_opening_eq_some_iff.1 ho
      obtain ⟨rfl, hname⟩ := cut_closing_eq_some_iff.1 hc
      have hs : ofChars (before ++ opening ++ name ++ closing ++ after) = _ := ofChars_piece hbefore hname
      have hs' : ofChars (c :: before ++ opening ++ name ++ closing ++ after) = _ := ofChars_piece hbefore' hname
      simp only [List.append_assoc, List.cons_append] at hs hs' ⊢
      rw [hs, hs']
      simp [Parts.expandChars]

theorem expandChars_nil : (ofChars []).expandChars layers = [] := by
  rw [ofChars_of_not_hasPlaceholder]
  · rfl
  · rintro ⟨before, name, after, h⟩
    simp [opening] at h

theorem expandChars_placeholder (hn : '\x7d' ∉ name) :
    (ofChars (opening ++ name ++ closing ++ s)).expandChars layers =
      fill layers name ++ (ofChars s).expandChars layers := by
  have hs : ofChars ([] ++ opening ++ name ++ closing ++ s) = _ := ofChars_piece (by simp [opening]) hn
  rw [List.nil_append] at hs
  rw [hs]
  simp [Parts.expandChars]

theorem expandChars_append_of_notMem (h : '$' ∉ s) :
    (ofChars (s ++ t)).expandChars layers = s ++ (ofChars t).expandChars layers := by
  induction s with
  | nil => rfl
  | cons c s ih =>
    obtain ⟨hc, hs⟩ := not_or.1 (mt List.mem_cons.2 h)
    have hopen : ¬ opening <+: c :: (s ++ t) := by simp [opening, hc]
    rw [List.cons_append, expandChars_cons hopen, ih hs, List.cons_append]

/-- A text without openings stays as it is, if none is completed behind it. -/
theorem expandChars_append (hs : ¬ opening <:+: s) (ht : ∀ c ∈ t.head?, c ≠ '\x7b') :
    (ofChars (s ++ t)).expandChars layers = s ++ (ofChars t).expandChars layers := by
  induction s with
  | nil => rfl
  | cons c s ih =>
    rw [List.infix_cons_iff, not_or] at hs
    have hopen : ¬ opening <+: c :: (s ++ t) := by
      cases s with
      | nil =>
        cases t with
        | nil => simp [opening]
        | cons d t => simp [opening, Ne.symm (ht d rfl)]
      | cons d s => simpa [opening] using hs.1
    rw [List.cons_append, expandChars_cons hopen, ih hs.2, List.cons_append]

theorem ne_dollar_of_isBlank (h : isBlank c = true) : c ≠ '$' := by
  rintro rfl
  revert h
  decide

theorem ne_dollar_of_isQuote (h : isQuote c = true) : c ≠ '$' := by
  rintro rfl
  revert h
  decide

theorem isBlank_of_mem_head?_expandChars (h : ∀ c ∈ s.head?, isBlank c = true) :
    ∀ c ∈ ((ofChars s).expandChars layers).head?, isBlank c = true := by
  cases s with
  | nil => simp [expandChars_nil]
  | cons c s =>
    have hc : isBlank c = true := h c rfl
    have hopen : ¬ opening <+: c :: s := by simp [opening, Ne.symm (ne_dollar_of_isBlank hc)]
    simpa [expandChars_cons hopen] using hc

theorem expandChars_word (hw : w.Proper names) (ht : ∀ c ∈ t.head?, isBlank c = true)
    (hf : ∀ k ∈ names, fill layers k.toList = (value k).toList) :
    (ofChars (w.written ++ t)).expandChars layers = (w.filled value).written ++ (ofChars t).expandChars layers := by
  cases w with
  | plain w =>
    have hbrace : ∀ c ∈ t.head?, c ≠ '\x7b' := by
      rintro c hc rfl
      have := ht _ hc
      revert this
      decide
    exact expandChars_append hw.2.2 hbrace
  | placeholder q k =>
    obtain ⟨hq, hbrace, hk⟩ := hw
    have hquote : '$' ∉ [q] := by simpa using Ne.symm (ne_dollar_of_isQuote hq)
    calc (ofChars (q :: (opening ++ k.toList ++ closing ++ [q]) ++ t)).expandChars layers
      _ = (ofChars ([q] ++ (opening ++ k.toList ++ closing ++ ([q] ++ t)))).expandChars layers := by simp
      _ = [q] ++ (fill layers k.toList ++ ([q] ++ (ofChars t).expandChars layers)) := by
        rw [expandChars_append_of_notMem hquote, expandChars_placeholder hbrace, expandChars_append_of_notMem hquote]
      _ = q :: ((value k).toList ++ [q]) ++ (ofChars t).expandChars layers := by simp [hf k hk]

theorem before_filled (hw : w.Proper names) (he : w.Encloses value) (ht : ∀ c ∈ t.head?, isBlank c = true) :
    (w.filled value).Before t := by
  cases w with
  | plain w => exact ⟨hw.1, hw.2.1, fun c hc => by simp [isBare, ht c hc]⟩
  | placeholder q k => exact ⟨hw.1, he⟩

theorem laid_expandChars (h : Listing names s ws) (hf : ∀ k ∈ names, fill layers k.toList = (value k).toList)
    (he : ∀ w ∈ ws, w.Encloses value) :
    Laid ((ofChars s).expandChars layers) ((ws.map (·.filled value)).map .piece) := by
  have hgap {gap : List Char} (hg : Blank gap) : '$' ∉ gap := fun hc => ne_dollar_of_isBlank (hg _ hc) rfl
  induction h with
  | @nil gap hg =>
    rw [← List.append_nil gap, expandChars_append_of_notMem (hgap hg), expandChars_nil, List.append_nil]
    exact .nil hg
  | @cons gap s w ws hg hw hs _ ih =>
    obtain ⟨hew, hews⟩ := List.forall_mem_cons.1 he
    have hp : (Arguments.Item.piece (w.filled value)).Before ((ofChars s).expandChars layers) :=
      before_filled hw hew (isBlank_of_mem_head?_expandChars hs)
    rw [expandChars_append_of_notMem (hgap hg), expandChars_word hw hs hf]
    exact .cons hg hp (ih hews)

theorem ofList_content_filled (w : Word) : .ofList (w.filled value).content = w.argument value := by
  cases w <;> simp [Word.filled, Word.argument, Arguments.Piece.content]

theorem split_expand {m : String} (h : Listing names m.toList ws)
    (hf : ∀ k ∈ names, fill layers k.toList = (value k).toList) (he : ∀ w ∈ ws, w.Encloses value) :
    Arguments.split ((ofText m).expand layers) = ws.map (·.argument value) := by
  have hl : Laid ((ofText m).parts.expandChars layers) _ := laid_expandChars h hf he
  rw [expand_eq_parts, Arguments.split_ofList, Arguments.splitChars_of_laid hl, Arguments.filterMap_argument?,
    List.map_map, List.map_map]
  exact List.map_congr_left fun w _ => ofList_content_filled w

end Template

namespace Parameters

variable {o : Operation} {p : Parameters}

def value (p : Parameters) (k : String) : String := (Template.valueIn? p.layers k).getD ""

theorem fill_of_declared {k : String} (hk : k ∈ o.declaredNames) :
    Template.fill (p.layers ++ [unset o p]) k.toList = (p.value k).toList := by
  rw [Template.fill, String.ofList_toList, valueIn?_of_declared hk, value]

end Parameters

namespace ToolStage

open Template (Listing Word)

/-- The words of the template are the arguments of the command line, each quoted placeholder with the value in
its place. The value is what the parameters hold, and behind an assignment what was given or else the default. -/
theorem split_commandLine (s : ToolStage) (ws : List Word)
    (h : Listing s.operation.declaredNames s.operation.command.toList ws) :
    (∀ p : Parameters, (∀ w ∈ ws, w.Encloses p.value) →
      Arguments.split { s with parameters := p }.commandLine = ws.map (·.argument p.value)) ∧
    ∀ (given : List (String × String)) (t : ToolStage),
      s.operation.validate = .ok () → s.assign (.ofList given) = (.ok (), t) →
      (∀ w ∈ ws, w.Encloses (s.operation.valueOf (.ofList given))) →
      Arguments.split t.commandLine = ws.map (·.argument (s.operation.valueOf (.ofList given))) := by
  refine ⟨fun p he => ?_, fun given t hv ha he => ?_⟩
  · exact Template.split_expand h (fun k hk => Parameters.fill_of_declared hk) he
  · obtain ⟨hn, rfl⟩ := assign_eq_ok_iff.1 ha
    refine Template.split_expand h (fun k hk => ?_) he
    rw [Parameters.fill_of_declared hk, Parameters.value,
      Parameters.valueIn?_assign hv (OrderedMap.distinct_ofList given) hn hk, Operation.valueOf]

def enclosingWords : List Word := [.plain ['r', 'u', 'n'], .placeholder '"' "in", .placeholder '\'' "tag"]

def enclosing : ToolStage where
  label := "tool:run"
  operation := {
    name := "run"
    command := "run\t\"$\x7bin\x7d\" '$\x7btag\x7d'"
    runtime := some .inProcess
    inputs := [⟨"in", true, none⟩]
    outputs := []
    parameters := [⟨"tag", false, none⟩] }
  parameters := .empty
  workingDir := "."

def enclosingPairs : List (String × String) := [("in", "it's $\x7btag\x7d\n")]

def enclosingLocal : Parameters := ⟨.ofList [("in", "work dir/in.txt")], ∅, ∅⟩

theorem listing_enclosing :
    Listing enclosing.operation.declaredNames enclosing.operation.command.toList enclosingWords := by
  have hspace : Blank [' '] := by decide
  have htab : Blank ['\t'] := by decide
  have hwtag : (Word.placeholder '\'' "tag").Proper enclosing.operation.declaredNames := by decide
  have hwin : (Word.placeholder '"' "in").Proper enclosing.operation.declaredNames := by decide
  have hwrun : (Word.plain ['r', 'u', 'n']).Proper enclosing.operation.declaredNames := by decide
  have htag := Listing.cons hspace hwtag (by simp) (.nil Text.blank_nil)
  have hin := Listing.cons htab hwin (fun _ hc => by cases hc; rfl) htag
  have hrun := Listing.cons Text.blank_nil hwrun (fun _ hc => by cases hc; rfl) hin
  have hc : enclosing.operation.command.toList = [] ++ ((Word.plain ['r', 'u', 'n']).written ++
      (['\t'] ++ ((Word.placeholder '"' "in").written ++ ([' '] ++ ((Word.placeholder '\'' "tag").written ++ []))))) := by
    decide +kernel
  exact hc ▸ hrun

theorem encloses_enclosingWords {value : String → String} (hin : '"' ∉ (value "in").toList)
    (htag : '\'' ∉ (value "tag").toList) : ∀ w ∈ enclosingWords, w.Encloses value := by
  simp only [enclosingWords, List.forall_mem_cons]
  exact ⟨trivial, hin, htag, nofun⟩

theorem split_commandLine_enclosing :
    Listing enclosing.operation.declaredNames enclosing.operation.command.toList enclosingWords ∧
      (∀ w ∈ enclosingWords, w.Encloses enclosingLocal.value) ∧
      Arguments.split { enclosing with parameters := enclosingLocal }.commandLine = ["run", "work dir/in.txt", ""] ∧
      enclosing.operation.validate = .ok () ∧ (enclosing.assign (.ofList enclosingPairs)).1 = .ok () ∧
      (∀ w ∈ enclosingWords, w.Encloses (enclosing.operation.valueOf (.ofList enclosingPairs))) ∧
      Arguments.split (enclosing.assign (.ofList enclosingPairs)).2.commandLine = ["run", "it's $\x7btag\x7d\n", ""] := by
  obtain ⟨hlocal, hassigned⟩ := split_commandLine enclosing enclosingWords listing_enclosing
  have hv : enclosing.operation.validate = .ok () := by decide +kernel
  have ha : (enclosing.assign (.ofList enclosingPairs)).1 = .ok () := by decide
  have hel : ∀ w ∈ enclosingWords, w.Encloses enclosingLocal.value :=
    encloses_enclosingWords (by decide +kernel) (by decide +kernel)
  have hea : ∀ w ∈ enclosingWords, w.Encloses (enclosing.operation.valueOf (.ofList enclosingPairs)) :=
    encloses_enclosingWords (by decide +kernel) (by decide +kernel)
  refine ⟨listing_enclosing, hel, (hlocal _ hel).trans ?_, hv, ha, hea,
    (hassigned enclosingPairs _ hv (Prod.ext ha rfl) hea).trans ?_⟩
  · decide +kernel
  · decide +kernel

end ToolStage

end ToolPipeline
