import ToolPipeline.Proofs.ControlLine.TokenParser
import ToolPipeline.Proofs.OrderedMap

set_option autoImplicit false

/-!
The language of control lines, and that the parser accepts exactly it. A derivation carries what it
describes, so the results agree too.

    line    = literal '>' tail | tail
    tail    = command ('|' command)* ('>' literal)?
    command = literal literal ('-' literal '=' literal)*
-/

namespace ToolPipeline.ControlLine

def Command.adding (c : Command) (ps : List (String × String)) : Command :=
  { c with pairs := ps.foldl (fun m e => m.insert e.1 e.2) c.pairs }

theorem Command.adding_cons (c : Command) (key value : String) (ps : List (String × String)) :
    c.adding ((key, value) :: ps) = { c with pairs := c.pairs.insert key value }.adding ps := rfl

@[simp] theorem Command.adding_empty (tool action : String) (ps : List (String × String)) :
    (⟨tool, action, ∅⟩ : Command).adding ps = ⟨tool, action, .ofList ps⟩ := rfl

namespace Grammar

/-- Parameters with their values. Names are bare words. -/
inductive Pairs : List Token → List (String × String) → Prop
  | nil : Pairs [] []
  | cons {key value : String} {q : Bool} {ts : List Token} {ps : List (String × String)} : Pairs ts ps →
      Pairs (.dash :: .literal key false :: .equals :: .literal value q :: ts) ((key, value) :: ps)

inductive Behind (tool : String) : List Token → Command → Prop
  | intro {action : String} {q : Bool} {ts : List Token} {ps : List (String × String)}
      {pairs : ParameterMap} : tool ≠ "" → action ≠ "" → Pairs ts ps → OrderedMap.Collects ps pairs →
      Behind tool (.literal action q :: ts) ⟨tool, action, pairs⟩

inductive Further : List Token → List Command → Prop
  | nil : Further [] []
  | cons {tool : String} {q : Bool} {ts us : List Token} {c : Command} {cs : List Command} :
      Behind tool ts c → Further us cs → Further (.pipe :: .literal tool q :: (ts ++ us)) (c :: cs)

/-- The file for the result. An empty name is none. -/
inductive Redirection : List Token → Option String → Prop
  | nil : Redirection [] none
  | file {name : String} {q : Bool} : name ≠ "" → Redirection [.redirect, .literal name q] (some name)
  | unnamed {q : Bool} : Redirection [.redirect, .literal "" q] none

inductive Tail (tool : String) : List Token → Option String → List Command → Prop
  | intro {ts us vs : List Token} {c : Command} {cs : List Command} {stdout : Option String} :
      Behind tool ts c → Further us cs → Redirection vs stdout → Tail tool (ts ++ us ++ vs) stdout (c :: cs)

inductive Line : List Token → Pipeline → Prop
  | fromFile {file tool : String} {q r : Bool} {ts : List Token} {stdout : Option String} {cs : List Command} :
      file ≠ "" → Tail tool ts stdout cs →
      Line (.literal file q :: .redirect :: .literal tool r :: ts) ⟨some file, stdout, cs⟩
  | fromUnnamed {tool : String} {q r : Bool} {ts : List Token} {stdout : Option String} {cs : List Command} :
      Tail tool ts stdout cs →
      Line (.literal "" q :: .redirect :: .literal tool r :: ts) ⟨none, stdout, cs⟩
  | fromTool {tool : String} {q : Bool} {ts : List Token} {stdout : Option String} {cs : List Command} :
      Tail tool ts stdout cs → Line (.literal tool q :: ts) ⟨none, stdout, cs⟩

/-- All that follows an action: its parameters, further commands, and the file for the result. -/
inductive Rest : List Token → List (String × String) → List Command → Option String → Prop
  | intro {ts us vs : List Token} {ps : List (String × String)} {cs : List Command} {stdout : Option String} :
      Pairs ts ps → Further us cs → Redirection vs stdout → Rest (ts ++ (us ++ vs)) ps cs stdout

variable {ts us : List Token} {ps : List (String × String)} {cs : List Command} {stdout : Option String}

theorem ne_empty_of_isEmpty {s : String} (h : ¬s.isEmpty = true) : s ≠ "" := by
  rintro rfl
  exact h rfl

theorem redirection_fileName (name : String) (q : Bool) :
    Redirection [.redirect, .literal name q] (fileName name) := by
  unfold fileName
  split
  · next he =>
    obtain rfl : name = "" := String.isEmpty_iff.1 he
    exact .unnamed
  · next he => exact .file (ne_empty_of_isEmpty he)

theorem line_fileName (file : String) (q r : Bool) {tool : String} (h : Tail tool ts stdout cs) :
    Line (.literal file q :: .redirect :: .literal tool r :: ts) ⟨fileName file, stdout, cs⟩ := by
  unfold fileName
  split
  · next he =>
    obtain rfl : file = "" := String.isEmpty_iff.1 he
    exact .fromUnnamed h
  · next he => exact .fromFile (ne_empty_of_isEmpty he) h

theorem Behind.distinct {tool : String} {c : Command} (h : Behind tool ts c) : c.pairs.Distinct := by
  obtain ⟨-, -, -, hc⟩ := h
  exact hc.eq_ofList ▸ OrderedMap.distinct_ofList _

theorem Further.distinct (h : Further ts cs) : ∀ c ∈ cs, c.pairs.Distinct := by
  induction h with
  | nil => nofun
  | cons hb _ ih => exact List.forall_mem_cons.2 ⟨hb.distinct, ih⟩

theorem Tail.distinct {tool : String} (h : Tail tool ts stdout cs) : ∀ c ∈ cs, c.pairs.Distinct := by
  obtain ⟨hb, hf, -⟩ := h
  exact List.forall_mem_cons.2 ⟨hb.distinct, hf.distinct⟩

theorem Line.distinct {p : Pipeline} (h : Line ts p) : ∀ c ∈ p.commands, c.pairs.Distinct := by
  cases h with
  | fromFile _ h => exact h.distinct
  | fromUnnamed h => exact h.distinct
  | fromTool h => exact h.distinct

theorem Tail.tool_ne {tool : String} (h : Tail tool ts stdout cs) : tool ≠ "" := by
  obtain ⟨⟨ht, -, -, -⟩, -, -⟩ := h
  exact ht

theorem Tail.eq_cons {tool : String} (h : Tail tool ts stdout cs) : ∃ text q s, ts = .literal text q :: s := by
  obtain ⟨⟨-, -, -, -⟩, -, -⟩ := h
  exact ⟨_, _, _, rfl⟩

theorem Rest.pair {key value : String} {q : Bool} (h : Rest ts ps cs stdout) :
    Rest (.dash :: .literal key false :: .equals :: .literal value q :: ts) ((key, value) :: ps) cs stdout := by
  obtain ⟨hp, hf, hr⟩ := h
  exact .intro (.cons hp) hf hr

theorem Rest.command {tool action : String} {q r : Bool} (ht : tool ≠ "") (ha : action ≠ "")
    (h : Rest ts ps cs stdout) :
    Rest (.pipe :: .literal tool q :: .literal action r :: ts) [] (⟨tool, action, .ofList ps⟩ :: cs) stdout := by
  obtain ⟨hp, hf, hr⟩ := h
  have hc := Behind.intro (q := r) ht ha hp (OrderedMap.collects_ofList ps)
  simpa using Rest.intro .nil (.cons (q := q) hc hf) hr

theorem Rest.file {name : String} {q : Bool} : Rest [.redirect, .literal name q] [] [] (fileName name) :=
  .intro .nil .nil (redirection_fileName name q)

theorem Rest.nil : Rest [] [] [] none := .intro .nil .nil .nil

theorem rest_of_further {u : Option (Nat × Char)} {n : Nat} {done : List Command} {last : Command}
    (h : Tokens.further u n done last ts = .ok (stdout, cs)) :
    u = none ∧ ∃ ps ds, Rest ts ps ds stdout ∧ cs = done ++ last.adding ps :: ds := by
  fun_induction Tokens.further u n done last ts with
  | case1 n done last k v q s ih =>
    obtain ⟨hu, ps, ds, hr, rfl⟩ := ih h
    exact ⟨hu, (k, v) :: ps, ds, hr.pair, rfl⟩
  | case7 n done last tool q ht action r s ha ih =>
    obtain ⟨hu, ps, ds, hr, rfl⟩ := ih h
    refine ⟨hu, [], _, hr.command (ne_empty_of_isEmpty ht) (ne_empty_of_isEmpty ha), ?_⟩
    rw [List.append_assoc]
    rfl
  | case10 n done last file q s he =>
    cases h
    obtain ⟨rfl, rfl⟩ : s = [] ∧ u = none := by simpa using he
    exact ⟨rfl, [], [], .file, rfl⟩
  | case13 n done last s _ _ _ _ _ _ _ _ he =>
    cases h
    obtain ⟨rfl, rfl⟩ : s = [] ∧ u = none := by simpa using he
    exact ⟨rfl, [], [], .nil, rfl⟩
  | _ => cases h

theorem further_of_pairs (h : Pairs ts ps) (u : Option (Nat × Char)) (n : Nat) (done : List Command)
    (last : Command) (us : List Token) :
    ∃ m, Tokens.further u n done last (ts ++ us) = Tokens.further u m done (last.adding ps) us := by
  induction h generalizing n last with
  | nil => exact ⟨n, rfl⟩
  | cons _ ih =>
    obtain ⟨m, hm⟩ := ih (n + 4) _
    exact ⟨m, by simpa [Tokens.further, Command.adding_cons] using hm⟩

theorem further_of_redirection (h : Redirection ts stdout) (n : Nat) (done : List Command) (last : Command) :
    Tokens.further none n done last ts = .ok (stdout, done ++ [last]) := by
  cases h with
  | nil => simp [Tokens.further]
  | file hn => simp [Tokens.further, fileName, hn]
  | unnamed => simp [Tokens.further, fileName]

theorem further_of_further {us vs : List Token} (h : Further us cs) (hr : Redirection vs stdout) (n : Nat)
    (done : List Command) (last : Command) :
    Tokens.further none n done last (us ++ vs) = .ok (stdout, done ++ last :: cs) := by
  induction h generalizing n done last with
  | nil => exact further_of_redirection hr n done last
  | cons hc _ ih =>
    cases hc with
    | @intro action r ts ps pairs ht ha hp hm =>
      obtain rfl := hm.eq_ofList
      obtain ⟨m, he⟩ := further_of_pairs hp none (n + 3) (done ++ [last]) ⟨_, action, ∅⟩ (_ ++ vs)
      rw [ih] at he
      simpa [Tokens.further, ht, ha] using he

theorem further_of_rest (h : Rest ts ps cs stdout) (n : Nat) (done : List Command) (last : Command) :
    Tokens.further none n done last ts = .ok (stdout, done ++ last.adding ps :: cs) := by
  obtain ⟨hp, hf, hr⟩ := h
  obtain ⟨m, hm⟩ := further_of_pairs hp none n done last _
  rw [hm, further_of_further hf hr]

theorem tail_sound {u : Option (Nat × Char)} {n : Nat} {stdin : Option String} {tool : String} {p : Pipeline}
    (ht : tool ≠ "") (h : Tokens.tail u n stdin tool ts = .ok p) :
    u = none ∧ p.stdin = stdin ∧ Tail tool ts p.stdout p.commands := by
  revert h
  fun_cases Tokens.tail u n stdin tool ts with
  | case2 action q s ha =>
    intro h
    cases hf : Tokens.further u (n + 1) [] ⟨tool, action, ∅⟩ s with
    | error => rw [hf] at h; cases h
    | ok r =>
      obtain ⟨stdout, cs⟩ := r
      rw [hf] at h
      cases h
      obtain ⟨hu, ps, ds, ⟨hp, hd, hr⟩, hc⟩ := rest_of_further hf
      have hb := Behind.intro (q := q) ht (ne_empty_of_isEmpty ha) hp (OrderedMap.collects_ofList ps)
      refine ⟨hu, rfl, ?_⟩
      simpa [hc] using Tail.intro hb hd hr
  | _ => intro h; cases h

theorem tail_complete {n : Nat} {stdin : Option String} {tool : String} (h : Tail tool ts stdout cs) :
    Tokens.tail none n stdin tool ts = .ok ⟨stdin, stdout, cs⟩ := by
  obtain ⟨hb, hf, hr⟩ := h
  cases hb with
  | @intro action q ts ps pairs ht ha hp hm =>
    obtain rfl := hm.eq_ofList
    have h := further_of_rest (.intro hp hf hr) (n + 1) [] ⟨tool, action, ∅⟩
    simp [Tokens.tail, ha, h, Except.map]

theorem line_sound {u : Option (Nat × Char)} {p : Pipeline} (h : Tokens.line u ts = .ok p) :
    u = none ∧ Line ts p := by
  revert h
  fun_cases Tokens.line u ts with
  | case2 first q tool r s ht =>
    intro h
    obtain ⟨hu, hi, hs⟩ := tail_sound (ne_empty_of_isEmpty ht) h
    obtain ⟨stdin, stdout, cs⟩ := p
    cases hi
    exact ⟨hu, line_fileName first q r hs⟩
  | case5 first q s _ _ he =>
    intro h
    by_cases hf : first.isEmpty = true
    · obtain ⟨rfl, -⟩ : s = [] ∧ u ≠ none := by simpa [hf] using he
      cases h
    · obtain ⟨hu, hi, hs⟩ := tail_sound (ne_empty_of_isEmpty hf) h
      obtain ⟨stdin, stdout, cs⟩ := p
      cases hi
      exact ⟨hu, .fromTool hs⟩
  | _ => intro h; cases h

theorem line_complete {p : Pipeline} (h : Line ts p) : Tokens.line none ts = .ok p := by
  cases h with
  | fromFile hf h =>
    have ht := h.tool_ne
    simp [Tokens.line, ht, tail_complete h, fileName, hf]
  | fromUnnamed h =>
    have ht := h.tool_ne
    simp [Tokens.line, ht, tail_complete h, fileName]
  | fromTool h =>
    have ht := h.tool_ne
    obtain ⟨action, r, s, rfl⟩ := h.eq_cons
    simp [Tokens.line, ht, tail_complete h]

end Grammar

theorem distinct_of_parse {line : String} {p : Pipeline} (h : parse line = .ok p) :
    ∀ c ∈ p.commands, c.pairs.Distinct := by
  rw [parse_eq_tokens] at h
  exact (Grammar.line_sound h).2.distinct

/-- A control line is accepted exactly if reading its tokens comes to the end of input and the tokens are
derived from the grammar, and the result is what the derivation describes. -/
theorem parse_eq_ok_iff_line (line : String) (p : Pipeline) :
    parse line = .ok p ↔ ∃ ts, (Cursor.ofLine line).Delivers ts ∧ Grammar.Line ts p := by
  simp only [Cursor.delivers_ofLine_iff, parse_eq_tokens]
  constructor
  · intro h
    obtain ⟨hu, hl⟩ := Grammar.line_sound h
    exact ⟨(lex line).tokens, by rw [← hu], hl⟩
  · rintro ⟨ts, ht, hl⟩
    rw [ht]
    exact Grammar.line_complete hl

example : parse "in > sort lines -k=a -r=yes -k='b c' | 'uniq' count > ''" = .ok ⟨some "in", none,
    [⟨"sort", "lines", ⟨[("k", "b c"), ("r", "yes")]⟩⟩, ⟨"uniq", "count", ∅⟩]⟩ := by decide +kernel

end ToolPipeline.ControlLine
