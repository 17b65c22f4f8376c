import ToolPipeline.ControlLine.Parser
import ToolPipeline.Proofs.ControlLine.Lexer

set_option autoImplicit false

/-!
The parser of control lines as a function of the tokens of a line. It is the same parser, for
`parse_eq_tokens` holds, but its recursion is over the tokens instead of a cursor.
-/

namespace ToolPipeline.ControlLine

namespace Tokens

/-- Why the first of the tokens left, which stands at `position`, is refused. Behind the last token
stands either the end of input or the quote that is not closed. -/
def refusal (unclosed : Option (Nat × Char)) (position : Nat) (expected : Expectation) :
    List Token → SyntaxError
  | t :: _ => .unexpectedToken position expected t
  | [] =>
    match unclosed with
    | some (offset, quote) => .unterminatedQuote offset quote
    | none => .unexpectedToken position expected .endOfInput

/-- Reads what may follow the action of a command: parameters, further commands, a redirection.
`n` tokens were read before, `done` are the finished commands and `last` the open one. -/
def further (unclosed : Option (Nat × Char)) (n : Nat) (done : List Command) (last : Command) :
    List Token → Except SyntaxError (Option String × List Command)
  | .dash :: .literal key false :: .equals :: .literal value _ :: s =>
    further unclosed (n + 4) done { last with pairs := last.pairs.insert key value } s
  | .dash :: .literal _ false :: .equals :: s => .error (refusal unclosed (n + 4) .parameterValue s)
  | .dash :: .literal _ false :: s => .error (refusal unclosed (n + 3) .equalsSign s)
  | .dash :: s => .error (refusal unclosed (n + 2) .parameterName s)
  | .pipe :: .literal tool q :: s =>
    if tool.isEmpty then .error (refusal unclosed (n + 2) .toolAfterPipe [.literal tool q])
    else
      match s with
      | .literal action r :: s =>
        if action.isEmpty then .error (refusal unclosed (n + 3) .action [.literal action r])
        else further unclosed (n + 3) (done ++ [last]) ⟨tool, action, ∅⟩ s
      | s => .error (refusal unclosed (n + 3) .action s)
  | .pipe :: s => .error (refusal unclosed (n + 2) .toolAfterPipe s)
  | .redirect :: .literal file _ :: s =>
    if s.isEmpty && unclosed.isNone then .ok (fileName file, done ++ [last])
    else .error (refusal unclosed (n + 3) .continuation s)
  | .redirect :: s => .error (refusal unclosed (n + 2) .stdoutFile s)
  | s =>
    if s.isEmpty && unclosed.isNone then .ok (none, done ++ [last])
    else .error (refusal unclosed (n + 1) .continuation s)

def tail (unclosed : Option (Nat × Char)) (n : Nat) (stdin : Option String) (tool : String) :
    List Token → Except SyntaxError Pipeline
  | .literal action q :: s =>
    if action.isEmpty then .error (refusal unclosed (n + 1) .action [.literal action q])
    else (further unclosed (n + 1) [] ⟨tool, action, ∅⟩ s).map fun r => ⟨stdin, r.1, r.2⟩
  | s => .error (refusal unclosed (n + 1) .action s)

def line (unclosed : Option (Nat × Char)) : List Token → Except SyntaxError Pipeline
  | .literal first _ :: .redirect :: .literal tool q :: s =>
    if tool.isEmpty then .error (refusal unclosed 3 .toolAfterRedirect [.literal tool q])
    else tail unclosed 3 (fileName first) tool s
  | .literal _ _ :: .redirect :: s => .error (refusal unclosed 3 .toolAfterRedirect s)
  | .literal first _ :: s =>
    if first.isEmpty && !(s.isEmpty && unclosed.isSome) then
      .error (.unexpectedToken 1 .stdinOrTool (.literal first true))
    else tail unclosed 1 none first s
  | s => .error (refusal unclosed 1 .stdinOrTool s)

end Tokens

namespace Reading

variable {α β : Type} {c : Cursor} {n : Nat} {t : Token} {ts : List Token} {u : Option (Nat × Char)}

theorem bind_apply (r : Reading α) (f : α → Reading β) (c : Cursor) :
    (r >>= f) c = match r c with
      | .ok (a, d) => f a d
      | .error e => .error e := by
  change Except.bind (r c) (fun p => f p.1 p.2) = _
  cases r c <;> rfl

theorem bind_of_ok {r : Reading α} {f : α → Reading β} {a : α} {d : Cursor} (h : r c = .ok (a, d)) :
    (r >>= f) c = f a d := by
  rw [bind_apply, h]

theorem bind_of_error {r : Reading α} {f : α → Reading β} {e : SyntaxError} (h : r c = .error e) :
    (r >>= f) c = .error e := by
  rw [bind_apply, h]

theorem token_of_cons (h : c.Ahead n (t :: ts) u) :
    ∃ d, token c = .ok (t, d) ∧ d.Stands (n + 1) t ⟨ts, u⟩ := by
  obtain ⟨d, hd, hs⟩ := h.next_of_cons
  exact ⟨d, by simp [token, hd], hs⟩

theorem token_of_nil (h : c.Ahead n [] none) :
    ∃ d, token c = .ok (.endOfInput, d) ∧ d.Stands (n + 1) .endOfInput ⟨[], none⟩ := by
  obtain ⟨d, hd, hs⟩ := h.next_of_nil
  exact ⟨d, by simp [token, hd], hs⟩

theorem token_of_unclosed {o : Nat} {q : Char} (h : c.Ahead n [] (some (o, q))) :
    token c = .error (.unterminatedQuote o q) := by
  obtain ⟨d, hd⟩ := h.next_of_unclosed
  simp [token, hd]

theorem refuse_of_stands (h : c.Stands n t ⟨ts, u⟩) (e : Expectation) :
    (refuse e c : Except SyntaxError (α × Cursor)) = .error (.unexpectedToken n e t) := by
  rw [refuse, h.position_eq, h.current_eq]

theorem token_bind_refuse {r : Token → Reading α} {e : Expectation} (h : c.Ahead n ts u)
    (hr : r (ts.head?.getD .endOfInput) = refuse e) :
    (token >>= r) c = .error (Tokens.refusal u (n + 1) e ts) := by
  rw [bind_apply]
  cases ts with
  | cons t ts =>
    obtain ⟨d, hd, hs⟩ := token_of_cons h
    rw [hd]
    exact (congrFun hr d).trans (refuse_of_stands hs e)
  | nil =>
    cases u with
    | none =>
      obtain ⟨d, hd, hs⟩ := token_of_nil h
      rw [hd]
      exact (congrFun hr d).trans (refuse_of_stands hs e)
    | some p => rw [token_of_unclosed h, Tokens.refusal]

theorem literal_of_cons {e : Expectation} {text : String} {q : Bool}
    (h : c.Ahead n (.literal text q :: ts) u) :
    ∃ d, literal e c = .ok (text, d) ∧ d.Stands (n + 1) (.literal text q) ⟨ts, u⟩ := by
  obtain ⟨d, hd, hs⟩ := token_of_cons h
  refine ⟨d, ?_, hs⟩
  rw [literal, bind_of_ok hd]
  rfl

theorem literal_refuses {e : Expectation} (h : c.Ahead n ts u)
    (ht : ∀ text q s, ts ≠ .literal text q :: s) :
    literal e c = .error (Tokens.refusal u (n + 1) e ts) := by
  refine token_bind_refuse h ?_
  cases ts with
  | nil => rfl
  | cons t ts =>
    cases t with
    | literal text q => exact absurd rfl (ht text q ts)
    | _ => rfl

theorem name_of_cons {e : Expectation} {text : String} {q : Bool} (h : c.Ahead n (.literal text q :: ts) u)
    (ht : text.isEmpty = false) :
    ∃ d, name e c = .ok (text, d) ∧ d.Stands (n + 1) (.literal text q) ⟨ts, u⟩ := by
  obtain ⟨d, hd, hs⟩ := literal_of_cons h
  refine ⟨d, ?_, hs⟩
  rw [name, bind_of_ok hd]
  simp only [ht, Bool.false_eq_true, if_false]
  rfl

theorem name_refuses_empty {e : Expectation} {text : String} {q : Bool}
    (h : c.Ahead n (.literal text q :: ts) u) (ht : text.isEmpty = true) :
    name e c = .error (.unexpectedToken (n + 1) e (.literal text q)) := by
  obtain ⟨d, hd, hs⟩ := literal_of_cons h
  rw [name, bind_of_ok hd]
  simp only [ht, if_true]
  exact refuse_of_stands hs e

theorem name_refuses {e : Expectation} (h : c.Ahead n ts u)
    (ht : ∀ text q s, ts ≠ .literal text q :: s) :
    name e c = .error (Tokens.refusal u (n + 1) e ts) := by
  rw [name, bind_of_error (literal_refuses h ht)]

theorem key_of_cons {text : String} (h : c.Ahead n (.literal text false :: ts) u)
    (ht : text.isEmpty = false) :
    ∃ d, key c = .ok (text, d) ∧ d.Stands (n + 1) (.literal text false) ⟨ts, u⟩ := by
  obtain ⟨d, hd, hs⟩ := token_of_cons h
  refine ⟨d, ?_, hs⟩
  rw [key, bind_of_ok hd]
  simp only [ht, Bool.false_eq_true, if_false]
  rfl

theorem key_refuses (h : c.Ahead n ts u) (ht : ∀ text s, ts ≠ .literal text false :: s) :
    key c = .error (Tokens.refusal u (n + 1) .parameterName ts) := by
  refine token_bind_refuse h ?_
  cases ts with
  | nil => rfl
  | cons t ts =>
    cases t with
    | literal text q =>
      cases q with
      | false => exact absurd rfl (ht text ts)
      | true => rfl
    | _ => rfl

theorem equalsSign_of_cons (h : c.Ahead n (.equals :: ts) u) :
    ∃ d, equalsSign c = .ok ((), d) ∧ d.Stands (n + 1) .equals ⟨ts, u⟩ := by
  obtain ⟨d, hd, hs⟩ := token_of_cons h
  refine ⟨d, ?_, hs⟩
  rw [equalsSign, bind_of_ok hd]
  rfl

theorem equalsSign_refuses (h : c.Ahead n ts u) (ht : ∀ s, ts ≠ .equals :: s) :
    equalsSign c = .error (Tokens.refusal u (n + 1) .equalsSign ts) := by
  refine token_bind_refuse h ?_
  cases ts with
  | nil => rfl
  | cons t ts =>
    cases t with
    | equals => exact absurd rfl (ht ts)
    | _ => rfl

theorem pair_of_cons {k v : String} {q : Bool}
    (h : c.Ahead n (.literal k false :: .equals :: .literal v q :: ts) u) (hk : k.isEmpty = false) :
    ∃ d, pair c = .ok ((k, v), d) ∧ d.Stands (n + 3) (.literal v q) ⟨ts, u⟩ := by
  obtain ⟨d₁, h₁, s₁⟩ := key_of_cons h hk
  obtain ⟨d₂, h₂, s₂⟩ := equalsSign_of_cons (.fresh s₁)
  obtain ⟨d₃, h₃, s₃⟩ := literal_of_cons (.fresh s₂)
  refine ⟨d₃, ?_, s₃⟩
  rw [pair, bind_of_ok h₁, bind_of_ok h₂, bind_of_ok h₃]
  rfl

theorem pair_refuses_value {k : String} (h : c.Ahead n (.literal k false :: .equals :: ts) u)
    (hk : k.isEmpty = false) (ht : ∀ text q s, ts ≠ .literal text q :: s) :
    pair c = .error (Tokens.refusal u (n + 3) .parameterValue ts) := by
  obtain ⟨d₁, h₁, s₁⟩ := key_of_cons h hk
  obtain ⟨d₂, h₂, s₂⟩ := equalsSign_of_cons (.fresh s₁)
  rw [pair, bind_of_ok h₁, bind_of_ok h₂, bind_of_error (literal_refuses (.fresh s₂) ht)]

theorem pair_refuses_equals {k : String} (h : c.Ahead n (.literal k false :: ts) u)
    (hk : k.isEmpty = false) (ht : ∀ s, ts ≠ .equals :: s) :
    pair c = .error (Tokens.refusal u (n + 2) .equalsSign ts) := by
  obtain ⟨d₁, h₁, s₁⟩ := key_of_cons h hk
  rw [pair, bind_of_ok h₁, bind_of_error (equalsSign_refuses (.fresh s₁) ht)]

theorem pair_refuses_key (h : c.Ahead n ts u) (ht : ∀ text s, ts ≠ .literal text false :: s) :
    pair c = .error (Tokens.refusal u (n + 1) .parameterName ts) := by
  rw [pair, bind_of_error (key_refuses h ht)]

theorem current_apply (c : Cursor) : current c = .ok (c.current, c) := rfl

theorem whileCurrent_of_eq {t : Token} {step : α → Reading α} {h : ∀ a, ReadsOn (step a)} {a : α}
    {c : Cursor} (hc : c.current = t) :
    whileCurrent t step h a c = (step a >>= whileCurrent t step h) c := by
  rw [whileCurrent, if_pos hc, bind_apply]
  split
  · next hs => rw [hs]
  · next hs => simp only [hs]

theorem whileCurrent_bind {t : Token} {step : α → Reading α} {h : ∀ a, ReadsOn (step a)} {a : α}
    {f : α → Reading β} {c : Cursor} (hc : c.current = t) :
    (whileCurrent t step h a >>= f) c = (step a >>= fun b => whileCurrent t step h b >>= f) c := by
  rw [bind_apply, whileCurrent_of_eq hc, ← bind_assoc]
  exact (bind_apply _ _ _).symm

theorem whileCurrent_bind_of_ne {t : Token} {step : α → Reading α} {h : ∀ a, ReadsOn (step a)} {a : α}
    {f : α → Reading β} {c : Cursor} (hc : c.current ≠ t) :
    (whileCurrent t step h a >>= f) c = f a c := by
  rw [bind_apply, whileCurrent, if_neg hc]

def onward (done : List Command) (last : Command) : Reading (Option String × List Command) := do
  let pairs ← whileCurrent .dash parameter readsOn_parameter last.pairs
  let commands ← whileCurrent .pipe another readsOn_another (done ++ [{ last with pairs }])
  let stdout ← redirection
  if (← current) = .endOfInput then pure (stdout, commands) else refuse .continuation

def further (done : List Command) (last : Command) : Reading (Option String × List Command) := do
  let _ ← token
  onward done last

def called (stdin : Option String) (tool : String) : Reading Pipeline := do
  let action ← name .action
  let r ← further [] ⟨tool, action, ∅⟩
  pure ⟨stdin, r.1, r.2⟩

theorem tail_eq (tool : String) : tail tool = called none tool := by
  unfold tail command called further onward
  simp only [bind_assoc, pure_bind, List.nil_append]
  refine bind_congr fun action => bind_congr fun _ => bind_congr fun pairs => bind_congr fun commands =>
    bind_congr fun stdout => bind_congr fun t => ?_
  split <;> rfl

theorem tail_bind (tool : String) (stdin : Option String) : (do
    let p ← tail tool
    pure { p with stdin := stdin }) = called stdin tool := by
  rw [tail_eq, called]
  simp only [bind_assoc, pure_bind]
  rfl

theorem onward_of_dash {done : List Command} {last : Command} (hc : c.current = .dash) :
    onward done last c = (do
      let p ← pair
      further done { last with pairs := last.pairs.insert p.1 p.2 }) c := by
  unfold onward
  rw [whileCurrent_bind hc]
  simp only [parameter, bind_assoc, pure_bind]
  rfl

theorem onward_of_pipe {done : List Command} {last : Command} (hc : c.current = .pipe) :
    onward done last c = (do
      let tool ← name .toolAfterPipe
      let action ← name .action
      further (done ++ [last]) ⟨tool, action, ∅⟩ : Reading _) c := by
  unfold onward
  rw [whileCurrent_bind_of_ne (by simp [hc]), whileCurrent_bind hc]
  simp only [another, command, bind_assoc, pure_bind]
  rfl

theorem onward_of_redirect {done : List Command} {last : Command} (hc : c.current = .redirect) :
    onward done last c = (do
      let file ← literal .stdoutFile
      let _ ← token
      if (← current) = .endOfInput then pure (fileName file, done ++ [last])
      else refuse .continuation : Reading _) c := by
  unfold onward
  rw [whileCurrent_bind_of_ne (by simp [hc]), whileCurrent_bind_of_ne (by simp [hc])]
  unfold redirection
  rw [bind_assoc, bind_of_ok (current_apply _), if_pos hc]
  simp only [bind_assoc, pure_bind]

theorem onward_of_other {done : List Command} {last : Command} (hd : c.current ≠ .dash)
    (hp : c.current ≠ .pipe) (hr : c.current ≠ .redirect) :
    onward done last c = (if c.current = .endOfInput then pure (none, done ++ [last])
      else refuse .continuation : Reading _) c := by
  unfold onward
  rw [whileCurrent_bind_of_ne hd, whileCurrent_bind_of_ne hp]
  unfold redirection
  rw [bind_assoc, bind_of_ok (current_apply _), if_neg hr, pure_bind, bind_of_ok (current_apply _)]

theorem further_of_cons {done : List Command} {last : Command} (h : c.Ahead n (t :: ts) u) :
    ∃ d, further done last c = onward done last d ∧ d.Stands (n + 1) t ⟨ts, u⟩ := by
  obtain ⟨d, hd, hs⟩ := token_of_cons h
  refine ⟨d, ?_, hs⟩
  rw [further, bind_of_ok hd]

theorem further_of_dash {done : List Command} {last : Command} (h : c.Ahead n (.dash :: ts) u) :
    ∃ d, further done last c = (do
      let p ← pair
      further done { last with pairs := last.pairs.insert p.1 p.2 } : Reading _) d ∧ d.Ahead (n + 1) ts u := by
  obtain ⟨d, hd, hs⟩ := further_of_cons h
  exact ⟨d, hd.trans (onward_of_dash hs.current_eq), .fresh hs⟩

theorem further_of_pipe {done : List Command} {last : Command} (h : c.Ahead n (.pipe :: ts) u) :
    ∃ d, further done last c = (do
      let tool ← name .toolAfterPipe
      let action ← name .action
      further (done ++ [last]) ⟨tool, action, ∅⟩ : Reading _) d ∧ d.Ahead (n + 1) ts u := by
  obtain ⟨d, hd, hs⟩ := further_of_cons h
  exact ⟨d, hd.trans (onward_of_pipe hs.current_eq), .fresh hs⟩

theorem further_of_redirect {done : List Command} {last : Command} (h : c.Ahead n (.redirect :: ts) u) :
    ∃ d, further done last c = (do
      let file ← literal .stdoutFile
      let _ ← token
      if (← current) = .endOfInput then pure (fileName file, done ++ [last])
      else refuse .continuation : Reading _) d ∧ d.Ahead (n + 1) ts u := by
  obtain ⟨d, hd, hs⟩ := further_of_cons h
  exact ⟨d, hd.trans (onward_of_redirect hs.current_eq), .fresh hs⟩

theorem token_bind_end {a : α} (h : c.Ahead n ts u) (ht : ∀ t ∈ ts, t.Proper) :
    ((do
      let _ ← token
      if (← current) = .endOfInput then pure a else refuse .continuation : Reading α) c).map (·.1) =
      if ts.isEmpty && u.isNone then .ok a else .error (Tokens.refusal u (n + 1) .continuation ts) := by
  cases ts with
  | cons t ts =>
    obtain ⟨d, hd, hs⟩ := token_of_cons h
    have hne : t ≠ .endOfInput := by
      rintro rfl
      exact ht _ List.mem_cons_self
    rw [bind_of_ok hd, bind_of_ok (current_apply _), hs.current_eq, if_neg hne, refuse_of_stands hs]
    rfl
  | nil =>
    cases u with
    | none =>
      obtain ⟨d, hd, hs⟩ := token_of_nil h
      rw [bind_of_ok hd, bind_of_ok (current_apply _), hs.current_eq, if_pos rfl]
      rfl
    | some p => rw [bind_of_error (token_of_unclosed h)]; rfl

theorem further_of_file {done : List Command} {last : Command} {file : String} {q : Bool}
    (h : c.Ahead n (.redirect :: .literal file q :: ts) u)
    (hp : ∀ t ∈ Token.redirect :: .literal file q :: ts, t.Proper) :
    (further done last c).map (·.1) =
      if ts.isEmpty && u.isNone then .ok (fileName file, done ++ [last])
      else .error (Tokens.refusal u (n + 3) .continuation ts) := by
  obtain ⟨d, hd, h⟩ := further_of_redirect h
  obtain ⟨e, he, hs⟩ := literal_of_cons h
  rw [hd, bind_of_ok he]
  exact token_bind_end (.fresh hs) fun t ht => hp t (by simp [ht])

theorem further_of_other {done : List Command} {last : Command} (h : c.Ahead n ts u)
    (hp : ∀ t ∈ ts, t.Proper) (hd : ∀ s, ts ≠ .dash :: s) (hb : ∀ s, ts ≠ .pipe :: s)
    (hr : ∀ s, ts ≠ .redirect :: s) :
    (further done last c).map (·.1) =
      if ts.isEmpty && u.isNone then .ok (none, done ++ [last])
      else .error (Tokens.refusal u (n + 1) .continuation ts) := by
  rw [← token_bind_end h hp, further]
  congr 1
  cases ts with
  | cons t ts =>
    obtain ⟨d, ht, hs⟩ := token_of_cons h
    obtain rfl := hs.current_eq
    rw [bind_of_ok ht, bind_of_ok ht, bind_of_ok (current_apply _)]
    exact onward_of_other (fun hc => hd ts (by rw [hc])) (fun hc => hb ts (by rw [hc]))
      fun hc => hr ts (by rw [hc])
  | nil =>
    cases u with
    | none =>
      obtain ⟨d, ht, hs⟩ := token_of_nil h
      rw [bind_of_ok ht, bind_of_ok ht, bind_of_ok (current_apply _)]
      exact onward_of_other (by simp [hs.current_eq]) (by simp [hs.current_eq]) (by simp [hs.current_eq])
    | some p => rw [bind_of_error (token_of_unclosed h), bind_of_error (token_of_unclosed h)]

theorem map_further {done : List Command} {last : Command} (h : c.Ahead n ts u)
    (hp : ∀ t ∈ ts, t.Proper) :
    (further done last c).map (·.1) = Tokens.further u n done last ts := by
  fun_induction Tokens.further u n done last ts generalizing c with
  | case1 n done last k v q s ih =>
    obtain ⟨d, hd, h⟩ := further_of_dash h
    obtain ⟨e, he, hs⟩ := pair_of_cons h (hp (.literal k false) (by simp))
    rw [hd, bind_of_ok he]
    exact ih (.fresh hs) fun t ht => hp t (by simp [ht])
  | case2 n done last k s hne =>
    obtain ⟨d, hd, h⟩ := further_of_dash h
    have he := pair_refuses_value h (hp (.literal k false) (by simp)) hne
    rw [hd, bind_of_error he]
    rfl
  | case3 n done last k s _ hne =>
    obtain ⟨d, hd, h⟩ := further_of_dash h
    have he := pair_refuses_equals h (hp (.literal k false) (by simp)) hne
    rw [hd, bind_of_error he]
    rfl
  | case4 n done last s _ _ hne =>
    obtain ⟨d, hd, h⟩ := further_of_dash h
    rw [hd, bind_of_error (pair_refuses_key h hne)]
    rfl
  | case5 n done last tool q s ht =>
    obtain ⟨d, hd, h⟩ := further_of_pipe h
    rw [hd, bind_of_error (name_refuses_empty h ht)]
    rfl
  | case6 n done last tool q ht action r s ha =>
    obtain ⟨d, hd, h⟩ := further_of_pipe h
    obtain ⟨e, he, hs⟩ := name_of_cons h (eq_false_of_ne_true ht)
    rw [hd, bind_of_ok he, bind_of_error (name_refuses_empty (.fresh hs) ha)]
    rfl
  | case7 n done last tool q ht action r s ha ih =>
    obtain ⟨d, hd, h⟩ := further_of_pipe h
    obtain ⟨e, he, hs⟩ := name_of_cons h (eq_false_of_ne_true ht)
    obtain ⟨f, hf, hs'⟩ := name_of_cons (.fresh hs) (eq_false_of_ne_true ha)
    rw [hd, bind_of_ok he, bind_of_ok hf]
    exact ih (.fresh hs') fun t ht => hp t (by simp [ht])
  | case8 n done last tool q ht s hne =>
    obtain ⟨d, hd, h⟩ := further_of_pipe h
    obtain ⟨e, he, hs⟩ := name_of_cons h (eq_false_of_ne_true ht)
    rw [hd, bind_of_ok he, bind_of_error (name_refuses (.fresh hs) hne)]
    rfl
  | case9 n done last s hne =>
    obtain ⟨d, hd, h⟩ := further_of_pipe h
    rw [hd, bind_of_error (name_refuses h hne)]
    rfl
  | case10 n done last file q s he =>
    rw [further_of_file h hp, if_pos he]
  | case11 n done last file q s he =>
    rw [further_of_file h hp, if_neg he]
  | case12 n done last s hne =>
    obtain ⟨d, hd, h⟩ := further_of_redirect h
    rw [hd, bind_of_error (literal_refuses h hne)]
    rfl
  | case13 n done last s _ _ _ hd _ hb _ hr he =>
    rw [further_of_other h hp hd hb hr, if_pos he]
  | case14 n done last s _ _ _ hd _ hb _ hr he =>
    rw [further_of_other h hp hd hb hr, if_neg he]

theorem map_called {stdin : Option String} {tool : String} (h : c.Ahead n ts u)
    (hp : ∀ t ∈ ts, t.Proper) :
    (called stdin tool c).map (·.1) = Tokens.tail u n stdin tool ts := by
  fun_cases Tokens.tail u n stdin tool ts with
  | case1 action q s ha =>
    rw [called, bind_of_error (name_refuses_empty h ha)]
    rfl
  | case2 action q s ha =>
    obtain ⟨d, hd, hs⟩ := name_of_cons h (eq_false_of_ne_true ha)
    rw [called, bind_of_ok hd, ← map_further (.fresh hs) fun t ht => hp t (by simp [ht]), bind_apply]
    cases further [] ⟨tool, action, ∅⟩ d <;> rfl
  | case3 s hne =>
    rw [called, bind_of_error (name_refuses h hne)]
    rfl

/-- A token that is read ahead is there again once it is pushed back. -/
theorem token_of_ahead (h : c.Ahead n ts u) (hu : (ts.isEmpty && u.isSome) = false) :
    ∃ d, token c = .ok (ts.head?.getD .endOfInput, d) ∧ d.pushBack.Ahead n ts u := by
  cases ts with
  | cons t ts =>
    obtain ⟨d, hd, hs⟩ := token_of_cons h
    exact ⟨d, hd, .again hs⟩
  | nil =>
    cases u with
    | none =>
      obtain ⟨d, hd, hs⟩ := token_of_nil h
      exact ⟨d, hd, .againEnd hs⟩
    | some p => simp at hu

theorem line_of_redirect {first : String} {q : Bool}
    (h : c.Ahead n (.literal first q :: .redirect :: ts) u) :
    ∃ d, line c = (do
      let tool ← name .toolAfterRedirect
      called (fileName first) tool : Reading Pipeline) d ∧ d.Stands (n + 2) .redirect ⟨ts, u⟩ := by
  obtain ⟨d, hd, hs⟩ := literal_of_cons h
  obtain ⟨e, he, hs'⟩ := token_of_cons (.fresh hs)
  refine ⟨e, ?_, hs'⟩
  rw [line, bind_of_ok hd, bind_of_ok he, if_pos rfl]
  simp only [tail_bind]

theorem line_of_tool {first : String} {q : Bool} (h : c.Ahead n (.literal first q :: ts) u)
    (hu : (ts.isEmpty && u.isSome) = false) (hr : ∀ s, ts ≠ .redirect :: s) :
    ∃ d, line c = (if first.isEmpty then throw (.unexpectedToken 1 .stdinOrTool (.literal first true))
      else called none first : Reading Pipeline) d ∧ d.Ahead (n + 1) ts u := by
  obtain ⟨d, hd, hs⟩ := literal_of_cons h
  obtain ⟨e, he, ha⟩ := token_of_ahead (.fresh hs) hu
  refine ⟨e.pushBack, ?_, ha⟩
  have ht : ts.head?.getD .endOfInput ≠ .redirect := by
    match ts, hr with
    | [], _ => simp
    | t :: s, hr => rintro rfl; exact hr s rfl
  rw [line, bind_of_ok hd, bind_of_ok he, if_neg ht, tail_eq, bind_apply]
  rfl

theorem map_line (h : c.Ahead 0 ts u) (hp : ∀ t ∈ ts, t.Proper) :
    (line c).map (·.1) = Tokens.line u ts := by
  fun_cases Tokens.line u ts with
  | case1 first q tool r s ht =>
    obtain ⟨d, hd, hs⟩ := line_of_redirect h
    rw [hd, bind_of_error (name_refuses_empty (.fresh hs) ht)]
    rfl
  | case2 first q tool r s ht =>
    obtain ⟨d, hd, hs⟩ := line_of_redirect h
    obtain ⟨e, he, hs'⟩ := name_of_cons (.fresh hs) (eq_false_of_ne_true ht)
    rw [hd, bind_of_ok he]
    exact map_called (.fresh hs') fun t ht => hp t (by simp [ht])
  | case3 first q s hne =>
    obtain ⟨d, hd, hs⟩ := line_of_redirect h
    rw [hd, bind_of_error (name_refuses (.fresh hs) hne)]
    rfl
  | case4 first q s _ hr he =>
    simp only [Bool.and_eq_true, Bool.not_eq_true'] at he
    obtain ⟨d, hd, -⟩ := line_of_tool h he.2 hr
    rw [hd, if_pos he.1]
    rfl
  | case5 first q s _ hr he =>
    have hp' : ∀ t ∈ s, t.Proper := fun t ht => hp t (List.mem_cons_of_mem _ ht)
    cases hu : s.isEmpty && u.isSome with
    | false =>
      obtain ⟨d, hd, ha⟩ := line_of_tool h hu hr
      simp only [hu, Bool.not_false, Bool.and_true] at he
      rw [hd, if_neg he]
      exact map_called ha hp'
    | true =>
      -- The quote shows behind the first literal, before that is known to be a tool.
      obtain ⟨rfl, hu⟩ : s = [] ∧ u.isSome := by simpa using hu
      obtain ⟨p, rfl⟩ := Option.isSome_iff_exists.1 hu
      obtain ⟨d, hd, hs⟩ := literal_of_cons h
      rw [line, bind_of_ok hd, bind_of_error (token_of_unclosed (.fresh hs))]
      rfl
  | case6 _ _ _ hne =>
    rw [line, bind_of_error (literal_refuses h hne)]
    rfl

end Reading

theorem parse_eq_tokens (line : String) : parse line = Tokens.line (lex line).unclosed (lex line).tokens :=
  Reading.map_line (Cursor.ahead_ofLine line) (proper_of_lexRest _ _)

end ToolPipeline.ControlLine
