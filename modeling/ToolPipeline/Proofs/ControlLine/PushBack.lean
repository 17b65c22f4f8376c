import ToolPipeline.Proofs.ControlLine.Segmentation

set_option autoImplicit false

/-!
Reading a line with push-back. A dialogue is any sequence of calls of a cursor together with what they were
answered. What a call is answered follows from the answers before it and the tokens of the line: a token that was
pushed back is owed and comes again, and every other reading goes on where the last one stopped.
-/

namespace ToolPipeline.ControlLine

inductive Call where
  | next
  | pushBack
  | current
  | position
  deriving DecidableEq, Repr

inductive Reply where
  | read (r : Except SyntaxError Token)
  | pushedBack
  | current (t : Token)
  | position (n : Nat)
  deriving DecidableEq

structure Dialogue where
  past : List Reply
  cursor : Cursor

namespace Dialogue

def ofLine (line : String) : Dialogue := ⟨[], .ofLine line⟩

def ask (d : Dialogue) : Call → Dialogue
  | .next => ⟨.read d.cursor.next.1 :: d.past, d.cursor.next.2⟩
  | .pushBack => ⟨.pushedBack :: d.past, d.cursor.pushBack⟩
  | .current => ⟨.current d.cursor.current :: d.past, d.cursor⟩
  | .position => ⟨.position d.cursor.position :: d.past, d.cursor⟩

def run (line : String) (calls : List Call) : Dialogue := calls.foldl ask (.ofLine line)

end Dialogue

namespace Reply

def owed : List Reply → Bool
  | [] => false
  | .read _ :: _ => false
  | .pushedBack :: _ => true
  | .current _ :: past | .position _ :: past => owed past

def last : List Reply → Token
  | [] => .endOfInput
  | .read (.ok t) :: _ => t
  | .read (.error _) :: past | .pushedBack :: past | .current _ :: past | .position _ :: past => last past

/-- The answers to the readings that were not owed, in their order. -/
def fresh : List Reply → List (Except SyntaxError Token)
  | [] => []
  | .read r :: past => if owed past then fresh past else fresh past ++ [r]
  | .pushedBack :: past | .current _ :: past | .position _ :: past => fresh past

def delivered (past : List Reply) : Nat := (fresh past).countP Except.isOk

/-- What is answered behind these answers when `tokens` are the answers to readings without push-back. -/
def Follows (tokens : Nat → Except SyntaxError Token) (past : List Reply) : Reply → Prop
  | .read r => r = if owed past then .ok (last past) else tokens (fresh past).length
  | .pushedBack => True
  | .current t => t = last past
  | .position n => n = delivered past - if owed past then 1 else 0

variable {r : Except SyntaxError Token} {past : List Reply}

theorem fresh_read_of_owed (h : owed past = true) : fresh (.read r :: past) = fresh past := by
  rw [fresh, if_pos h]

theorem fresh_read (h : owed past = false) : fresh (.read r :: past) = fresh past ++ [r] := by
  rw [fresh, h, if_neg Bool.false_ne_true]

end Reply

namespace Cursor

def settled (c : Cursor) : Cursor := { c with pushedBack := false }

variable {c : Cursor} {t : Token} {e : SyntaxError}

theorem settled_of_not_pushedBack (h : c.pushedBack = false) : c.settled = c := by
  rw [settled, ← h]

theorem next_of_pushedBack (h : c.pushedBack = true) : c.next = (.ok c.current, c.settled) := by
  rw [next, if_pos h, settled]

theorem next_of_ok (hp : c.pushedBack = false) (h : c.next.1 = .ok t) :
    c.next.2.pushedBack = false ∧ c.next.2.current = t ∧ c.next.2.consumed = c.consumed + 1 := by
  cases hs : scan (Text.dropBlanks c.rest) with
  | nothing => simp_all [next, deliver]
  | token u rest => simp_all [next, deliver]
  | unclosed q => simp [next, hp, hs] at h

/-- A reading that fails leaves everything but the blanks in front of the quote. -/
theorem next_of_error (h : c.next.1 = .error e) :
    c.pushedBack = false ∧ c.next.2 = { c with rest := Text.dropBlanks c.rest } := by
  cases hp : c.pushedBack with
  | true => simp [next_of_pushedBack hp] at h
  | false =>
    cases hs : scan (Text.dropBlanks c.rest) with
    | nothing => simp [next, hp, hs] at h
    | token u rest => simp [next, hp, hs] at h
    | unclosed q => simp [next, hp, hs]

end Cursor

theorem Lexed.answer_of_error {l : Lexed} {n : Nat} {e : SyntaxError} (h : l.answer n = .error e) (k : Nat) :
    l.answer (n + k) = .error e := by
  unfold answer at h ⊢
  cases hn : l.tokens[n]? with
  | some t => simp [hn] at h
  | none =>
    have hle : l.tokens.length ≤ n := List.getElem?_eq_none_iff.1 hn
    have hk : l.tokens[n + k]? = none := List.getElem?_eq_none (by omega)
    rw [hn] at h
    rw [hk]
    exact h

namespace Dialogue

open Reply (owed last fresh delivered Follows)

/-- What the answers so far say of the cursor, and the cursor of the answers to come. -/
structure Kept (tokens : Nat → Except SyntaxError Token) (d : Dialogue) : Prop where
  pushedBack_eq : d.cursor.pushedBack = owed d.past
  current_eq : d.cursor.current = last d.past
  consumed_eq : d.cursor.consumed = delivered d.past
  answer_eq : ∀ n, d.cursor.settled.answer n = tokens ((fresh d.past).length + n)

variable {tokens : Nat → Except SyntaxError Token} {d : Dialogue} {call : Call}

theorem Kept.position_eq (h : d.Kept tokens) :
    d.cursor.position = delivered d.past - if owed d.past then 1 else 0 := by
  rw [Cursor.position, h.pushedBack_eq, h.consumed_eq]
  split <;> rfl

theorem Kept.next_eq (h : d.Kept tokens) :
    d.cursor.next.1 = if owed d.past then .ok (last d.past) else tokens (fresh d.past).length := by
  have hp := h.pushedBack_eq
  cases ho : owed d.past with
  | true => rw [Cursor.next_of_pushedBack (hp.trans ho), if_pos rfl, h.current_eq]
  | false =>
    have ha := h.answer_eq 0
    rw [Cursor.settled_of_not_pushedBack (hp.trans ho)] at ha
    rw [if_neg Bool.false_ne_true]
    exact ha

theorem kept_ofLine (line : String) : (ofLine line).Kept (Cursor.ofLine line).answer :=
  ⟨rfl, rfl, rfl, fun n => by rw [Nat.add_comm]; rfl⟩

theorem Kept.next_owed (h : d.Kept tokens) (ho : owed d.past = true) : (d.ask .next).Kept tokens := by
  have hnext := Cursor.next_of_pushedBack (h.pushedBack_eq.trans ho)
  refine ⟨?_, ?_, ?_, ?_⟩
  · rw [ask, hnext]
    rfl
  · rw [ask, hnext]
    rfl
  · rw [ask, hnext, delivered, Reply.fresh_read_of_owed ho]
    exact h.consumed_eq
  · rw [ask, hnext, Reply.fresh_read_of_owed ho]
    exact h.answer_eq

theorem Kept.next_fresh (h : d.Kept tokens) (ho : owed d.past = false) : (d.ask .next).Kept tokens := by
  have hp := h.pushedBack_eq.trans ho
  have hrest (n : Nat) : d.cursor.next.2.answer n = tokens ((fresh d.past).length + 1 + n) := by
    have ha := h.answer_eq (n + 1)
    rw [Cursor.settled_of_not_pushedBack hp, Cursor.answer] at ha
    rw [ha, Nat.add_assoc, Nat.add_comm 1 n]
  have hpast := Reply.fresh_read (r := d.cursor.next.1) ho
  cases hr : d.cursor.next.1 with
  | ok t =>
    obtain ⟨hp', hcurrent, hconsumed⟩ := Cursor.next_of_ok hp hr
    rw [hr] at hpast
    refine ⟨?_, ?_, ?_, fun n => ?_⟩
    · rw [ask, hr]
      exact hp'
    · rw [ask, hr]
      exact hcurrent
    · rw [ask, hr, delivered, hpast, List.countP_append, hconsumed, h.consumed_eq]
      rfl
    · rw [ask, hr, hpast, List.length_append, Cursor.settled_of_not_pushedBack hp']
      exact hrest n
  | error e =>
    obtain ⟨-, hleft⟩ := Cursor.next_of_error hr
    rw [hr] at hpast
    refine ⟨?_, ?_, ?_, fun n => ?_⟩
    · rw [ask, hr, hleft]
      exact hp
    · rw [ask, hr, hleft]
      exact h.current_eq
    · rw [ask, hr, delivered, hpast, List.countP_append, hleft]
      exact h.consumed_eq
    · have hp' : d.cursor.next.2.pushedBack = false := by rw [hleft]; exact hp
      rw [ask, hr, hpast, List.length_append, Cursor.settled_of_not_pushedBack hp']
      exact hrest n

theorem Kept.ask (h : d.Kept tokens) (call : Call) : (d.ask call).Kept tokens := by
  cases call with
  | next =>
    cases ho : owed d.past with
    | true => exact h.next_owed ho
    | false => exact h.next_fresh ho
  | pushBack => exact ⟨rfl, h.current_eq, h.consumed_eq, h.answer_eq⟩
  | current => exact ⟨h.pushedBack_eq, h.current_eq, h.consumed_eq, h.answer_eq⟩
  | position => exact ⟨h.pushedBack_eq, h.current_eq, h.consumed_eq, h.answer_eq⟩

def Faithful (tokens : Nat → Except SyntaxError Token) (past : List Reply) : Prop :=
  ∀ reply earlier, reply :: earlier <:+ past → Follows tokens earlier reply

theorem Faithful.cons {past : List Reply} {reply : Reply} (h : Faithful tokens past) (hr : Follows tokens past reply) :
    Faithful tokens (reply :: past) := by
  intro r earlier hs
  rcases List.suffix_cons_iff.1 hs with he | hs
  · cases he
    exact hr
  · exact h r earlier hs

theorem Kept.faithful_ask (h : d.Kept tokens) (hf : Faithful tokens d.past) (call : Call) :
    Faithful tokens (d.ask call).past := by
  cases call with
  | next => exact hf.cons h.next_eq
  | pushBack => exact hf.cons trivial
  | current => exact hf.cons h.current_eq
  | position => exact hf.cons h.position_eq

theorem kept_run (line : String) (calls : List Call) :
    (run line calls).Kept (Cursor.ofLine line).answer ∧ Faithful (Cursor.ofLine line).answer (run line calls).past := by
  unfold run
  generalize hd : ofLine line = d
  have hkept : d.Kept (Cursor.ofLine line).answer := hd ▸ kept_ofLine line
  have hfaithful : Faithful (Cursor.ofLine line).answer d.past := by
    subst hd
    intro reply earlier hs
    exact absurd (List.suffix_nil.1 hs) (List.cons_ne_nil _ _)
  clear hd
  -- Over the calls, from any dialogue that was kept so far.
  induction calls generalizing d with
  | nil => exact ⟨hkept, hfaithful⟩
  | cons call calls ih => exact ih _ (hkept.ask call) (hkept.faithful_ask hfaithful call)

/-- What calls of a cursor are answered, and what a reading does behind them. -/
structure Replays (tokens : Nat → Except SyntaxError Token) (d : Dialogue) : Prop where
  faithful : Faithful tokens d.past
  current_eq : d.cursor.current = last d.past
  position_eq : d.cursor.position = delivered d.past - if owed d.past then 1 else 0
  fresh_eq : fresh d.past = (List.range (fresh d.past).length).map tokens
  /-- A token that is owed comes again, and nothing else changes. -/
  again : owed d.past = true → d.cursor.next = (.ok (last d.past), d.cursor.settled)
  /-- A reading that fails changes neither the current token nor its place, and fails as often as it is repeated. -/
  failing : ∀ e, d.cursor.next.1 = .error e → d.cursor.next.2.current = d.cursor.current ∧
    d.cursor.next.2.position = d.cursor.position ∧ ∀ n, d.cursor.next.2.answer n = .error e

theorem Faithful.fresh_eq {past : List Reply} (h : Faithful tokens past) :
    fresh past = (List.range (fresh past).length).map tokens := by
  induction past with
  | nil => rfl
  | cons reply past ih =>
    have hpast := ih fun r earlier hs => h r earlier (hs.trans (List.suffix_cons reply past))
    cases reply with
    | read r =>
      have hr := h _ _ (List.suffix_refl _)
      cases ho : owed past with
      | true => rwa [Reply.fresh_read_of_owed ho]
      | false =>
        simp only [Follows, ho, Bool.false_eq_true, if_false] at hr
        rw [Reply.fresh_read ho, List.length_append, List.length_singleton, List.range_succ, List.map_append, ← hpast,
          hr]
        rfl
    | pushedBack => exact hpast
    | current => exact hpast
    | position => exact hpast

theorem Kept.failing (h : d.Kept tokens) (hstop : ∀ n k e, tokens n = .error e → tokens (n + k) = .error e)
    {e : SyntaxError} (he : d.cursor.next.1 = .error e) : d.cursor.next.2.current = d.cursor.current ∧
      d.cursor.next.2.position = d.cursor.position ∧ ∀ n, d.cursor.next.2.answer n = .error e := by
  obtain ⟨hp, hleft⟩ := Cursor.next_of_error he
  have hanswer (n : Nat) : d.cursor.answer n = tokens ((fresh d.past).length + n) := by
    rw [← h.answer_eq, Cursor.settled_of_not_pushedBack hp]
  have hfirst : tokens (fresh d.past).length = .error e := (hanswer 0).symm.trans he
  exact ⟨by rw [hleft], by rw [hleft]; rfl, fun n => (hanswer (n + 1)).trans (hstop _ _ e hfirst)⟩

theorem replays_run (line : String) (calls : List Call) : Replays (Cursor.ofLine line).answer (run line calls) := by
  obtain ⟨hkept, hfaithful⟩ := kept_run line calls
  have hstop (n k : Nat) (e : SyntaxError) (h : (Cursor.ofLine line).answer n = .error e) :
      (Cursor.ofLine line).answer (n + k) = .error e := by
    rw [answer_ofLine] at h ⊢
    exact Lexed.answer_of_error h k
  refine ⟨hfaithful, hkept.current_eq, hkept.position_eq, hfaithful.fresh_eq, fun ho => ?_,
    fun e => hkept.failing hstop⟩
  rw [Cursor.next_of_pushedBack (hkept.pushedBack_eq.trans ho), hkept.current_eq]

/-- Pushing back twice is pushing back once. -/
example : (run "a > b" [.next, .next, .pushBack, .pushBack, .position, .next, .next]).past =
    [.read (.ok (.literal "b" false)), .read (.ok .redirect), .position 1, .pushedBack, .pushedBack,
      .read (.ok .redirect), .read (.ok (.literal "a" false))] := by
  decide +kernel

end Dialogue

end ToolPipeline.ControlLine
