import ToolPipeline.ControlLine.Cursor

set_option autoImplicit false

/-!
Steps of a parser that takes its tokens from a cursor. A loop over such steps ends because every
round of it takes some text off the line, which `ReadsOn` says of a step.
-/

namespace ToolPipeline.ControlLine

/-- What was read, and the cursor behind it, or why the line is refused. -/
abbrev Reading (α : Type) := StateT Cursor (Except SyntaxError) α

namespace Reading

variable {α β : Type}

def token : Reading Token := fun c =>
  match c.next with
  | (.ok t, d) => .ok (t, d)
  | (.error e, _) => .error e

def current : Reading Token := fun c => .ok (c.current, c)

def pushBack : Reading Unit := fun c => .ok ((), c.pushBack)

def refuse (expected : Expectation) : Reading α := fun c =>
  .error (.unexpectedToken c.position expected c.current)

def literal (expected : Expectation) : Reading String := do
  match ← token with
  | .literal text _ => pure text
  | _ => refuse expected

def name (expected : Expectation) : Reading String := do
  let text ← literal expected
  if text.isEmpty then refuse expected else pure text

/-- A step that leaves less text on the line. -/
def ReadsOn (r : Reading α) : Prop :=
  ∀ ⦃c d : Cursor⦄ ⦃a : α⦄, r c = .ok (a, d) → d.rest.length < c.rest.length

def whileCurrent (t : Token) (step : α → Reading α) (h : ∀ a, ReadsOn (step a)) (a : α) : Reading α :=
  fun c =>
    if c.current = t then
      match hs : step a c with
      | .error e => .error e
      | .ok (b, d) =>
        have := h a hs
        whileCurrent t step h b d
    else .ok (a, c)
  termination_by c => c.rest.length

def Keeps (r : Reading α) : Prop :=
  ∀ ⦃c d : Cursor⦄ ⦃a : α⦄, r c = .ok (a, d) → d.rest.length ≤ c.rest.length

theorem bind_eq_ok {r : Reading α} {f : α → Reading β} {c e : Cursor} {b : β}
    (h : (r >>= f) c = .ok (b, e)) : ∃ a d, r c = .ok (a, d) ∧ f a d = .ok (b, e) := by
  change Except.bind (r c) (fun p => f p.1 p.2) = _ at h
  cases hr : r c with
  | error => rw [hr] at h; cases h
  | ok p => rw [hr] at h; exact ⟨p.1, p.2, rfl, h⟩

theorem keeps_pure (a : α) : Keeps (pure a : Reading α) := by
  intro c d b h
  cases h
  exact Nat.le_refl _

theorem Keeps.bind {r : Reading α} {f : α → Reading β} (hr : Keeps r) (hf : ∀ a, Keeps (f a)) :
    Keeps (r >>= f) := by
  intro c e b h
  obtain ⟨a, d, h₁, h₂⟩ := bind_eq_ok h
  exact Nat.le_trans (hf a h₂) (hr h₁)

theorem ReadsOn.bind {r : Reading α} {f : α → Reading β} (hr : ReadsOn r) (hf : ∀ a, Keeps (f a)) :
    ReadsOn (r >>= f) := by
  intro c e b h
  obtain ⟨a, d, h₁, h₂⟩ := bind_eq_ok h
  exact Nat.lt_of_le_of_lt (hf a h₂) (hr h₁)

theorem keeps_whileCurrent (t : Token) (step : α → Reading α) (h : ∀ a, ReadsOn (step a)) (a : α) :
    Keeps (whileCurrent t step h a) := by
  intro c d b hb
  fun_induction whileCurrent t step h a c with
  | case1 => cases hb
  | case2 a c _ b' d' hs hlt ih => exact Nat.le_of_lt (Nat.lt_of_le_of_lt (ih hb) hlt)
  | case3 => cases hb; exact Nat.le_refl _

/-- A token taken from the text shortens it; the end of input and a token that was pushed back need
not. -/
theorem token_eq_ok {c d : Cursor} {t : Token} (h : token c = .ok (t, d)) :
    d.pushedBack = false ∧ d.rest.length ≤ c.rest.length ∧
      (c.pushedBack = false → t ≠ .endOfInput → d.rest.length < c.rest.length) := by
  unfold token Cursor.next at h
  cases hp : c.pushedBack with
  | true =>
    simp only [hp, if_true, Except.ok.injEq, Prod.mk.injEq] at h
    simp [← h.2]
  | false =>
    have hle := Text.length_dropBlanks_le c.rest
    simp only [hp, Bool.false_eq_true, if_false] at h
    cases hs : scan (Text.dropBlanks c.rest) with
    | nothing =>
      simp only [hs, Except.ok.injEq, Prod.mk.injEq] at h
      simp [← h.2, ← h.1, Cursor.deliver]
    | unclosed q => simp [hs] at h
    | token u rest =>
      have hlt := length_of_scan_eq_token hs
      simp only [hs, Except.ok.injEq, Prod.mk.injEq] at h
      simp only [← h.2, Cursor.deliver, true_and]
      omega

theorem keeps_token : Keeps token := fun _ _ _ h => (token_eq_ok h).2.1

theorem literal_eq_ok {e : Expectation} {c d : Cursor} {s : String} (h : literal e c = .ok (s, d)) :
    ∃ q, token c = .ok (.literal s q, d) := by
  obtain ⟨t, d', ht, h⟩ := bind_eq_ok h
  cases t with
  | literal text q => cases h; exact ⟨q, ht⟩
  | _ => cases h

theorem name_eq_ok {e : Expectation} {c d : Cursor} {s : String} (h : name e c = .ok (s, d)) :
    ∃ q, token c = .ok (.literal s q, d) := by
  obtain ⟨t, d', ht, h⟩ := bind_eq_ok h
  obtain ⟨q, hq⟩ := literal_eq_ok ht
  by_cases he : t.isEmpty = true
  · simp only [he, if_true] at h; cases h
  · simp only [he] at h; cases h; exact ⟨q, hq⟩

end Reading

end ToolPipeline.ControlLine
