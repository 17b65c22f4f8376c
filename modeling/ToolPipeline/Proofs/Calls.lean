import ToolPipeline.Executor
import ToolPipeline.Operation

set_option autoImplicit false

/-!
Calls of services, and what can be said of the calls made on the way to an answer.

`Orderly` says that a failing call is the last one and decides the answer, `Asks` that the calls follow
a plan. Both carry over from the steps of an action to the action.
-/

namespace ToolPipeline

inductive Request where
  | read (reference : String)
  | write (reference : String) (content : Bytes)
  | holds (reference : String)
  | localize (reference workingDir : String) (copy : Bool)
  | delocalize (localPath reference workingDir : String)
  | run (runtime : Runtime) (commandLine workingDir : String) (stdin : Bytes)
  deriving DecidableEq, Repr

namespace Request

abbrev Answer : Request → Type
  | read _ => Bytes
  | write .. | delocalize .. => Unit
  | holds _ => Bool
  | localize .. => String
  | run .. => StageOutput

def isRun : Request → Bool
  | run .. => true
  | _ => false

def publishes : Request → Bool
  | write .. | delocalize .. => true
  | _ => false

end Request

/-- A call of a storage or an executor. The answer of one that fails is what the run ends with. -/
structure Call where
  request : Request
  answer : Except Abort request.Answer

namespace Call

def Succeeded : Call → Prop
  | ⟨_, .error _⟩ => False
  | ⟨.run .., .ok o⟩ => o.status = 0
  | ⟨_, .ok _⟩ => True

/-- What a run ends with when the call does not succeed. -/
def EndsWith : Call → Abort → Prop
  | ⟨_, .error a⟩, b => b = a
  | ⟨.run .., .ok o⟩, b => o.status ≠ 0 ∧ ∃ output, b = .error (.execution o.status output)
  | ⟨_, .ok _⟩, _ => False

theorem endsWith_error (request : Request) (a : Abort) : EndsWith ⟨request, .error a⟩ a := by
  cases request <;> rfl

end Call

def StorageError.abort (e : StorageError) : Abort := .error (.localization e)

/-- What can be said of an answer and the calls made for it. -/
abbrev Made (ε α : Type) := Except ε α → List Call → Prop

namespace Made

variable {ε δ α β : Type}

inductive Silent (r : Except ε α) : Made ε α
  | intro : Silent r r []

inductive One (call : Except ε α → Call) : Made ε α
  | intro (r : Except ε α) : One call r [call r]

def Asked (request : Request) : Made StorageError request.Answer :=
  One fun r => ⟨request, r.mapError StorageError.abort⟩

/-- One thing after another, as long as none of them fails. -/
inductive Then (P : Made ε α) (Q : α → Made ε β) : Made ε β
  | stop {e : ε} {l : List Call} : P (.error e) l → Then P Q (.error e) l
  | step {x : α} {r : Except ε β} {l m : List Call} : P (.ok x) l → Q x r m → Then P Q r (l ++ m)

inductive Renamed (rename : δ → ε) (P : Made δ α) : Made ε α
  | intro {r : Except δ α} {l : List Call} : P r l → Renamed rename P (r.mapError rename) l

inductive Each (P : α → Made ε β) : List α → Made ε (List β)
  | nil : Each P [] (.ok []) []
  | stop {x : α} {xs : List α} {e : ε} {l : List Call} : P x (.error e) l → Each P (x :: xs) (.error e) l
  | stopLater {x : α} {xs : List α} {y : β} {e : ε} {l m : List Call} :
      P x (.ok y) l → Each P xs (.error e) m → Each P (x :: xs) (.error e) (l ++ m)
  | cons {x : α} {xs : List α} {y : β} {ys : List β} {l m : List Call} :
      P x (.ok y) l → Each P xs (.ok ys) m → Each P (x :: xs) (.ok (y :: ys)) (l ++ m)

inductive All (P : α → Made ε Unit) : List α → Made ε Unit
  | nil : All P [] (.ok ()) []
  | stop {x : α} {xs : List α} {e : ε} {l : List Call} : P x (.error e) l → All P (x :: xs) (.error e) l
  | cons {x : α} {xs : List α} {r : Except ε Unit} {l m : List Call} :
      P x (.ok ()) l → All P xs r m → All P (x :: xs) r (l ++ m)

theorem Silent.eq {r r' : Except ε α} {l : List Call} (h : Silent r r' l) : r' = r ∧ l = [] := by
  cases h
  exact ⟨rfl, rfl⟩

theorem Then.of_ok {P : Made ε α} {Q : α → Made ε β} {y : β} {l : List Call} (h : Then P Q (.ok y) l) :
    ∃ x l₁ l₂, l = l₁ ++ l₂ ∧ P (.ok x) l₁ ∧ Q x (.ok y) l₂ := by
  cases h with
  | step hx hy => exact ⟨_, _, _, rfl, hx, hy⟩

theorem Renamed.of_ok {rename : δ → ε} {P : Made δ α} {x : α} {l : List Call}
    (h : Renamed rename P (.ok x) l) : P (.ok x) l := by
  generalize hr : (.ok x : Except ε α) = r at h
  cases h with
  | @intro r _ h =>
    cases r with
    | error => cases hr
    | ok y => cases hr; exact h

theorem Renamed.of_error {rename : δ → ε} {P : Made δ α} {e : ε} {l : List Call}
    (h : Renamed rename P (.error e) l) : ∃ d, e = rename d ∧ P (.error d) l := by
  generalize hr : (.error e : Except ε α) = r at h
  cases h with
  | @intro r _ h =>
    cases r with
    | error d => cases hr; exact ⟨d, rfl, h⟩
    | ok => cases hr

theorem Each.map {γ : Type} {f : γ → α} {P : α → Made ε β} {xs : List γ} {r : Except ε (List β)} {l : List Call}
    (h : Each (fun x => P (f x)) xs r l) : Each P (xs.map f) r l := by
  induction h with
  | nil => exact .nil
  | stop h => exact .stop h
  | stopLater h _ ih => exact .stopLater h ih
  | cons h _ ih => exact .cons h ih

/-- Each element has its answer, with calls made for one element after the other. -/
inductive InTurn (R : α → β → List Call → Prop) : List α → List β → List Call → Prop
  | nil : InTurn R [] [] []
  | cons {x : α} {y : β} {xs : List α} {ys : List β} {l m : List Call} :
      R x y l → InTurn R xs ys m → InTurn R (x :: xs) (y :: ys) (l ++ m)

theorem InTurn.forall_mem {R : α → β → List Call → Prop} {Q : Call → Prop} {xs : List α} {ys : List β} {l : List Call}
    (h : InTurn R xs ys l) (hR : ∀ x y l, R x y l → ∀ c ∈ l, Q c) : ∀ c ∈ l, Q c := by
  induction h with
  | nil => simp
  | cons hx _ ih => exact List.forall_mem_append.2 ⟨hR _ _ _ hx, ih⟩

theorem InTurn.of_mem {R : α → β → List Call → Prop} {xs : List α} {ys : List β} {l : List Call}
    (h : InTurn R xs ys l) {y : β} (hy : y ∈ ys) : ∃ x ∈ xs, ∃ m, R x y m := by
  induction h with
  | nil => cases hy
  | cons hx _ ih =>
    rcases List.mem_cons.1 hy with rfl | hy
    · exact ⟨_, List.mem_cons_self, _, hx⟩
    · obtain ⟨x, hx, hm⟩ := ih hy
      exact ⟨x, List.mem_cons_of_mem _ hx, hm⟩

theorem Each.inTurn {P : α → Made ε β} {R : α → β → List Call → Prop} {xs : List α} {ys : List β} {l : List Call}
    (h : Each P xs (.ok ys) l) (hP : ∀ x ∈ xs, ∀ y l, P x (.ok y) l → R x y l) : InTurn R xs ys l := by
  generalize hr : (.ok ys : Except ε (List β)) = r at h
  induction h generalizing ys with
  | nil => cases hr; exact .nil
  | stop => cases hr
  | stopLater => cases hr
  | cons hx _ ih =>
    cases hr
    exact .cons (hP _ List.mem_cons_self _ _ hx) (ih (fun x hx => hP x (List.mem_cons_of_mem _ hx)) rfl)

theorem Each.of_error {P : α → Made ε β} {xs : List α} {e : ε} {l : List Call} (h : Each P xs (.error e) l) :
    ∃ before x after ys l₁ l₂, xs = before ++ x :: after ∧ l = l₁ ++ l₂ ∧ Each P before (.ok ys) l₁ ∧
      P x (.error e) l₂ := by
  generalize hr : (.error e : Except ε (List β)) = r at h
  induction h with
  | nil => cases hr
  | cons => cases hr
  | stop hx => cases hr; exact ⟨[], _, _, [], [], _, rfl, rfl, .nil, hx⟩
  | stopLater hx _ ih =>
    cases hr
    obtain ⟨before, x, after, ys, l₁, l₂, rfl, rfl, hb, he⟩ := ih rfl
    exact ⟨_ :: before, x, after, _, _, l₂, rfl, (List.append_assoc ..).symm, .cons hx hb, he⟩

theorem All.of_error {P : α → Made ε Unit} {xs : List α} {e : ε} {l : List Call} (h : All P xs (.error e) l) :
    ∃ x ∈ xs, ∃ m, P x (.error e) m ∧ m <:+ l := by
  generalize hr : (.error e : Except ε Unit) = r at h
  induction h with
  | nil => cases hr
  | @stop x xs _ l h => cases hr; exact ⟨x, List.mem_cons_self, l, h, List.suffix_refl l⟩
  | cons _ _ ih =>
    obtain ⟨x, hx, m, h, hm⟩ := ih hr
    exact ⟨x, List.mem_cons_of_mem _ hx, m, h, hm.trans (List.suffix_append _ _)⟩

theorem All.of_ok {P : α → Made ε Unit} {xs : List α} {l : List Call} (h : All P xs (.ok ()) l) :
    ∀ x ∈ xs, ∃ m, P x (.ok ()) m := by
  generalize hr : (.ok () : Except ε Unit) = r at h
  induction h with
  | nil => nofun
  | stop => cases hr
  | @cons x xs _ l _ h _ ih =>
    subst hr
    intro y hy
    rcases List.mem_cons.1 hy with rfl | hy
    · exact ⟨l, h⟩
    · exact ih rfl y hy

theorem All.forall_mem {P : α → Made ε Unit} {Q : Call → Prop} {xs : List α} {r : Except ε Unit} {l : List Call}
    (h : All P xs r l) (hP : ∀ x ∈ xs, ∀ r l, P x r l → ∀ c ∈ l, Q c) : ∀ c ∈ l, Q c := by
  induction h with
  | nil => simp
  | stop h => exact hP _ List.mem_cons_self _ _ h
  | cons h _ ih =>
    intro c hc
    rcases List.mem_append.1 hc with hc | hc
    · exact hP _ List.mem_cons_self _ _ h c hc
    · exact ih (fun x hx => hP x (List.mem_cons_of_mem _ hx)) c hc

theorem Renamed.forall_mem {rename : δ → ε} {P : Made δ α} {Q : Call → Prop} {r : Except ε α} {l : List Call}
    (h : Renamed rename P r l) (hP : ∀ r l, P r l → ∀ c ∈ l, Q c) : ∀ c ∈ l, Q c := by
  cases h with
  | intro h => exact hP _ _ h

/-- A call that does not succeed is the last one, and the answer is the failure it ends with. -/
inductive Orderly (abort : ε → Abort) : Made ε α
  | all {r : Except ε α} {l : List Call} : (∀ c ∈ l, c.Succeeded) → Orderly abort r l
  | stop {e : ε} {l : List Call} {c : Call} : (∀ d ∈ l, d.Succeeded) → c.EndsWith (abort e) →
      Orderly abort (.error e) (l ++ [c])

def BrokenOff (l : List Call) (a : Abort) : Prop :=
  ∃ before c, l = before ++ [c] ∧ (∀ d ∈ before, d.Succeeded) ∧ c.EndsWith a

section Orderly

variable {abort : ε → Abort} {r : Except ε α} {l m : List Call}

theorem Orderly.brokenOff {e : ε} (h : Orderly abort (.error e : Except ε α) l) (hf : ∃ c ∈ l, ¬ c.Succeeded) :
    BrokenOff l (abort e) := by
  cases h with
  | all hl =>
    obtain ⟨c, hc, hn⟩ := hf
    exact absurd (hl c hc) hn
  | stop hl hc => exact ⟨_, _, rfl, hl, hc⟩

theorem Orderly.succeeded {x : α} (h : Orderly abort (.ok x) l) : ∀ c ∈ l, c.Succeeded := by
  cases h with
  | all h => exact h

theorem Orderly.of_error {e : ε} (h : Orderly abort (.error e : Except ε α) l) :
    Orderly abort (.error e : Except ε β) l := by
  cases h with
  | all hl => exact .all hl
  | stop hl hc => exact .stop hl hc

theorem Orderly.append (hl : ∀ c ∈ l, c.Succeeded) (hm : Orderly abort r m) : Orderly abort r (l ++ m) := by
  cases hm with
  | all hm =>
    refine .all fun c hc => ?_
    rcases List.mem_append.1 hc with hc | hc
    · exact hl c hc
    · exact hm c hc
  | @stop e m c hm hc =>
    rw [← List.append_assoc]
    refine .stop (fun d hd => ?_) hc
    rcases List.mem_append.1 hd with hd | hd
    · exact hl d hd
    · exact hm d hd

theorem Orderly.cons {c : Call} (hc : c.Succeeded) (h : Orderly abort r l) : Orderly abort r (c :: l) :=
  .append (l := [c]) (fun d hd => by rw [List.mem_singleton.1 hd]; exact hc) h

theorem Orderly.succeeded_before (h : Orderly abort r (l ++ m)) (hm : m ≠ []) : ∀ c ∈ l, c.Succeeded := by
  generalize hn : l ++ m = n at h
  cases h with
  | all h => exact fun c hc => h c (hn ▸ List.mem_append_left m hc)
  | @stop e k d hk hd =>
    intro c hc
    have hl : l <+: k ++ [d] := hn ▸ List.prefix_append l m
    rcases List.prefix_concat_iff.1 hl with rfl | hl
    · exact absurd (by simpa using hn) hm
    · exact hk c (hl.subset hc)

/-- A call that fails is the last one, and the answer is what it ends with. -/
theorem Orderly.last (h : Orderly abort r l) {c : Call} (hc : c ∈ l) (hf : ¬ c.Succeeded) :
    l.getLast? = some c ∧ ∃ e, r = .error e ∧ c.EndsWith (abort e) := by
  cases h with
  | all h => exact absurd (h c hc) hf
  | @stop e k d hk hd =>
    rcases List.mem_append.1 hc with hc | hc
    · exact absurd (hk c hc) hf
    · rw [List.mem_singleton.1 hc]
      exact ⟨by simp, e, rfl, hd⟩

theorem Orderly.last_of_append (h : Orderly abort r (l ++ m)) {c : Call} (hc : c ∈ m) (hf : ¬ c.Succeeded) :
    m.getLast? = some c ∧ ∃ e, r = .error e ∧ c.EndsWith (abort e) := by
  obtain ⟨hlast, he⟩ := h.last (List.mem_append_right l hc) hf
  refine ⟨?_, he⟩
  obtain ⟨d, hd⟩ := Option.isSome_iff_exists.1 (List.getLast?_isSome.2 (List.ne_nil_of_mem hc))
  rw [List.getLast?_append, hd] at hlast
  exact hd.trans hlast

theorem Silent.orderly {r' : Except ε α} (h : Silent r r' l) : Orderly abort r' l := by
  cases h
  exact .all (by simp)

theorem Asked.orderly {request : Request} {r : Except StorageError request.Answer} (h : Asked request r l)
    (hr : request.isRun = false) : Orderly StorageError.abort r l := by
  cases h with
  | intro r =>
    cases r with
    | error e =>
      exact .stop (l := []) (by simp) (Call.endsWith_error request e.abort)
    | ok x =>
      refine .all fun c hc => ?_
      rw [List.mem_singleton.1 hc]
      cases request with
      | run => cases hr
      | _ => trivial

theorem Then.orderly {P : Made ε α} {Q : α → Made ε β} {r : Except ε β} (h : Then P Q r l)
    (hP : ∀ r l, P r l → Orderly abort r l) (hQ : ∀ x r l, Q x r l → Orderly abort r l) :
    Orderly abort r l := by
  cases h with
  | stop h => exact (hP _ _ h).of_error
  | step hx hr => exact .append (hP _ _ hx).succeeded (hQ _ _ _ hr)

theorem Each.orderly {P : α → Made ε β} {xs : List α} {r : Except ε (List β)} (h : Each P xs r l)
    (hP : ∀ x r l, P x r l → Orderly abort r l) : Orderly abort r l := by
  induction h with
  | nil => exact .all (by simp)
  | stop h => exact (hP _ _ _ h).of_error
  | stopLater h _ ih => exact .append (hP _ _ _ h).succeeded ih
  | cons h _ ih => exact .append (hP _ _ _ h).succeeded (.all ih.succeeded)

theorem All.orderly {P : α → Made ε Unit} {xs : List α} {r : Except ε Unit} (h : All P xs r l)
    (hP : ∀ x r l, P x r l → Orderly abort r l) : Orderly abort r l := by
  induction h with
  | nil => exact .all (by simp)
  | stop h => exact hP _ _ _ h
  | cons h _ ih => exact .append (hP _ _ _ h).succeeded ih

theorem Renamed.orderly {P : Made ε α} {rename : ε → δ} {abort : δ → Abort} {r : Except δ α}
    (h : Renamed rename P r l) (hP : ∀ r l, P r l → Orderly (fun e => abort (rename e)) r l) :
    Orderly abort r l := by
  cases h with
  | intro h =>
    cases hP _ _ h with
    | all hl => exact .all hl
    | stop hl hc => exact .stop hl hc

end Orderly

section Faults

variable {e : ε} {l : List Call}

theorem Asked.exists_failed {request : Request} {e : StorageError} (h : Asked request (.error e) l) :
    ∃ c ∈ l, ¬ c.Succeeded := by
  cases h
  exact ⟨_, List.mem_singleton_self _, id⟩

theorem Then.exists_failed {P : Made ε α} {Q : α → Made ε β} (h : Then P Q (.error e) l)
    (hP : ∀ e l, P (.error e) l → ∃ c ∈ l, ¬ c.Succeeded) (hQ : ∀ x e l, Q x (.error e) l → ∃ c ∈ l, ¬ c.Succeeded) :
    ∃ c ∈ l, ¬ c.Succeeded := by
  cases h with
  | stop h => exact hP _ _ h
  | step _ h =>
    obtain ⟨c, hc, hn⟩ := hQ _ _ _ h
    exact ⟨c, List.mem_append_right _ hc, hn⟩

theorem Each.exists_failed {P : α → Made ε β} {xs : List α} (h : Each P xs (.error e) l)
    (hP : ∀ x e l, P x (.error e) l → ∃ c ∈ l, ¬ c.Succeeded) : ∃ c ∈ l, ¬ c.Succeeded := by
  obtain ⟨_, x, _, _, _, l₂, -, rfl, -, hx⟩ := h.of_error
  obtain ⟨c, hc, hn⟩ := hP x e l₂ hx
  exact ⟨c, List.mem_append_right _ hc, hn⟩

end Faults

/-- The calls are those of the plan, up to the failure if there is one. -/
structure Asks (plan : List Request) (r : Except ε α) (l : List Call) : Prop where
  initial : l.map Call.request <+: plan
  complete : ∀ {x : α}, r = .ok x → l.map Call.request = plan

section Asks

variable {r : Except ε α} {l m : List Call} {plan rest : List Request}

theorem Asks.of_error {e : ε} (h : Asks plan (.error e : Except ε α) l) (rest : List Request) :
    Asks (plan ++ rest) (.error e : Except ε β) l :=
  ⟨h.initial.trans (List.prefix_append _ _), nofun⟩

theorem Asks.append {x : β} (hl : Asks plan (.ok x : Except ε β) l) (hm : Asks rest r m) :
    Asks (plan ++ rest) r (l ++ m) := by
  have he := hl.complete rfl
  refine ⟨?_, fun hr => ?_⟩
  · rw [List.map_append, he]
    exact (List.prefix_append_right_inj plan).2 hm.initial
  · rw [List.map_append, he, hm.complete hr]

theorem Silent.asks {r' : Except ε α} (h : Silent r r' l) : Asks [] r' l := by
  cases h
  exact ⟨List.prefix_refl _, fun _ => rfl⟩

theorem Asked.asks {request : Request} {r : Except StorageError request.Answer} (h : Asked request r l) :
    Asks [request] r l := by
  cases h
  exact ⟨List.prefix_refl _, fun _ => rfl⟩

theorem Then.asks {P : Made ε α} {Q : α → Made ε β} {r : Except ε β} (h : Then P Q r l)
    (hP : ∀ r l, P r l → Asks plan r l) (hQ : ∀ x r l, Q x r l → Asks rest r l) : Asks (plan ++ rest) r l := by
  cases h with
  | stop h => exact (hP _ _ h).of_error rest
  | step hx hr => exact (hP _ _ hx).append (hQ _ _ _ hr)

theorem Each.asks {P : α → Made ε β} {f : α → List Request} {xs : List α} {r : Except ε (List β)}
    (h : Each P xs r l) (hP : ∀ x r l, P x r l → Asks (f x) r l) : Asks (xs.flatMap f) r l := by
  induction h with
  | nil => exact ⟨List.prefix_refl _, fun _ => rfl⟩
  | stop h => exact (hP _ _ _ h).of_error _
  | stopLater h _ ih => exact (hP _ _ _ h).append ih
  | cons h _ ih =>
    have := (hP _ _ _ h).append ih
    exact ⟨this.initial, fun _ => this.complete rfl⟩

theorem All.asks {P : α → Made ε Unit} {f : α → List Request} {xs : List α} {r : Except ε Unit}
    (h : All P xs r l) (hP : ∀ x ∈ xs, ∀ r l, P x r l → Asks (f x) r l) : Asks (xs.flatMap f) r l := by
  induction h with
  | nil => exact ⟨List.prefix_refl _, fun _ => rfl⟩
  | stop h => exact (hP _ List.mem_cons_self _ _ h).of_error _
  | cons h _ ih => exact (hP _ List.mem_cons_self _ _ h).append (ih fun x hx => hP x (List.mem_cons_of_mem _ hx))

theorem Renamed.asks {P : Made ε α} {rename : ε → δ} {r : Except δ α} (h : Renamed rename P r l)
    (hP : ∀ r l, P r l → Asks plan r l) : Asks plan r l := by
  cases h with
  | @intro r l h =>
    have := hP _ _ h
    refine ⟨this.initial, fun hr => ?_⟩
    cases r with
    | error => cases hr
    | ok x => exact this.complete rfl

end Asks

end Made

end ToolPipeline
