import ToolPipeline.Proofs.Calls
import ToolPipeline.Wrapper

set_option autoImplicit false

/-!
The calls that a wrapper makes of its storage and its executors.

A recorded wrapper has services that write down every call with its answer. `Records a b P` says that
`a` does what `b` does and that the calls it writes down, with the answer it ends with, satisfy `P`;
`RecordsIn` says so of one session. The rules for both follow the ways in which actions are put together.
-/

namespace ToolPipeline

structure Recorded (σ : Type) where
  state : σ
  calls : List Call

variable {σ ε δ α β : Type}

def Session.recorded (s : Session σ) (calls : List Call) : Session (Recorded σ) :=
  ⟨s.files, s.events, ⟨s.state, calls⟩⟩

def Session.unrecorded (s : Session (Recorded σ)) : Session σ := ⟨s.files, s.events, s.state.state⟩

def Action.recorded (a : Action σ ε α) (calls : Except ε α → List Call) : Action (Recorded σ) ε α := fun s =>
  let (r, t) := a s.unrecorded
  (r, t.recorded (s.state.calls ++ calls r))

def Storage.recorded (storage : Storage σ) : Storage (Recorded σ) where
  read reference :=
    (storage.read reference).recorded fun r => [⟨.read reference, r.mapError StorageError.abort⟩]
  write reference b :=
    (storage.write reference b).recorded fun r => [⟨.write reference b, r.mapError StorageError.abort⟩]
  holds reference :=
    (storage.holds reference).recorded fun r => [⟨.holds reference, r.mapError StorageError.abort⟩]
  localize reference dir copy :=
    (storage.localize reference dir copy).recorded fun r =>
      [⟨.localize reference dir copy, r.mapError StorageError.abort⟩]
  delocalize path reference dir :=
    (storage.delocalize path reference dir).recorded fun r =>
      [⟨.delocalize path reference dir, r.mapError StorageError.abort⟩]

def Executor.recorded (x : Executor σ) (runtime : Runtime) : Executor (Recorded σ) where
  kind := x.kind
  run commandLine dir stdin :=
    (x.run commandLine dir stdin).recorded fun r => [⟨.run runtime commandLine dir stdin, r⟩]

def Repository.recorded (r : Repository σ) : Repository (Recorded σ) where
  resolve tool action := (r.resolve tool action).recorded fun _ => []

def Wrapper.recorded (w : Wrapper σ) : Wrapper (Recorded σ) where
  repository := w.repository.recorded
  storage := w.storage.recorded
  processExecutor := w.processExecutor.recorded .process
  inProcessExecutor := w.inProcessExecutor.recorded .inProcess
  workingDir := w.workingDir
  separator := w.separator

def Wrapper.trace (w : Wrapper σ) (line : String) (s : Session σ) : List Call :=
  (w.recorded.wrap line (s.recorded [])).2.state.calls

theorem Action.bind_apply (a : Action σ ε α) (f : α → Action σ ε β) (s : Session σ) :
    (a >>= f) s = match a s with
      | (.ok x, t) => f x t
      | (.error e, t) => (.error e, t) := by
  change (match a s with | (r, t) => ExceptT.bindCont f r t) = _
  rcases a s with ⟨_ | _, t⟩ <;> rfl

theorem Action.get_apply (s : Session σ) : (get : Action σ ε (Session σ)) s = (.ok s, s) := rfl

theorem Action.mapError_apply (rename : δ → ε) (a : Action σ δ α) (s : Session σ) :
    Action.mapError rename a s = ((a s).1.mapError rename, (a s).2) := by
  unfold Action.mapError
  rcases a s with ⟨_ | _, t⟩ <;> rfl

/-- The elements of a list, each with the session in which it has its turn when an action is done for one
after the other. -/
def Action.turns (g : β → Action σ ε α) : Session σ → List β → List (Session σ × β)
  | _, [] => []
  | s, x :: xs => (s, x) :: turns g (g x s).2 xs

theorem Action.map_snd_turns (g : β → Action σ ε α) (s : Session σ) (xs : List β) :
    (turns g s xs).map Prod.snd = xs := by
  induction xs generalizing s with
  | nil => rfl
  | cons x xs ih => rw [turns, List.map_cons, ih]

theorem Action.mem_of_mem_turns {g : β → Action σ ε α} {s : Session σ} {xs : List β} {x : Session σ × β}
    (h : x ∈ turns g s xs) : x.2 ∈ xs :=
  map_snd_turns g s xs ▸ List.mem_map_of_mem h

/-- In this session `a` does what `b` does, and its answer and the calls it writes down satisfy `P`. -/
def RecordsIn (s : Session σ) (a : Action (Recorded σ) ε α) (b : Action σ ε α) (P : Made ε α) : Prop :=
  ∀ calls, ∃ made, a (s.recorded calls) = ((b s).1, (b s).2.recorded (calls ++ made)) ∧ P (b s).1 made

def Records (a : Action (Recorded σ) ε α) (b : Action σ ε α) (P : Made ε α) : Prop := ∀ s, RecordsIn s a b P

open Made

namespace RecordsIn

variable {s : Session σ} {a : Action (Recorded σ) ε α} {b : Action σ ε α} {P Q : Made ε α}

theorem mono (h : RecordsIn s a b P) (hPQ : ∀ r l, P r l → Q r l) : RecordsIn s a b Q := fun calls =>
  let ⟨made, he, hp⟩ := h calls
  ⟨made, he, hPQ _ _ hp⟩

theorem unrecorded (s : Session σ) (b : Action σ ε α) :
    RecordsIn s (b.recorded fun _ => []) b fun r l => l = [] ∧ (b s).1 = r :=
  fun _ => ⟨[], rfl, rfl, rfl⟩

theorem bind {f : α → Action (Recorded σ) ε β} {g : α → Action σ ε β} {R : α → Made ε β} (h : RecordsIn s a b P)
    (hf : ∀ x t, b s = (.ok x, t) → RecordsIn t (f x) (g x) (R x)) : RecordsIn s (a >>= f) (b >>= g) (Then P R) := by
  intro calls
  obtain ⟨l, he, hp⟩ := h calls
  rw [Action.bind_apply, Action.bind_apply, he]
  generalize hb : b s = p at hp ⊢
  rcases p with ⟨e | x, t⟩
  · exact ⟨l, rfl, .stop hp⟩
  · obtain ⟨m, hm, hr⟩ := hf x t hb (calls ++ l)
    exact ⟨l ++ m, by rw [← List.append_assoc]; exact hm, .step hp hr⟩

theorem mapError {c : Action (Recorded σ) δ α} {d : Action σ δ α} {R : Made δ α} (rename : δ → ε)
    (h : RecordsIn s c d R) : RecordsIn s (Action.mapError rename c) (Action.mapError rename d) (Renamed rename R) := by
  intro calls
  obtain ⟨l, he, hr⟩ := h calls
  rw [Action.mapError_apply, Action.mapError_apply, he]
  exact ⟨l, rfl, .intro hr⟩

theorem mapM {f : β → Action (Recorded σ) ε α} {g : β → Action σ ε α} {R : Session σ × β → Made ε α}
    (h : ∀ s x, RecordsIn s (f x) (g x) (R (s, x))) (s : Session σ) (xs : List β) :
    RecordsIn s (xs.mapM f) (xs.mapM g) (Each R (Action.turns g s xs)) := by
  induction xs generalizing s with
  | nil => exact fun calls => ⟨[], by rw [List.append_nil]; rfl, .nil⟩
  | cons x xs ih =>
    rw [List.mapM_cons, List.mapM_cons, Action.turns]
    refine ((h s x).bind (R := fun y => Then (Each R (Action.turns g (g x s).2 xs)) fun ys => Silent (.ok (y :: ys)))
      fun y t ht => ?_).mono fun r l hr => ?_
    · rw [ht]
      exact (ih t).bind fun ys u _ calls => ⟨[], by rw [List.append_nil]; rfl, .intro⟩
    · cases hr with
      | stop hx => exact .stop hx
      | step hx hr =>
        cases hr with
        | stop hs => exact .stopLater hx hs
        | step hs hp => cases hp; rw [List.append_nil]; exact .cons hx hs

end RecordsIn

namespace Records

variable {a : Action (Recorded σ) ε α} {b : Action σ ε α} {P Q : Made ε α}

theorem mono (h : Records a b P) (hPQ : ∀ r l, P r l → Q r l) : Records a b Q := fun s => (h s).mono hPQ

theorem recorded (b : Action σ ε α) (call : Except ε α → Call) :
    Records (b.recorded fun r => [call r]) b (One call) := fun s _ => ⟨[call (b s).1], rfl, .intro _⟩

theorem asked (request : Request) (b : Action σ StorageError request.Answer) :
    Records (b.recorded fun r => [⟨request, r.mapError StorageError.abort⟩]) b (Asked request) :=
  recorded b fun r => ⟨request, r.mapError StorageError.abort⟩

theorem of_except (r : Except ε α) :
    Records (ExceptT.mk (pure r) : Action (Recorded σ) ε α) (ExceptT.mk (pure r)) (Silent r) :=
  fun _ calls => ⟨[], by rw [List.append_nil]; rfl, .intro⟩

theorem of_pure (x : α) : Records (pure x : Action (Recorded σ) ε α) (pure x) (Silent (.ok x)) :=
  of_except (.ok x)

theorem of_throw (e : ε) : Records (throw e : Action (Recorded σ) ε α) (throw e) (Silent (.error e)) :=
  of_except (.error e)

theorem of_report (e : Event) :
    Records (Action.report e : Action (Recorded σ) ε Unit) (Action.report e) (Silent (.ok ())) :=
  fun _ calls => ⟨[], by rw [List.append_nil]; rfl, .intro⟩

theorem bind {f : α → Action (Recorded σ) ε β} {g : α → Action σ ε β} {R : α → Made ε β}
    (h : Records a b P) (hf : ∀ x, Records (f x) (g x) (R x)) : Records (a >>= f) (b >>= g) (Then P R) :=
  fun s => (h s).bind fun x t _ => hf x t

theorem silently {c : Action (Recorded σ) ε Unit} {d : Action σ ε Unit} {f : Unit → Action (Recorded σ) ε β}
    {g : Unit → Action σ ε β} {R : Made ε β} (h : Records c d (Silent (.ok ())))
    (hf : Records (f ()) (g ()) R) : Records (c >>= f) (d >>= g) R := by
  refine (h.bind fun _ => hf).mono fun r l hr => ?_
  cases hr with
  | stop hs => cases hs
  | step hs hr => cases hs; exact hr

theorem mapError {c : Action (Recorded σ) δ α} {d : Action σ δ α} {R : Made δ α} (rename : δ → ε)
    (h : Records c d R) : Records (Action.mapError rename c) (Action.mapError rename d) (Renamed rename R) :=
  fun s => (h s).mapError rename

theorem mapM {f : β → Action (Recorded σ) ε α} {g : β → Action σ ε α} {R : β → Made ε α}
    (h : ∀ x, Records (f x) (g x) (R x)) (xs : List β) : Records (xs.mapM f) (xs.mapM g) (Each R xs) := by
  intro s
  refine (RecordsIn.mapM (R := fun x => R x.2) (fun s x => h x s) s xs).mono fun r l hr => ?_
  have hr := hr.map (P := R) (f := Prod.snd)
  rwa [Action.map_snd_turns] at hr

theorem forM {f : β → Action (Recorded σ) ε Unit} {g : β → Action σ ε Unit} {R : β → Made ε Unit}
    (h : ∀ x, Records (f x) (g x) (R x)) (xs : List β) : Records (xs.forM f) (xs.forM g) (All R xs) := by
  induction xs with
  | nil => exact (of_pure ()).mono fun r l hs => by cases hs; exact .nil
  | cons x xs ih =>
    refine ((h x).bind fun _ => ih).mono fun r l ht => ?_
    cases ht with
    | stop hx => exact .stop hx
    | step hx hr => exact .cons hx hr

theorem of_reports (l : List Event) :
    Records (l.forM Action.report : Action (Recorded σ) ε Unit) (l.forM Action.report) (Silent (.ok ())) := by
  induction l with
  | nil => exact of_pure ()
  | cons e l ih => exact (of_report e).silently ih

end Records

end ToolPipeline
