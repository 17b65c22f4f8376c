import ToolPipeline.Proofs.InProcess.CleanScope
import ToolPipeline.Proofs.Text.Utf8

set_option autoImplicit false

/-!
Redirections over whole histories of calls.

A redirection is installed, used and released again, and what happens in between is decided by the call
that installed it and the calls since.
-/

namespace ToolPipeline

/-- The ambient streams of a process with its panic hooks. A redirection adds a hook that is quiet about
requests to end and passes everything else on. -/
structure Console where
  ambient : Ambient
  hooks : Nat
  deriving DecidableEq, Repr

namespace Console

inductive Step where
  | install (stdin : Bytes) (dir : String)
  | out (b : Bytes)
  | flush
  | read (limit : Nat)
  | readAll
  | path (path : String)
  | isRedirected
  | exit (status : Int)
  | restore
  | drop
  /-- Dropping while a panic unwinds, when hooks cannot be changed. -/
  | dropUnwinding
  deriving DecidableEq, Repr

inductive Answer where
  | done
  | wrote (count : Nat)
  | got (b : Bytes)
  | text (s : String)
  | notText
  | place (path : String)
  | redirected (yes : Bool)
  /-- A request to end was raised, and reported if no hook is quiet about it. -/
  | requested (status : Int) (reported : Bool)
  | ended (status : Int)
  | captured (b : Bytes)
  deriving DecidableEq, Repr

def host (input : Bytes) : Console := ⟨.ofHost input, 0⟩

def Answer.ofBytes (b : Bytes) : Answer :=
  match Text.decode? b with
  | some s => .text s
  | none => .notText

def Step.perform (step : Step) : StateM Console Answer := fun c =>
  match step with
  | install stdin dir => (.done, ⟨c.ambient.install stdin dir, c.hooks + 1⟩)
  | out b => (.wrote b.length, { c with ambient := c.ambient.write b })
  | flush => (.done, c)
  | read n => (.got (c.ambient.read (some n)).1, { c with ambient := (c.ambient.read (some n)).2 })
  | readAll => (.ofBytes (c.ambient.read none).1, { c with ambient := (c.ambient.read none).2 })
  | path p => (.place (c.ambient.resolve p), c)
  | isRedirected => (.redirected c.ambient.trapped, c)
  | exit n => (if c.ambient.trapped then .requested n (c.hooks == 0) else .ended n, c)
  | restore => (.captured c.ambient.captured, ⟨c.ambient.release, c.hooks - 1⟩)
  | drop => (.done, ⟨c.ambient.release, c.hooks - 1⟩)
  | dropUnwinding => (.done, { c with ambient := c.ambient.release })

def run (steps : List Step) : StateM Console (List Answer) := steps.mapM Step.perform

variable {c : Console} {a : Ambient} {step : Step} {steps since : List Step} {dir : String}
  {input stdin stdout inp : Bytes} {k : Nat}

theorem run_cons (step : Step) (steps : List Step) (c : Console) :
    run (step :: steps) c =
      ((step.perform c).1 :: (run steps (step.perform c).2).1, (run steps (step.perform c).2).2) := by
  rw [run, List.mapM_cons]
  rfl

theorem run_append (steps more : List Step) (c : Console) :
    run (steps ++ more) c =
      ((run steps c).1 ++ (run more (run steps c).2).1, (run more (run steps c).2).2) := by
  induction steps generalizing c with
  | nil => rfl
  | cons step steps ih => rw [List.cons_append, run_cons, run_cons, ih, List.cons_append]

theorem run_snoc (steps : List Step) (step : Step) (c : Console) :
    run (steps ++ [step]) c =
      ((run steps c).1 ++ [(step.perform (run steps c).2).1], (step.perform (run steps c).2).2) := by
  rw [run_append, run_cons]
  rfl

namespace Step

def Uses : Step → Prop
  | install .. | restore | drop | dropUnwinding => False
  | _ => True

def Releases : Step → Prop
  | restore | drop | dropUnwinding => True
  | _ => False

def IsExit : Step → Prop
  | exit _ => True
  | _ => False

def written : Step → Bytes
  | out b => b
  | _ => []

def left (inp : Bytes) : Step → Bytes
  | read n => inp.drop n
  | readAll => []
  | _ => inp

def answer (dir : String) (inp : Bytes) : Step → Answer
  | out b => .wrote b.length
  | read n => .got (inp.take n)
  | readAll => .ofBytes inp
  | path p => .place (Path.join dir p)
  | isRedirected => .redirected true
  | exit n => .requested n false
  | _ => .done

theorem perform_redirected (h : step.Uses) :
    step.perform ⟨a.redirected stdout inp dir, k + 1⟩ =
      (step.answer dir inp, ⟨a.redirected (stdout ++ step.written) (step.left inp) dir, k + 1⟩) := by
  cases step with
  | out b => rfl
  | read n => simp [perform, answer, written, left, Ambient.read_redirected]
  | readAll => simp [perform, answer, written, left, Ambient.read_redirected]
  | flush | path | isRedirected | exit =>
    simp [perform, answer, written, left, Ambient.redirected, Ambient.resolve]
  | install | restore | drop | dropUnwinding => cases h

theorem free_perform (h : step.Uses) (hf : c.ambient.Free) :
    (step.perform c).2.ambient.Free ∧ (step.perform c).2.hooks = c.hooks := by
  obtain ⟨⟨_, _, _, _, _, _⟩, k⟩ := c
  obtain ⟨rfl, rfl, rfl, rfl⟩ := hf
  cases step with
  | out | read | readAll | flush | path | isRedirected | exit => exact ⟨⟨rfl, rfl, rfl, rfl⟩, rfl⟩
  | install | restore | drop | dropUnwinding => cases h

end Step

def written (steps : List Step) : Bytes := steps.flatMap Step.written

@[simp] theorem written_nil : written [] = [] := rfl

@[simp] theorem written_cons : written (step :: steps) = step.written ++ written steps := rfl

def left (inp : Bytes) (steps : List Step) : Bytes := steps.foldl Step.left inp

def answers (dir : String) : Bytes → List Step → List Answer
  | _, [] => []
  | inp, step :: steps => step.answer dir inp :: answers dir (step.left inp) steps

theorem run_redirected (h : ∀ step ∈ steps, step.Uses) :
    run steps ⟨a.redirected stdout inp dir, k + 1⟩ =
      (answers dir inp steps, ⟨a.redirected (stdout ++ written steps) (left inp steps) dir, k + 1⟩) := by
  induction steps generalizing stdout inp with
  | nil =>
    rw [written_nil, List.append_nil]
    rfl
  | cons step steps ih =>
    obtain ⟨hstep, hsteps⟩ := List.forall_mem_cons.1 h
    rw [run_cons, Step.perform_redirected hstep, ih hsteps, written_cons, ← List.append_assoc]
    rfl

def Answer.delivered : Answer → Bytes
  | got b => b
  | text s => Text.encode s
  | _ => []

/-- The input is handed out in order. What a failed read has consumed is lost, and nothing is left then. -/
def Fed (stdin : Bytes) (given : List Answer) (rest : Bytes) : Prop :=
  ∃ lost, stdin = given.flatMap Answer.delivered ++ lost ++ rest ∧
    (.notText ∉ given ∧ lost = [] ∨ .notText ∈ given ∧ Text.decode? lost = none ∧ rest = [])

theorem Fed.cons {answer : Answer} {given : List Answer} {rest next : Bytes} (ha : answer ≠ .notText)
    (hi : inp = answer.delivered ++ next) (h : Fed next given rest) : Fed inp (answer :: given) rest := by
  obtain ⟨lost, rfl, hl⟩ := h
  refine ⟨lost, by simp [hi], ?_⟩
  simpa [List.mem_cons, ha.symm] using hl

theorem Fed.cons_notText {given : List Answer} {rest : Bytes} (hi : Text.decode? inp = none)
    (h : Fed [] given rest) : Fed inp (.notText :: given) rest := by
  obtain ⟨lost, he, -⟩ := h
  simp only [List.nil_eq, List.append_eq_nil_iff] at he
  obtain ⟨⟨hd, -⟩, rfl⟩ := he
  exact ⟨inp, by simp [Answer.delivered, hd], .inr ⟨List.mem_cons_self, hi, rfl⟩⟩

theorem fed_answers (dir : String) (inp : Bytes) (h : ∀ step ∈ steps, step.Uses) :
    Fed inp (answers dir inp steps) (left inp steps) := by
  induction steps generalizing inp with
  | nil => exact ⟨[], by simp [answers, left], .inl ⟨List.not_mem_nil, rfl⟩⟩
  | cons step steps ih =>
    obtain ⟨hstep, hsteps⟩ := List.forall_mem_cons.1 h
    have hrest := ih (step.left inp) hsteps
    cases step with
    | read n => exact .cons nofun (List.take_append_drop n inp).symm hrest
    | readAll =>
      cases hd : Text.decode? inp with
      -- A failed read takes everything, so the calls behind it are given nothing.
      | none =>
        have ha : Step.answer dir inp .readAll = .notText := by simp [Step.answer, Answer.ofBytes, hd]
        rw [answers, ha]
        exact .cons_notText hd hrest
      | some s =>
        have ha : Step.answer dir inp .readAll = .text s := by simp [Step.answer, Answer.ofBytes, hd]
        rw [answers, ha]
        exact .cons nofun (by simp [Answer.delivered, Text.encode_of_decode? hd, Step.left]) hrest
    | out | flush | path | isRedirected | exit => exact .cons nofun rfl hrest
    | install | restore | drop | dropUnwinding => cases hstep

structure Scope where
  stdin : Bytes
  dir : String
  since : List Step

def Scope.calls (s : Scope) : List Step := .install s.stdin s.dir :: s.since

def place : Option Scope → String → String
  | some s, p => Path.join s.dir p
  | none, p => p

def Scope.Used (s : Scope) : Prop := ∀ step ∈ s.since, step.Uses

theorem run_scope {s : Scope} (h : s.Used) (c : Console) :
    run s.calls c = (.done :: answers s.dir s.stdin s.since,
      ⟨c.ambient.redirected (written s.since) (left s.stdin s.since) s.dir, c.hooks + 1⟩) := by
  have hr : run s.since ⟨c.ambient.redirected [] s.stdin s.dir, c.hooks + 1⟩ = _ := run_redirected h
  rw [Scope.calls, run_cons, Step.perform, Ambient.install_eq_redirected, hr, List.nil_append]

/-- The calls a process can go on from, with the redirection that is open behind them. There is one at most,
and nothing comes after asking to end on the host. -/
inductive History : List Step → Option Scope → Prop
  | start : History [] none
  | onHost {steps : List Step} (step : Step) :
      History steps none → step.Uses → ¬ step.IsExit → History (steps ++ [step]) none
  | install {steps : List Step} (stdin : Bytes) (dir : String) :
      History steps none → History (steps ++ [.install stdin dir]) (some ⟨stdin, dir, []⟩)
  | inside {steps since : List Step} {stdin : Bytes} {dir : String} (step : Step) :
      History steps (some ⟨stdin, dir, since⟩) → step.Uses →
        History (steps ++ [step]) (some ⟨stdin, dir, since ++ [step]⟩)
  | release {steps : List Step} {s : Scope} (step : Step) :
      History steps (some s) → step.Releases → History (steps ++ [step]) none

def after (input : Bytes) (steps : List Step) : Console := (run steps (host input)).2

theorem after_snoc (input : Bytes) (steps : List Step) (step : Step) :
    after input (steps ++ [step]) = (step.perform (after input steps)).2 := by
  rw [after, run_snoc]
  rfl

theorem after_scope {before : List Step} {s : Scope} (h : s.Used) :
    after input (before ++ s.calls) =
      ⟨(after input before).ambient.redirected (written s.since) (left s.stdin s.since) s.dir,
        (after input before).hooks + 1⟩ := by
  rw [after, run_append, run_scope h]
  rfl

theorem ambient_release {before : List Step} {s : Scope} (h : s.Used) (hf : (after input before).ambient.Free)
    (hr : step.Releases) :
    (step.perform (after input (before ++ s.calls))).2.ambient = (after input before).ambient := by
  rw [after_scope h]
  cases step with
  | restore | drop | dropUnwinding => exact hf.release_redirected
  | _ => cases hr

/-- Where a history has come to: to the host, or into a redirection that starts on the host. -/
def Position (input : Bytes) (steps : List Step) : Option Scope → Prop
  | none => (after input steps).ambient.Free
  | some s => ∃ before, History before none ∧ (after input before).ambient.Free ∧ steps = before ++ s.calls ∧ s.Used

theorem History.position {scope : Option Scope} (h : History steps scope) (input : Bytes) :
    Position input steps scope := by
  -- An open redirection is kept apart from the calls that led to it, which end on the host.
  induction h with
  | start => exact Ambient.free_ofHost input
  | onHost step _ hu _ ih =>
    rw [Position, after_snoc]
    exact (Step.free_perform hu ih).1
  | @install steps stdin dir h ih => exact ⟨steps, h, ih, rfl, fun _ hm => absurd hm List.not_mem_nil⟩
  | inside step _ hu ih =>
    obtain ⟨before, hb, hf, rfl, hused⟩ := ih
    refine ⟨before, hb, hf, by simp [Scope.calls], fun x hx => ?_⟩
    obtain hx | hx := List.mem_append.1 hx
    · exact hused x hx
    · rwa [List.mem_singleton.1 hx]
  | release step _ hr ih =>
    obtain ⟨before, hb, hf, rfl, hused⟩ := ih
    rw [Position, after_snoc, ambient_release hused hf hr]
    exact hf

theorem History.hooks_eq {scope : Option Scope} (h : History steps scope) (input : Bytes) :
    (after input steps).hooks = steps.count .dropUnwinding + (if scope.isSome then 1 else 0) := by
  induction h with
  | start => rfl
  | onHost step h hu _ ih =>
    rw [after_snoc, (Step.free_perform hu (h.position input)).2, ih]
    cases step with
    | install | restore | drop | dropUnwinding => cases hu
    | _ => simp
  | install stdin dir _ ih => simp [after_snoc, Step.perform, ih]
  | inside step h hu ih =>
    rw [after_snoc]
    cases step with
    | install | restore | drop | dropUnwinding => cases hu
    | _ => simp [Step.perform, ih]
  | release step h hr ih =>
    rw [after_snoc]
    cases step with
    | restore | drop | dropUnwinding => simp [Step.perform, ih]
    | _ => cases hr

structure Redirected (input : Bytes) (steps : List Step) (s : Scope) (before : List Step) (given : List Answer) :
    Prop where
  steps_eq : steps = before ++ s.calls
  history : History before none
  answers_eq : (run steps (host input)).1 = (run before (host input)).1 ++ .done :: given
  restored : (Step.restore.perform (after input steps)).1 = .captured (written s.since)
  fed : ∃ rest, (after input steps).ambient.input = some rest ∧ Fed s.stdin given rest
  /-- Each answer is the one that the calls since the installation get on any other console. -/
  alone : ∀ c, (run s.calls c).1 = .done :: given ∧ ∀ step : Step, step.Uses ∨ step.Releases →
    (step.perform (run s.calls c).2).1 = (step.perform (after input steps)).1
  released : ∀ step : Step, step.Releases →
    (step.perform (after input steps)).2.ambient = (after input before).ambient

structure Accounted (input : Bytes) (steps : List Step) (scope : Option Scope) : Prop where
  trapped : (after input steps).ambient.trapped = scope.isSome
  output_bound : (after input steps).ambient.output.isSome = scope.isSome
  input_bound : (after input steps).ambient.input.isSome = scope.isSome
  workingDir_bound : (after input steps).ambient.workingDir.isSome = scope.isSome
  places : ∀ p, ((Step.path p).perform (after input steps)).1 = .place (place scope p)
  exits : ∀ n, (Step.exit n).perform (after input steps) =
    (if scope.isSome then .requested n false else .ended n, after input steps)
  /-- A redirection takes its hook with it unless a panic unwinds. -/
  hooks : (after input steps).hooks = steps.count .dropUnwinding + (if scope.isSome then 1 else 0)
  redirected : ∀ s, scope = some s → ∃ before given, Redirected input steps s before given

theorem redirected_of_used {before : List Step} {s : Scope} (hb : History before none)
    (hf : (after input before).ambient.Free) (hu : s.Used) :
    Redirected input (before ++ s.calls) s before (answers s.dir s.stdin s.since) where
  steps_eq := rfl
  history := hb
  answers_eq := by rw [run_append, run_scope hu]
  restored := by
    rw [after_scope hu]
    rfl
  fed := by
    rw [after_scope hu]
    exact ⟨_, rfl, fed_answers s.dir s.stdin hu⟩
  alone c := by
    refine ⟨by rw [run_scope hu], fun step hstep => ?_⟩
    rw [run_scope hu, after_scope hu]
    obtain hstep | hstep := hstep
    · rw [Step.perform_redirected hstep, Step.perform_redirected hstep]
    · cases step with
      | restore | drop | dropUnwinding => rfl
      | _ => cases hstep
  released step := ambient_release hu hf

theorem accounted {scope : Option Scope} (input : Bytes) (h : History steps scope) :
    Accounted input steps scope := by
  have hhooks := h.hooks_eq input
  have hpos := h.position input
  cases scope with
  | none =>
    obtain ⟨hout, hin, hdir, htrap⟩ := hpos
    refine ⟨htrap, by rw [hout]; rfl, by rw [hin]; rfl, by rw [hdir]; rfl, fun p => ?_, fun n => ?_, hhooks, nofun⟩
    · simp [Step.perform, Ambient.resolve, hdir, place]
    · simp [Step.perform, htrap]
  | some s =>
    obtain ⟨before, hb, hf, rfl, hu⟩ := hpos
    have hstate : after input (before ++ s.calls) = _ := after_scope hu
    refine ⟨by rw [hstate]; rfl, by rw [hstate]; rfl, by rw [hstate]; rfl, by rw [hstate]; rfl,
      fun p => ?_, fun n => ?_, hhooks, fun _ hs => ?_⟩
    · rw [hstate]
      rfl
    · rw [hstate]
      rfl
    · cases hs
      exact ⟨before, _, redirected_of_used hb hf hu⟩

/-- A redirection whose input is no text is dropped by a panic, and the next one is read in part. -/
theorem accounted_second :
    let steps : List Step := [.out [33], .install [97, 255] "old", .readAll, .dropUnwinding,
      .install [98, 99, 100] "new", .out [120], .read 2, .exit 3]
    let scope : Scope := ⟨[98, 99, 100], "new", [.out [120], .read 2, .exit 3]⟩
    History steps (some scope) ∧ Accounted [] steps (some scope) := by
  have h := (((((History.start.onHost (.out [33]) trivial nofun).install [97, 255] "old").inside .readAll
    trivial).release .dropUnwinding trivial).install [98, 99, 100] "new").inside (.out [120]) trivial
  have h' := (h.inside (.read 2) trivial).inside (.exit 3) trivial
  exact ⟨h', accounted [] h'⟩

end Console

end ToolPipeline
