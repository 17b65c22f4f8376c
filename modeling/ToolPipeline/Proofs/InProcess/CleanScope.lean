import ToolPipeline.InProcess.Executor
import ToolPipeline.Proofs.Recording

set_option autoImplicit false

/-!
What an invocation in this process does, seen from the program and from the host.

A program is followed along the deeds it does and the answers it gets: `Program.Performs` is a path through
the tree, whatever the answers are. A redirection gives the answers, takes what is written, and leaves
nothing behind.
-/

namespace ToolPipeline

variable {α σ : Type} {a : Ambient} {files : FileTree} {dir : String} {stdin stdout out inp : Bytes} {p : Program α}

inductive Deed where
  | write (b : Bytes)
  | flush
  | read (limit : Option Nat) (got : Bytes)
  | resolve (path place : String)
  | readFile (path : String) (got : Except FileError Bytes)

namespace Deed

def written : List Deed → Bytes
  | [] => []
  | write b :: ds => b ++ written ds
  | _ :: ds => written ds

/-- The reads get piece after piece of the input, each of them as much as it may take and there is. -/
def Fed : Bytes → List Deed → Prop
  | _, [] => True
  | s, read limit got :: ds =>
    ∃ rest, s = got ++ rest ∧ got.length = min (limit.getD s.length) s.length ∧ Fed rest ds
  | s, _ :: ds => Fed s ds

theorem take_drop_of_piece {s got rest : Bytes} {limit : Nat} (hs : s = got ++ rest)
    (hl : got.length = min limit s.length) : s.take limit = got ∧ s.drop limit = rest := by
  have hm : min limit s.length = min got.length s.length := by omega
  rw [List.take_eq_take_iff.2 hm, List.drop_eq_drop_iff.2 hm, hs]
  exact ⟨List.take_left, List.drop_left⟩

def Answered (files : FileTree) (dir : String) : Deed → Prop
  | resolve path place => place = Path.join dir path
  | readFile path got => got = files.read path
  | _ => True

end Deed

namespace Ambient

structure Free (a : Ambient) : Prop where
  output : a.output = none
  input : a.input = none
  workingDir : a.workingDir = none
  trapped : a.trapped = false

theorem free_ofHost (b : Bytes) : (ofHost b).Free := ⟨rfl, rfl, rfl, rfl⟩

def redirected (a : Ambient) (out inp : Bytes) (dir : String) : Ambient :=
  { a with output := some out, input := some inp, workingDir := some dir, trapped := true }

theorem install_eq_redirected : a.install stdin dir = a.redirected [] stdin dir := rfl

theorem Free.release_redirected (h : a.Free) : (a.redirected out inp dir).release = a := by
  obtain ⟨_, _, o, i, w, t⟩ := a
  obtain ⟨rfl, rfl, rfl, rfl⟩ := h
  rfl

theorem write_redirected (b : Bytes) :
    (a.redirected out inp dir).write b = a.redirected (out ++ b) inp dir := rfl

theorem trapped_write (b : Bytes) (a : Ambient) : (a.write b).trapped = a.trapped := by
  unfold write
  split <;> rfl

theorem trapped_read (limit : Option Nat) (a : Ambient) : (a.read limit).2.trapped = a.trapped := by
  unfold read
  dsimp only
  split <;> rfl

theorem read_redirected (limit : Option Nat) : (a.redirected out inp dir).read limit =
    (inp.take (limit.getD inp.length), a.redirected out (inp.drop (limit.getD inp.length)) dir) := rfl

end Ambient

namespace Program

open Deed

/-- The states that a run goes through, from the one it starts in to the one it leaves. -/
def visited (files : FileTree) : Program α → Ambient → List Ambient
  | .done _, s | .fail _, s | .exit _, s | .crash _, s => [s]
  | .write b p, s => s :: p.visited files (s.write b)
  | .flush p, s => s :: p.visited files s
  | .read n p, s => s :: (p (s.read n).1).visited files (s.read n).2
  | .resolve path p, s => s :: (p (s.resolve path)).visited files s
  | .readFile path p, s => s :: (p (files.read path)).visited files s

theorem getLast?_visited (files : FileTree) (p : Program α) (s : Ambient) :
    (p.visited files s).getLast? = some (p.run files s).2 := by
  induction p generalizing s with
  | done | fail | exit | crash => rfl
  | write b _ ih => rw [visited, List.getLast?_cons, ih]; rfl
  | flush _ ih => rw [visited, List.getLast?_cons, ih]; rfl
  | read _ _ ih => rw [visited, List.getLast?_cons, ih]; rfl
  | resolve _ _ ih => rw [visited, List.getLast?_cons, ih]; rfl
  | readFile _ _ ih => rw [visited, List.getLast?_cons, ih]; rfl

theorem trapped_of_mem_visited {s t : Ambient} (h : t ∈ p.visited files s) : t.trapped = s.trapped := by
  induction p generalizing s with
  | done | fail | exit | crash => rw [List.mem_singleton.1 h]
  | write b _ ih =>
    obtain rfl | h := List.mem_cons.1 h
    · rfl
    · exact (ih h).trans (Ambient.trapped_write b s)
  | flush _ ih =>
    obtain rfl | h := List.mem_cons.1 h
    · rfl
    · exact ih h
  | read limit _ ih =>
    obtain rfl | h := List.mem_cons.1 h
    · rfl
    · exact (ih _ h).trans (Ambient.trapped_read limit s)
  | resolve _ _ ih =>
    obtain rfl | h := List.mem_cons.1 h
    · rfl
    · exact ih _ h
  | readFile _ _ ih =>
    obtain rfl | h := List.mem_cons.1 h
    · rfl
    · exact ih _ h

/-- A path through a program. -/
inductive Performs : Program α → List Deed → Ending α → Prop
  | done {x : α} : Performs (.done x) [] (.returned x)
  | fail {m : String} : Performs (.fail m) [] (.failed m)
  | exit {n : Int} {trapped : Bool} : Performs (.exit n) [] (@Ending.exited α trapped n)
  | crash {m : String} : Performs (.crash m) [] (.crashed m)
  | write {b : Bytes} {next : Program α} {ds : List Deed} {e : Ending α} :
      Performs next ds e → Performs (.write b next) (.write b :: ds) e
  | flush {next : Program α} {ds : List Deed} {e : Ending α} :
      Performs next ds e → Performs (.flush next) (.flush :: ds) e
  | read {limit : Option Nat} {next : Bytes → Program α} {got : Bytes} {ds : List Deed} {e : Ending α} :
      Performs (next got) ds e → Performs (.read limit next) (.read limit got :: ds) e
  | resolve {path place : String} {next : String → Program α} {ds : List Deed} {e : Ending α} :
      Performs (next place) ds e → Performs (.resolve path next) (.resolve path place :: ds) e
  | readFile {path : String} {next : Except FileError Bytes → Program α} {got : Except FileError Bytes}
      {ds : List Deed} {e : Ending α} :
      Performs (next got) ds e → Performs (.readFile path next) (.readFile path got :: ds) e

/-- The path that a program takes on this input, and what it wrote when it ended. -/
structure Confined (files : FileTree) (stdin : Bytes) (dir : String) (p : Program α) (ds : List Deed)
    (ending : Ending α) (stdout : Bytes) : Prop where
  performs : p.Performs ds ending
  /-- The process goes on, also behind an exit. -/
  survives : ∀ n, ending ≠ .ended n
  stdout_eq : stdout = written ds
  fed : Fed stdin ds
  answered : ∀ d ∈ ds, d.Answered files dir

theorem run_redirected (a : Ambient) (p : Program α) (files : FileTree) (out inp : Bytes) (dir : String) :
    ∃ ds ending stdout rest, Confined files inp dir p ds ending stdout ∧
      p.run files (a.redirected out inp dir) = (ending, a.redirected (out ++ stdout) rest dir) := by
  -- Between two steps the state is a redirected one again, with more output and less input.
  induction p generalizing out inp with
  | done x => exact ⟨[], _, [], inp, ⟨.done, nofun, rfl, trivial, by simp⟩, by simp [run]⟩
  | fail m => exact ⟨[], _, [], inp, ⟨.fail, nofun, rfl, trivial, by simp⟩, by simp [run]⟩
  | exit n =>
    -- The trap is there, so the exit is a request.
    exact ⟨[], .requested n, [], inp, ⟨.exit, nofun, rfl, trivial, by simp⟩, by simp [run, Ambient.redirected]⟩
  | crash m => exact ⟨[], _, [], inp, ⟨.crash, nofun, rfl, trivial, by simp⟩, by simp [run]⟩
  | write b next ih =>
    obtain ⟨ds, e, o, rest, hc, hr⟩ := ih (out ++ b) inp
    refine ⟨.write b :: ds, e, b ++ o, rest, ⟨.write hc.performs, hc.survives, ?_, hc.fed, ?_⟩, ?_⟩
    · rw [hc.stdout_eq, written]
    · exact List.forall_mem_cons.2 ⟨trivial, hc.answered⟩
    · rw [run, Ambient.write_redirected, hr, List.append_assoc]
  | flush next ih =>
    obtain ⟨ds, e, o, rest, hc, hr⟩ := ih out inp
    exact ⟨.flush :: ds, e, o, rest,
      ⟨.flush hc.performs, hc.survives, hc.stdout_eq, hc.fed, List.forall_mem_cons.2 ⟨trivial, hc.answered⟩⟩, hr⟩
  | read limit next ih =>
    obtain ⟨ds, e, o, rest, hc, hr⟩ :=
      ih (inp.take (limit.getD inp.length)) out (inp.drop (limit.getD inp.length))
    exact ⟨.read limit _ :: ds, e, o, rest,
      ⟨.read hc.performs, hc.survives, hc.stdout_eq, ⟨_, (List.take_append_drop _ _).symm, List.length_take, hc.fed⟩,
        List.forall_mem_cons.2 ⟨trivial, hc.answered⟩⟩, hr⟩
  | resolve path next ih =>
    obtain ⟨ds, e, o, rest, hc, hr⟩ := ih (Path.join dir path) out inp
    exact ⟨.resolve path _ :: ds, e, o, rest,
      ⟨.resolve hc.performs, hc.survives, hc.stdout_eq, hc.fed, List.forall_mem_cons.2 ⟨rfl, hc.answered⟩⟩, hr⟩
  | readFile path next ih =>
    obtain ⟨ds, e, o, rest, hc, hr⟩ := ih (files.read path) out inp
    exact ⟨.readFile path _ :: ds, e, o, rest,
      ⟨.readFile hc.performs, hc.survives, hc.stdout_eq, hc.fed, List.forall_mem_cons.2 ⟨rfl, hc.answered⟩⟩, hr⟩

theorem Performs.run_eq {ds : List Deed} {ending : Ending α} (h : p.Performs ds ending)
    (hs : ∀ n, ending ≠ .ended n) (hf : Fed inp ds) (ha : ∀ d ∈ ds, d.Answered files dir) (a : Ambient) (out : Bytes) :
    ∃ rest, p.run files (a.redirected out inp dir) = (ending, a.redirected (out ++ written ds) rest dir) := by
  induction h generalizing out inp with
  | done => exact ⟨inp, by simp [run, written]⟩
  | fail => exact ⟨inp, by simp [run, written]⟩
  | @exit n trapped =>
    cases trapped with
    | false => exact absurd rfl (hs n)
    | true => exact ⟨inp, by simp [run, written, Ambient.redirected]⟩
  | crash => exact ⟨inp, by simp [run, written]⟩
  | @write b next ds e _ ih =>
    obtain ⟨rest, hr⟩ := ih hs hf (List.forall_mem_cons.1 ha).2 (out ++ b)
    exact ⟨rest, by rw [run, Ambient.write_redirected, hr, written, List.append_assoc]⟩
  | flush _ ih => exact ih hs hf (List.forall_mem_cons.1 ha).2 out
  | @read limit next got ds e _ ih =>
    obtain ⟨rest, hp, hl, hf⟩ := hf
    obtain ⟨hg, hd⟩ := take_drop_of_piece hp hl
    rw [← hd] at hf
    obtain ⟨rest', hr⟩ := ih hs hf (List.forall_mem_cons.1 ha).2 out
    exact ⟨rest', by rw [run, Ambient.read_redirected, hg, hr]; rfl⟩
  | @resolve path place next ds e _ ih =>
    obtain ⟨rfl : place = _, ha'⟩ := List.forall_mem_cons.1 ha
    exact ih hs hf ha' out
  | @readFile path next got ds e _ ih =>
    obtain ⟨rfl : got = _, ha'⟩ := List.forall_mem_cons.1 ha
    exact ih hs hf ha' out

/-- A redirection ends as it found the host, and what came of the program is determined by a path. -/
theorem runRedirected_eq_iff {ending : Ending α} {a' : Ambient} (h : a.Free) :
    p.runRedirected files stdin dir a = ((ending, stdout), a') ↔
      a' = a ∧ ∃ ds, Confined files stdin dir p ds ending stdout := by
  have hrun : ∀ {ds e o}, Confined files stdin dir p ds e o → p.runRedirected files stdin dir a = ((e, o), a) := by
    intro ds e o hc
    obtain ⟨rest, hr⟩ := hc.performs.run_eq hc.survives hc.fed hc.answered a []
    rw [runRedirected, Ambient.install_eq_redirected, hr, hc.stdout_eq]
    exact congrArg (Prod.mk (e, written ds)) h.release_redirected
  constructor
  · intro hr
    -- Some path is taken, and it leads to where the run ended.
    obtain ⟨ds, e, o, -, hc, -⟩ := run_redirected a p files [] stdin dir
    cases (hrun hc).symm.trans hr
    exact ⟨rfl, ds, hc⟩
  · rintro ⟨rfl, ds, hc⟩
    exact hrun hc

end Program

namespace Ending

def invocation (stdout : Bytes) : Ending Unit → Except Abort Invocation
  | returned () => .ok ⟨.returned, stdout⟩
  | failed m => .ok ⟨.failed m, stdout⟩
  | requested n => .ok ⟨.terminated n, stdout⟩
  | ended n => .error (.crash s!"process ended with status {n}")
  | crashed m => .error (.crash m)

def stageOutput (name : String) (stdout : Bytes) : Ending Unit → Except Abort StageOutput
  | returned () => .ok ⟨0, stdout, []⟩
  | failed m => .ok ⟨1, stdout, Text.encode (name ++ ": " ++ m ++ "\n")⟩
  | requested n => .ok ⟨n, stdout, []⟩
  | ended n => .error (.crash s!"process ended with status {n}")
  | crashed m => .error (.crash m)

def events (name : String) : Ending Unit → List Event
  | failed m => [.entryPointFailed name m]
  | requested n => [.terminationTrapped name n]
  | _ => []

end Ending

def Session.reporting (s : Session σ) (l : List Event) : Session σ := { s with events := s.events ++ l }

theorem Session.reporting_nil (s : Session σ) : s.reporting [] = s := by rw [reporting, List.append_nil]

structure Errand where
  files : FileTree
  entryPoint : EntryPoint
  arguments : List String
  stdin : Bytes
  workingDir : String

namespace Errand

variable {c : Errand}

def program (c : Errand) : Program Unit := c.entryPoint c.arguments

def run (c : Errand) : StateM Ambient (Ending Unit × Bytes) :=
  c.program.runRedirected c.files c.stdin c.workingDir

def Takes (c : Errand) (ds : List Deed) (ending : Ending Unit) (stdout : Bytes) : Prop :=
  c.program.Confined c.files c.stdin c.workingDir ds ending stdout

theorem run_eq_iff {ending : Ending Unit} {a' : Ambient} (h : a.Free) :
    c.run a = ((ending, stdout), a') ↔ a' = a ∧ ∃ ds, c.Takes ds ending stdout :=
  Program.runRedirected_eq_iff h

theorem run_snd (h : a.Free) : (c.run a).2 = a := (run_eq_iff h).1 rfl |>.1

/-- What was on the host before has no influence. -/
theorem run_fst_congr {a' : Ambient} (h : a.Free) (h' : a'.Free) : (c.run a).1 = (c.run a').1 := by
  obtain ⟨-, ht⟩ := (run_eq_iff h').1 (rfl : c.run a' = ((c.run a').1, (c.run a').2))
  have hr : c.run a = ((c.run a').1, a) := (run_eq_iff h).2 ⟨rfl, ht⟩
  rw [hr]

theorem mapM_run (cs : List Errand) (h : a.Free) :
    cs.mapM run a = (cs.map fun c => (c.run (.ofHost [])).1, a) := by
  induction cs with
  | nil => rfl
  | cons c cs ih =>
    rw [List.mapM_cons]
    change ((c.run a).1 :: (cs.mapM run (c.run a).2).1, (cs.mapM run (c.run a).2).2) = _
    rw [run_snd h, ih, List.map_cons, run_fst_congr h (Ambient.free_ofHost [])]

def invocation (c : Errand) (name : String) : Action σ Abort Invocation :=
  invoke name c.entryPoint c.arguments c.stdin c.workingDir

theorem invocation_eq {s : Session σ} (hs : s.files = c.files) (h : a.Free) (name : String) :
    c.invocation name s = ((c.run a).1.1.invocation (c.run a).1.2, s.reporting ((c.run a).1.1.events name)) := by
  rw [run_fst_congr h (Ambient.free_ofHost []), run, program, ← hs]
  simp only [invocation, invoke, Action.bind_apply, Action.get_apply]
  obtain ⟨⟨ending, stdout⟩, -⟩ :=
    Program.runRedirected s.files c.stdin c.workingDir (c.entryPoint c.arguments) (.ofHost [])
  cases ending with
  | returned => exact congrArg (Prod.mk _) s.reporting_nil.symm
  | failed m => rfl
  | @exited trapped n =>
    cases trapped with
    | true => rfl
    | false => exact congrArg (Prod.mk _) s.reporting_nil.symm
  | crashed m => exact congrArg (Prod.mk _) s.reporting_nil.symm

theorem execution_eq {s s' : Session σ} {lookup : String → Option EntryPoint} {line name token : String}
    (hr : resolveEntryPoint lookup c.workingDir line s = (.ok ⟨name, token, c.entryPoint, c.arguments⟩, s'))
    (hs : s'.files = c.files) (h : a.Free) :
    (inProcessExecutor lookup).run line c.workingDir c.stdin s =
      ((c.run a).1.1.stageOutput name (c.run a).1.2, s'.reporting ((c.run a).1.1.events name)) := by
  have hm : Action.mapError (.map .resolution) (resolveEntryPoint lookup c.workingDir line) s =
      ((.ok ⟨name, token, c.entryPoint, c.arguments⟩ : Except Abort _), s') := by
    rw [Action.mapError_apply, hr]
    rfl
  have hi : invoke name c.entryPoint c.arguments c.stdin c.workingDir s' = _ := invocation_eq hs h name
  simp only [inProcessExecutor, Action.bind_apply, hm, hi]
  obtain ⟨⟨ending, stdout⟩, -⟩ := c.run a
  cases ending with
  | @exited trapped n => cases trapped <;> rfl
  | returned | failed | crashed => rfl

structure CleanScope (σ : Type) (c : Errand) (a : Ambient) (ds : List Deed) (ending : Ending Unit)
    (stdout : Bytes) : Prop where
  takes : c.Takes ds ending stdout
  determined : ∀ ds' ending' stdout', c.Takes ds' ending' stdout' → ending' = ending ∧ stdout' = stdout
  /-- The trap is there from the first step to the last one, so that no exit ends the process. -/
  armed : ∀ u ∈ c.program.visited c.files (a.install c.stdin c.workingDir), u.trapped = true
  survives : ∀ n, ending ≠ .ended n
  /-- The host is as it was, also behind an exit or a breakdown. -/
  restores : c.run a = ((ending, stdout), a)
  told : ∀ (name : String) (s : Session σ), s.files = c.files →
    c.invocation name s = (ending.invocation stdout, s.reporting (ending.events name))
  executed : ∀ (lookup : String → Option EntryPoint) (line name token : String) (s s' : Session σ),
    resolveEntryPoint lookup c.workingDir line s = (.ok ⟨name, token, c.entryPoint, c.arguments⟩, s') →
    s'.files = c.files →
    (inProcessExecutor lookup).run line c.workingDir c.stdin s =
      (ending.stageOutput name stdout, s'.reporting (ending.events name))
  later : ∀ cs : List Errand, cs.mapM run (c.run a).2 = (cs.map fun d => (d.run (.ofHost [])).1, a)

/-- Invoking an entry point is a scope that nothing gets out of but its ending and what it wrote. -/
theorem cleanScope (σ : Type) (c : Errand) (a : Ambient) (h : a.Free) :
    ∃ ds ending stdout, CleanScope σ c a ds ending stdout := by
  obtain ⟨⟨⟨ending, stdout⟩, a'⟩, hr⟩ : ∃ r, c.run a = r := ⟨_, rfl⟩
  obtain ⟨rfl, ds, ht⟩ := (run_eq_iff h).1 hr
  refine ⟨ds, ending, stdout, ht, fun ds' e o ht' => ?_, fun u hu => Program.trapped_of_mem_visited hu, ht.survives,
    hr, fun name s hs => ?_, fun lookup line name token s s' hl hs => ?_, fun cs => ?_⟩
  · cases hr.symm.trans ((run_eq_iff h).2 ⟨rfl, ds', ht'⟩)
    exact ⟨rfl, rfl⟩
  · rw [invocation_eq hs h, hr]
  · rw [execution_eq hl hs h, hr]
  · rw [hr, mapM_run cs h]

def breaking : Errand :=
  ⟨⟨∅, []⟩, fun _ => .read (some 2) fun b => .write b (.crash "unexpected failure"), [], [104, 105, 33], "work"⟩

def exiting : Errand := { breaking with entryPoint := fun _ => .write [104] (.exit 3) }

theorem cleanScope_breaking :
    (Ambient.ofHost [7]).Free ∧
      breaking.run (.ofHost [7]) = ((.crashed "unexpected failure", [104, 105]), .ofHost [7]) ∧
      exiting.run (.ofHost [7]) = ((.requested 3, [104]), .ofHost [7]) ∧
      (∃ ds ending stdout, CleanScope Unit breaking (.ofHost [7]) ds ending stdout) ∧
      ∃ ds ending stdout, CleanScope Unit exiting (.ofHost [7]) ds ending stdout :=
  ⟨Ambient.free_ofHost _, rfl, rfl, cleanScope Unit breaking _ (Ambient.free_ofHost _),
    cleanScope Unit exiting _ (Ambient.free_ofHost _)⟩

end Errand

end ToolPipeline
