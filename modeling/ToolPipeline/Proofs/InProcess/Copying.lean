import ToolPipeline.InProcess.Builtins
import ToolPipeline.Proofs.InProcess.CleanScope
import ToolPipeline.Proofs.Text.Utf8

set_option autoImplicit false

/-!
What invoking `Builtins.cat` comes to. Files are copied as they are. The standard input is copied as a text, so bytes
that encode no text are refused there.
-/

namespace ToolPipeline

variable {σ : Type} {a : Ambient} {files : FileTree} {dir : String} {stdin out inp : Bytes} {s : Session σ}

theorem invoke_of_run {e : EntryPoint} {arguments : List String} {ending : Ending Unit} {stdout rest : Bytes}
    (h : (e arguments).run s.files ((Ambient.ofHost []).redirected [] stdin dir) =
      (ending, (Ambient.ofHost []).redirected stdout rest dir)) (name : String) :
    invoke name e arguments stdin dir s = (ending.invocation stdout, s.reporting (ending.events name)) := by
  have hfree := Ambient.free_ofHost []
  let c : Errand := ⟨s.files, e, arguments, stdin, dir⟩
  have hrun : c.run (.ofHost []) = ((ending, stdout), .ofHost []) := by
    rw [Errand.run, Errand.program, Program.runRedirected, Ambient.install_eq_redirected, h]
    exact congrArg (Prod.mk (ending, stdout)) hfree.release_redirected
  have hc : c.invocation name s = _ := Errand.invocation_eq rfl hfree name
  rw [hrun] at hc
  exact hc

namespace Builtins

def Hold (files : FileTree) (dir : String) : List String → List Bytes → Prop :=
  List.Forall₂ fun path b => files.read (Path.join dir path) = .ok b

theorem run_catFiles_cons (path : String) (rest : List String) :
    (catFiles (path :: rest)).run files (a.redirected out inp dir) =
      match files.read (Path.join dir path) with
      | .error e => (.failed (path ++ ": " ++ e.message), a.redirected out inp dir)
      | .ok b => (catFiles rest).run files (a.redirected (out ++ b) inp dir) := by
  have hread : (catFiles (path :: rest)).run files (a.redirected out inp dir) =
    (match files.read (Path.join dir path) with
      | .error e => Program.fail (path ++ ": " ++ e.message)
      | .ok b => Program.write b (catFiles rest) : Program Unit).run files (a.redirected out inp dir) := rfl
  rw [hread]
  cases files.read (Path.join dir path) <;> rfl

theorem run_catFiles_append {front : List String} {contents : List Bytes} (h : Hold files dir front contents)
    (rest : List String) (a : Ambient) (out inp : Bytes) :
    (catFiles (front ++ rest)).run files (a.redirected out inp dir) =
      (catFiles rest).run files (a.redirected (out ++ contents.flatten) inp dir) := by
  induction h generalizing out with
  | nil => rw [List.flatten_nil, List.append_nil, List.nil_append]
  | cons hb _ ih =>
    rw [List.cons_append, run_catFiles_cons, hb]
    dsimp only
    rw [ih, List.flatten_cons, List.append_assoc]

theorem run_cat_nil (files : FileTree) (a : Ambient) (out inp : Bytes) (dir : String) :
    (cat []).run files (a.redirected out inp dir) =
      match Text.decode? inp with
      | some t => (.returned (), a.redirected (out ++ Text.encode t) [] dir)
      | none => (.failed "I/O error: stream did not contain valid UTF-8", a.redirected out [] dir) := by
  have hread : (cat []).run files (a.redirected out inp dir) =
    ((match Text.decode? (inp.take inp.length) with
      | some t => pure t
      | none => .fail "I/O error: stream did not contain valid UTF-8" : Program String).bind emitText).run files
        (a.redirected out (inp.drop inp.length) dir) := rfl
  rw [hread, List.take_length, List.drop_length]
  cases Text.decode? inp <;> rfl

theorem cat_of_ne_nil {args : List String} (h : args ≠ []) : cat args = catFiles args := by
  cases args with
  | nil => exact absurd rfl h
  | cons => rfl

theorem invoke_cat_readable {paths : List String} {contents : List Bytes} (hp : paths ≠ [])
    (h : Hold s.files dir paths contents) (name : String) (stdin : Bytes) :
    invoke name cat paths stdin dir s = (.ok ⟨.returned, contents.flatten⟩, s) := by
  have hrun := run_catFiles_append h [] (.ofHost []) [] stdin
  rw [List.append_nil, ← cat_of_ne_nil hp, List.nil_append] at hrun
  exact (invoke_of_run hrun name).trans (congrArg _ s.reporting_nil)

theorem invoke_cat_unreadable {front : List String} {contents : List Bytes} {path : String} {e : FileError}
    (h : Hold s.files dir front contents) (he : s.files.read (Path.join dir path) = .error e)
    (name : String) (rest : List String) (stdin : Bytes) :
    invoke name cat (front ++ path :: rest) stdin dir s =
      (.ok ⟨.failed (path ++ ": " ++ e.message), contents.flatten⟩,
        s.reporting [.entryPointFailed name (path ++ ": " ++ e.message)]) := by
  have hrun := run_catFiles_append h (path :: rest) (.ofHost []) [] stdin
  rw [run_catFiles_cons, he, ← cat_of_ne_nil (by simp), List.nil_append] at hrun
  exact invoke_of_run hrun name

theorem invoke_cat_text (t name dir : String) (s : Session σ) :
    invoke name cat [] (Text.encode t) dir s = (.ok ⟨.returned, Text.encode t⟩, s) := by
  have hrun := run_cat_nil s.files (.ofHost []) [] (Text.encode t) dir
  rw [Text.decode?_encode] at hrun
  exact (invoke_of_run hrun name).trans (congrArg _ s.reporting_nil)

theorem invoke_cat_noText {b : Bytes} (h : ∀ t, Text.encode t ≠ b) (name dir : String) (s : Session σ) :
    invoke name cat [] b dir s =
      (.ok ⟨.failed "I/O error: stream did not contain valid UTF-8", []⟩,
        s.reporting [.entryPointFailed name "I/O error: stream did not contain valid UTF-8"]) := by
  have hrun := run_cat_nil s.files (.ofHost []) [] b dir
  rw [Option.eq_none_iff_forall_ne_some.2 fun t ht => h t (Text.decode?_eq_some_iff.1 ht)] at hrun
  exact invoke_of_run hrun name

/-- What copying comes to, from the files that are named and from the standard input. -/
structure Copies (name dir : String) (s : Session σ) : Prop where
  file : ∀ f b stdin, s.files.read (Path.join dir f) = .ok b →
    invoke name cat [f] stdin dir s = (.ok ⟨.returned, b⟩, s)
  text : ∀ t, invoke name cat [] (Text.encode t) dir s = (.ok ⟨.returned, Text.encode t⟩, s)
  /-- Bytes that are no text are refused before any of them is copied. -/
  noText : ∀ b, (∀ t, Text.encode t ≠ b) → invoke name cat [] b dir s =
    (.ok ⟨.failed "I/O error: stream did not contain valid UTF-8", []⟩,
      s.reporting [.entryPointFailed name "I/O error: stream did not contain valid UTF-8"])
  agree_iff : ∀ f b, s.files.read (Path.join dir f) = .ok b → ∀ stdin,
    ((invoke name cat [f] stdin dir s).1 = (invoke name cat [] b dir s).1 ↔ ∃ t, Text.encode t = b)
  files : ∀ paths contents stdin, paths ≠ [] → Hold s.files dir paths contents →
    invoke name cat paths stdin dir s = (.ok ⟨.returned, contents.flatten⟩, s)
  /-- What is in front of the first file that cannot be read was copied. -/
  unreadable : ∀ front contents path e rest stdin, Hold s.files dir front contents →
    s.files.read (Path.join dir path) = .error e →
    invoke name cat (front ++ path :: rest) stdin dir s =
      (.ok ⟨.failed (path ++ ": " ++ e.message), contents.flatten⟩,
        s.reporting [.entryPointFailed name (path ++ ": " ++ e.message)])

theorem cat_copies (name dir : String) (s : Session σ) : Copies name dir s := by
  have hfile (f : String) (b stdin : Bytes) (h : s.files.read (Path.join dir f) = .ok b) :
      invoke name cat [f] stdin dir s = (.ok ⟨.returned, b⟩, s) := by
    rw [invoke_cat_readable (List.cons_ne_nil f []) (.cons h .nil), List.flatten_singleton]
  refine ⟨hfile, fun t => invoke_cat_text t name dir s, fun b h => invoke_cat_noText h name dir s,
    fun f b h stdin => ?_, fun _ _ stdin hp h => invoke_cat_readable hp h name stdin,
    fun _ _ _ _ rest stdin h he => invoke_cat_unreadable h he name rest stdin⟩
  rw [hfile f b stdin h]
  by_cases hb : ∃ t, Text.encode t = b
  · obtain ⟨t, rfl⟩ := hb
    rw [invoke_cat_text]
    exact iff_of_true rfl ⟨t, rfl⟩
  · rw [invoke_cat_noText (not_exists.1 hb)]
    exact iff_of_false nofun hb

def latin : Session Unit := ⟨⟨.ofList [(["latin.txt"], .file [0xFC])], []⟩, [], ()⟩

theorem cat_latin : latin.files.read (Path.join "." "latin.txt") = .ok [0xFC] ∧
    (invoke "builtin.Cat" cat ["latin.txt"] [] "." latin).1 = .ok ⟨.returned, [0xFC]⟩ ∧
    (invoke "builtin.Cat" cat [] [0xFC] "." latin).1 =
      .ok ⟨.failed "I/O error: stream did not contain valid UTF-8", []⟩ := by
  decide +kernel

end Builtins

end ToolPipeline
