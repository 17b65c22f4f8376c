import ToolPipeline.Proofs.ControlLine.Rendering
import ToolPipeline.Proofs.Piping.Outcome
import ToolPipeline.Proofs.Storage.Directories
import ToolPipeline.Tool.File

set_option autoImplicit false

/-!
Piping through a file. What a line leaves in a file is what the next line reads from it, so that two lines do
what one line does, as long as the file is not among those that say what the second line means.
-/

namespace ToolPipeline

variable {σ : Type}

theorem FileTree.read_of_putFile {p : String} {b : Bytes} {t u : FileTree} (h : putFile p b t = (.ok (), u))
    (hf : u.holdsFile p = true) : u.read p = .ok b := by
  rw [putFile, bind_apply] at h
  rcases hm : makeParent p t with ⟨_ | _, v⟩
  · rw [hm] at h
    cases h
  · rw [hm] at h
    dsimp only at h
    rw [write_apply] at h
    cases hw : v.writable p with
    | error e =>
      rw [hw] at h
      cases h
    | ok l =>
      rw [hw] at h
      cases l with
      | none =>
        cases h
        -- A device would have swallowed it, but it is no regular file.
        obtain ⟨d, hd⟩ := writable_eq_none hw
        exact absurd hd (lookup_ne_device hf d)
      | some l =>
        cases h
        have he := get_put_self (t := v) (ne_nil_of_writable hw) (.file b)
        have hl := locate_of_writable hw (extends_put_file hw b) (by rw [he]; rfl)
        exact read_of_lookup_file (lookup_eq_ok_iff.2 ⟨l, hl, he⟩)

namespace StorageRoots

variable {roots : StorageRoots} {reference path : String} {b : Bytes} {s t : Session σ}

theorem resolve_of_write (h : roots.write reference b s = (.ok (), t)) :
    ∃ path, roots.resolve reference = .ok path := by
  cases hr : roots.resolve reference with
  | ok path => exact ⟨path, rfl⟩
  | error e =>
    rw [write, Action.bind_of_error hr] at h
    cases h

theorem putFile_of_write (hr : roots.resolve reference = .ok path) (h : roots.write reference b s = (.ok (), t)) :
    FileTree.putFile path b s.files = (.ok (), t.files) := by
  rw [write_eq hr] at h
  rcases hp : FileTree.putFile path b s.files with ⟨e | _, u⟩ <;> rw [hp] at h <;> cases h
  rfl

theorem read_of_write (hr : roots.resolve reference = .ok path) (h : roots.write reference b s = (.ok (), t))
    (hf : t.files.holdsFile path = true) {u : Session σ} (hu : u.files = t.files) :
    roots.read reference u = (.ok b, u) := by
  rw [read_eq hr, hu, FileTree.read_of_putFile (putFile_of_write hr h) hf]
  rfl

end StorageRoots

namespace Wrapper

open ControlLine (Command)

variable {w : Wrapper σ} {roots : StorageRoots} {answer : Answering} {p : Plan} {s t : Session σ}
  {look : FileTree → σ → String → String → Except ResolutionError Operation × σ}

theorem prepare_eq {line : String} {q : ControlLine.Pipeline} {built : List (ToolStage × PendingOutputs)}
    {source : Option (String × Bytes)} {sink : Option (String × String)} (hq : ControlLine.parse line = .ok q)
    (hb : ∀ s', s'.Alike s → ∃ t', q.commands.mapM w.buildStage s' = (.ok built, t') ∧ t'.Alike t)
    (hsource : ∀ t', t'.Alike t → localizing (w.readSource q.stdin) t' = (.ok source, t'))
    (hsink : ∀ t', localizing (w.findSink q.stdout) t' = (.ok sink, t')) :
    ∃ t', w.prepare line s = (.ok ⟨built, source, sink⟩, t') ∧ t'.Alike t := by
  obtain ⟨s', hread, hs'⟩ : ∃ s', readLine line s = (.ok q, s') ∧ s'.Alike s := by
    unfold readLine
    rw [hq]
    exact ⟨_, rfl, rfl, rfl⟩
  obtain ⟨t', hb', ht'⟩ := hb s' hs'
  refine ⟨t', ?_, ht'⟩
  rw [prepare, Action.bind_of_eq_ok hread, Action.bind_of_eq_ok hb', Action.bind_of_eq_ok (hsource t' ht'),
    Action.bind_of_eq_ok (hsink t')]
  rfl

def told : Except Abort ChainOutcome → Except Abort String
  | .error e => .error e
  | .ok o => if o.status ≠ 0 then .error (.error (.execution o.status o.text)) else .ok (Text.decodeLossy o.stdout)

theorem CarriedOut.eq_told {r : Except Abort String × Session σ} (h : CarriedOut w answer p r)
    (hsink : p.sink = none) : r.1 = told (answer.outcome [] p.input (p.built.map (·.1))) := by
  cases h with
  | aborted ho => rw [ho]; rfl
  | failed ho hs => rw [ho, told, if_pos hs]
  | unwritten _ _ h =>
    rw [hsink] at h
    cases h
  | written ho hs _ _ =>
    rw [ho, told, if_neg (by simpa using hs), hsink]
    rfl

theorem CarriedOut.eq_execution {r : Except Abort String × Session σ} (h : CarriedOut w answer p r)
    {o : ChainOutcome} (ho : answer.outcome [] p.input (p.built.map (·.1)) = .ok o) (hs : o.status ≠ 0) :
    r.1 = .error (.error (.execution o.status o.text)) := by
  cases h with
  | aborted ho' => cases ho.symm.trans ho'
  | failed ho' =>
    cases ho.symm.trans ho'
    rfl
  | unwritten ho' hs' =>
    cases ho.symm.trans ho'
    exact absurd hs' hs
  | written ho' hs' =>
    cases ho.symm.trans ho'
    exact absurd hs' hs

/-- The runs end alike. The output of a failing stage may be told together with what others wrote to the error
output. -/
inductive Agree : Except Abort String → Except Abort String → Prop
  | text (text : String) : Agree (.ok text) (.ok text)
  | failed (status : Int) (output output' : String) :
      Agree (.error (.error (.execution status output))) (.error (.error (.execution status output')))
  | aborted (e : Abort) : Agree (.error e) (.error e)

theorem agree_told (before : Bytes) (r : Except Abort ChainOutcome) :
    Agree (told r) (told (r.map fun o => { o with stderr := before ++ o.stderr })) := by
  cases r with
  | error e => exact .aborted e
  | ok o =>
    by_cases ho : o.status = 0
    · simp only [told, Except.map, ho, ne_eq, not_true_eq_false, if_false]
      exact .text _
    · simp only [told, Except.map, ho, ne_eq, not_false_eq_true, if_true]
      exact .failed _ _ _

/-- Lines that write to a file, read from it, and do without it. -/
structure Lines (A B : List Command) (f toFile fromFile direct : String) : Prop where
  toFile : ControlLine.parse toFile = .ok ⟨none, some f, A⟩
  fromFile : ControlLine.parse fromFile = .ok ⟨some f, none, B⟩
  direct : ControlLine.parse direct = .ok ⟨none, none, A ++ B⟩

theorem lines_of_parse {A B : List Command} {f toFile fromFile : String}
    (hA : ControlLine.parse toFile = .ok ⟨none, some f, A⟩) (hB : ControlLine.parse fromFile = .ok ⟨some f, none, B⟩) :
    Lines A B f toFile fromFile (ControlLine.Pipeline.render ⟨none, none, A ++ B⟩) := by
  have ha := ControlLine.expressible_of_parse hA
  have hb := ControlLine.expressible_of_parse hB
  have h : ControlLine.Pipeline.Expressible ⟨none, none, A ++ B⟩ := {
    stdin := fun _ h => by cases h
    stdout := fun _ h => by cases h
    commands_ne := List.append_ne_nil_of_left_ne_nil ha.commands_ne B
    commands := List.forall_mem_append.2 ⟨ha.commands, hb.commands⟩ }
  refine ⟨hA, hB, ?_⟩
  have hdirect := ControlLine.parse_eq_ok_of_written h (ControlLine.written_render h)
  rwa [String.ofList_toList] at hdirect

/-- A wrapper over storage areas with a repository that only looks up, and with executors whose answers are
determined. -/
structure Repeatable (w : Wrapper σ) (roots : StorageRoots)
    (look : FileTree → σ → String → String → Except ResolutionError Operation × σ) (answer : Answering) : Prop where
  storage_eq : w.storage = roots.storage
  looksUp : w.repository.LooksUp look
  determined : w.Determined answer

variable {A B : List Command} {f toFile fromFile direct : String} {as bs : List (ToolStage × PendingOutputs)}

theorem anchor_of_parse {r : Reference} (hf : Reference.parse f = .ok r) (wd : String) :
    ∃ reference, Reference.anchor wd f = .ok reference := by
  unfold Reference.anchor
  rw [hf]
  cases r <;> exact ⟨_, rfl⟩

theorem wrap_toFile (h : Repeatable w roots look answer) (hl : ControlLine.parse toFile = .ok ⟨none, some f, A⟩)
    {reference : String} (hf : Reference.anchor w.workingDir f = .ok reference)
    (hA : A.mapM w.buildStage s = (.ok as, t)) (hp : ∀ b ∈ as, b.1.operation.Plain) :
    CarriedOut w answer ⟨as, none, some (f, reference)⟩ (w.wrap toFile s) := by
  have hb (s' : Session σ) (hs : s'.Alike s) := (mapM_buildStage_alike h.looksUp hA hp hs).2.2
  have hn := (mapM_buildStage_alike h.looksUp hA hp ⟨rfl, rfl⟩).1
  have hsink (t' : Session σ) : localizing (w.findSink (some f)) t' = (.ok (some (f, reference)), t') := by
    rw [findSink, redirection, hf]
    rfl
  obtain ⟨t', hprepare, -⟩ := prepare_eq hl hb (fun _ _ => rfl) hsink
  rw [wrap, Action.bind_of_eq_ok hprepare]
  exact carriedOut_carryOut h.determined hn t'

theorem wrap_direct (h : Repeatable w roots look answer) (hl : ControlLine.parse direct = .ok ⟨none, none, A⟩)
    (hA : A.mapM w.buildStage s = (.ok as, t)) (hp : ∀ b ∈ as, b.1.operation.Plain) :
    (w.wrap direct s).1 = told (answer.outcome [] [] (as.map (·.1))) := by
  have hb (s' : Session σ) (hs : s'.Alike s) := (mapM_buildStage_alike h.looksUp hA hp hs).2.2
  have hn := (mapM_buildStage_alike h.looksUp hA hp ⟨rfl, rfl⟩).1
  obtain ⟨t', hprepare, -⟩ := prepare_eq hl hb (fun _ _ => rfl) fun _ => rfl
  rw [wrap, Action.bind_of_eq_ok hprepare]
  exact (carriedOut_carryOut h.determined hn t').eq_told rfl

theorem wrap_fromFile (h : Repeatable w roots look answer)
    (hl : ControlLine.parse fromFile = .ok ⟨some f, none, B⟩) {reference : String} {data : Bytes}
    (hf : Reference.anchor w.workingDir f = .ok reference)
    (hread : ∀ u : Session σ, u.files = s.files → roots.read reference u = (.ok data, u))
    (hB : B.mapM w.buildStage s = (.ok bs, t)) (hp : ∀ b ∈ bs, b.1.operation.Plain) :
    (w.wrap fromFile s).1 = told (answer.outcome [] data (bs.map (·.1))) := by
  have hb (s' : Session σ) (hs : s'.Alike s) := (mapM_buildStage_alike h.looksUp hB hp hs).2.2
  obtain ⟨hn, hfiles, -⟩ := mapM_buildStage_alike h.looksUp hB hp ⟨rfl, rfl⟩
  have hsource (u : Session σ) (hu : u.Alike t) :
      localizing (w.readSource (some f)) u = (.ok (some (reference, data)), u) := by
    refine Action.mapError_eq_ok.2 ?_
    have hredirect : w.redirection f u = (.ok reference, u) := by
      rw [redirection, hf]
      rfl
    have hdata : w.storage.read reference u = (.ok data, u) := by
      rw [h.storage_eq]
      exact hread u (hu.files_eq.trans hfiles)
    rw [readSource, Action.bind_of_eq_ok hredirect, Action.bind_of_eq_ok hdata]
    rfl
  obtain ⟨t', hprepare, -⟩ := prepare_eq hl hb hsource fun _ => rfl
  rw [wrap, Action.bind_of_eq_ok hprepare]
  exact (carriedOut_carryOut h.determined hn t').eq_told rfl

theorem write_of_sinkStage (hstorage : w.storage = roots.storage) {written reference : String} {data : Bytes}
    {o : StageOutput} (h : (w.sinkStage (some (written, reference))).run data s = (.ok o, t)) :
    roots.write reference data s = (.ok (), t) := by
  obtain ⟨_, _, hw, h⟩ := Action.bind_eq_ok h
  cases h
  rw [Action.mapError_eq_ok, hstorage] at hw
  exact hw

theorem read_of_written (hstorage : w.storage = roots.storage) {written reference text : String}
    {built : List (ToolStage × PendingOutputs)}
    (h : CarriedOut w answer ⟨built, none, some (written, reference)⟩ (.ok text, s))
    (hregular : ∀ path, roots.resolve reference = .ok path → s.files.holdsFile path = true) :
    ∃ o, answer.outcome [] [] (built.map (·.1)) = .ok o ∧ o.status = 0 ∧
      ∀ v : Session σ, v.files = s.files → roots.read reference v = (.ok o.stdout, v) := by
  cases h with
  | @written o _ u _ ho hs hsink hu =>
    have hwrite := write_of_sinkStage hstorage hsink
    obtain ⟨path, hpath⟩ := StorageRoots.resolve_of_write hwrite
    have hholds : u.files.holdsFile path = true := by
      rw [← hu.files_eq]
      exact hregular path hpath
    exact ⟨o, ho, hs, fun v hv => StorageRoots.read_of_write hpath hwrite hholds (hv.trans hu.files_eq)⟩

/-- What two lines with a file between them come to, and the one line without it. -/
structure ThroughFile (w : Wrapper σ) (roots : StorageRoots) (answer : Answering) (B : List Command)
    (f toFile fromFile direct : String) (as bs : List (ToolStage × PendingOutputs)) (s : Session σ) : Prop where
  failed : ∀ o, answer.outcome [] [] (as.map (·.1)) = .ok o → o.status ≠ 0 →
    (w.wrap toFile s).1 = .error (.error (.execution o.status o.text)) ∧
      (w.wrap direct s).1 = .error (.error (.execution o.status o.text))
  /-- The file is written, it is a regular one, and the second line still means what it meant. -/
  passed : ∀ text s₁, w.wrap toFile s = (.ok text, s₁) →
    (∀ path, (Reference.anchor w.workingDir f).bind roots.resolve = .ok path → s₁.files.holdsFile path = true) →
    (B.mapM w.buildStage s₁).1 = .ok bs → Agree (w.wrap fromFile s₁).1 (w.wrap direct s).1
  /-- With a catalog it always does. -/
  catalog : ∀ c : Catalog, w.repository = c.repository → ∀ s₁, (B.mapM w.buildStage s₁).1 = .ok bs

/-- Piping through a file comes to what piping directly does. -/
theorem throughFile (h : Repeatable w roots look answer) (hl : Lines A B f toFile fromFile direct)
    {r : Reference} (hf : Reference.parse f = .ok r) (hA : A.mapM w.buildStage s = (.ok as, t))
    (hB : (B.mapM w.buildStage t).1 = .ok bs) (hp : ∀ b ∈ as ++ bs, b.1.operation.Plain) :
    ThroughFile w roots answer B f toFile fromFile direct as bs s := by
  obtain ⟨hpA, hpB⟩ := List.forall_mem_append.1 hp
  obtain ⟨reference, hanchor⟩ := anchor_of_parse hf w.workingDir
  have hAB : (A ++ B).mapM w.buildStage s = (.ok (as ++ bs), (B.mapM w.buildStage t).2) := by
    rw [List.mapM_append, Action.bind_of_eq_ok hA, Action.bind_of_eq_ok (Prod.ext hB rfl)]
    rfl
  have hdirect := wrap_direct h hl.direct hAB hp
  rw [List.map_append, Answering.outcome_append] at hdirect
  have htoFile := wrap_toFile h hl.toFile hanchor hA hpA
  constructor
  · intro o ho hs
    refine ⟨htoFile.eq_execution ho hs, ?_⟩
    rw [hdirect, ho]
    dsimp only
    rw [if_pos hs, told, if_pos hs]
  · intro text s₁ hw hregular hB'
    rw [hw] at htoFile
    obtain ⟨o, ho, hs, hread⟩ := read_of_written h.storage_eq htoFile fun path hpath =>
      hregular path (by rw [hanchor]; exact hpath)
    rw [wrap_fromFile h hl.fromFile hanchor hread (Prod.ext hB' rfl) hpB, hdirect, ho]
    dsimp only
    rw [if_neg (by simpa using hs)]
    -- The direct run still has the error output of the stages that are in front of the file here.
    have hbefore : answer.outcome o.stderr o.stdout (bs.map (·.1)) =
        (answer.outcome [] o.stdout (bs.map (·.1))).map fun r => { r with stderr := o.stderr ++ r.stderr } := by
      rw [← Answering.outcome_eq_map, List.append_nil]
    rw [hbefore]
    exact agree_told o.stderr _
  · exact fun c hc s₁ => mapM_buildStage_of_catalog hc (Prod.ext hB rfl) hpB s₁

end Wrapper

namespace FileTree

def maker : String := "name: a\noperations: [{name: make, command: make}]\n"

def copier : String := "name: b\noperations: [{name: run, command: copy}]\n"

def counter : String := "name: b\noperations: [{name: run, command: count}]\n"

def withTools : FileTree :=
  ⟨⟨[(["work"], .directory), (["tools"], .directory), (["tools", "a.yaml"], .file (Text.encode maker)),
    (["tools", "b.yaml"], .file (Text.encode copier))]⟩, []⟩

end FileTree

namespace Wrapper

def scripted : Answering := fun _ commandLine _ stdin =>
  if commandLine = "make" then .ok (.success (Text.encode FileTree.counter))
  else if commandLine = "count" then .ok (.success (Text.encode (toString stdin.length)))
  else if stdin.isEmpty then .ok ⟨2, [], Text.encode "no"⟩
  else .ok (.success stdin)

def descriptions : ToolDirectory := ⟨"tools", ToolFile.parse⟩

def onTools : Wrapper Catalog where
  repository := descriptions.repository
  storage := (StorageRoots.single "data").storage
  processExecutor := ⟨"process", fun line dir stdin => ExceptT.mk (pure (scripted .process line dir stdin))⟩
  inProcessExecutor := ⟨"in process", fun line dir stdin => ExceptT.mk (pure (scripted .inProcess line dir stdin))⟩
  workingDir := "work"
  separator := " "

theorem repeatable_onTools : onTools.Repeatable (.single "data")
    (fun files known tool action =>
      ((descriptions.load files known tool).1.bind fun t => Catalog.operationOf t tool action,
        (descriptions.load files known tool).2)) scripted where
  storage_eq := rfl
  looksUp := descriptions.looksUp
  determined runtime := by cases runtime <;> exact fun _ _ _ _ => rfl

def acquainted : Session Catalog :=
  let tool (name action command : String) : Tool := ⟨name, .process, [⟨action, command, none, [], [], []⟩]⟩
  ⟨.withTools, [], ⟨[("a", tool "a" "make" "make"), ("b", tool "b" "run" "copy")]⟩⟩

def fresh : Session Catalog := ⟨.withTools, [], ∅⟩

open ControlLine (Command)

def making : Command := ⟨"a", "make", ∅⟩

def running : Command := ⟨"b", "run", ∅⟩

def called (c : Command) (commandLine : String) : ToolStage × PendingOutputs :=
  (onTools.plainStage c ⟨c.action, commandLine, some .process, [], [], []⟩, noOutputs)

theorem plain_called (c : Command) (commandLine : String) : (called c commandLine).1.operation.Plain := ⟨rfl, rfl⟩

/-- What was made is passed on as it is. A failure is told with or without a file behind it. -/
theorem throughFile_onTools :
    Reference.parse "out.txt" = .ok (.onMachine "out.txt") ∧
      Lines [making] [running] "out.txt" "a make > out.txt" "out.txt > b run" "a make | b run" ∧
      Lines [running] [running] "out.txt" "b run > out.txt" "out.txt > b run" "b run | b run" ∧
      (∃ s₁, onTools.wrap "a make > out.txt" acquainted = (.ok "out.txt", s₁) ∧
        Agree (onTools.wrap "out.txt > b run" s₁).1 (onTools.wrap "a make | b run" acquainted).1) ∧
      (onTools.wrap "b run > out.txt" acquainted).1 = .error (.error (.execution 2 "no")) ∧
      (onTools.wrap "b run | b run" acquainted).1 = .error (.error (.execution 2 "no")) := by
  have hf : Reference.parse "out.txt" = .ok (.onMachine "out.txt") := by decide +kernel
  have hout : (Reference.anchor "work" "out.txt").bind (StorageRoots.single "data").resolve = .ok "work/out.txt" := by
    decide +kernel
  have hmade : Lines [making] [running] "out.txt" "a make > out.txt" "out.txt > b run" "a make | b run" :=
    ⟨by decide +kernel, by decide +kernel, by decide +kernel⟩
  have hcopied : Lines [running] [running] "out.txt" "b run > out.txt" "out.txt > b run" "b run | b run" :=
    ⟨by decide +kernel, by decide +kernel, by decide +kernel⟩
  have hmaking : ([making].mapM onTools.buildStage acquainted).1 = .ok [called making "make"] := by decide +kernel
  have hrunning : ([running].mapM onTools.buildStage ([making].mapM onTools.buildStage acquainted).2).1 =
    .ok [called running "copy"] := by decide +kernel
  have hfirst : ([running].mapM onTools.buildStage acquainted).1 = .ok [called running "copy"] := by decide +kernel
  have hsecond : ([running].mapM onTools.buildStage ([running].mapM onTools.buildStage acquainted).2).1 =
    .ok [called running "copy"] := by decide +kernel
  have hpassed := (throughFile repeatable_onTools hmade hf (Prod.ext hmaking rfl) hrunning
    (by simp [plain_called])).passed
  have hfailed := (throughFile repeatable_onTools hcopied hf (Prod.ext hfirst rfl) hsecond
    (by simp [plain_called])).failed
  have hwrap : (onTools.wrap "a make > out.txt" acquainted).1 = .ok "out.txt" := by decide +kernel
  refine ⟨hf, hmade, hcopied, ⟨_, Prod.ext hwrap rfl, hpassed _ _ (Prod.ext hwrap rfl) ?_ (by decide +kernel)⟩, ?_⟩
  · intro path hpath
    obtain rfl := Except.ok.inj (hpath.symm.trans hout)
    decide +kernel
  · have hno : (⟨2, [], Text.encode "no", some "b:run"⟩ : ChainOutcome).text = "no" := by decide +kernel
    rw [← hno]
    exact hfailed ⟨2, [], Text.encode "no", some "b:run"⟩ (by decide +kernel) (by decide)

/-- A description that is written before its tool is looked up anew takes effect in the second line. -/
theorem throughFile_redescribed :
    onTools.Determined scripted ∧
      Lines [making] [running] "../tools/b.yaml" "a make > ../tools/b.yaml" "../tools/b.yaml > b run" "a make | b run" ∧
      ([running].mapM onTools.buildStage ([making].mapM onTools.buildStage fresh).2).1 =
        .ok [called running "copy"] ∧
      Reference.parse "../tools/b.yaml" = .ok (.onMachine "../tools/b.yaml") ∧
      ∃ s₁, onTools.wrap "a make > ../tools/b.yaml" fresh = (.ok "../tools/b.yaml", s₁) ∧
        (Reference.anchor "work" "../tools/b.yaml").bind (StorageRoots.single "data").resolve =
          .ok "work/../tools/b.yaml" ∧
        s₁.files.holdsFile "work/../tools/b.yaml" = true ∧
        (onTools.wrap "../tools/b.yaml > b run" s₁).1 = .ok "50" ∧
        (onTools.wrap "a make | b run" fresh).1 = .ok FileTree.counter := by
  have hwrap : (onTools.wrap "a make > ../tools/b.yaml" fresh).1 = .ok "../tools/b.yaml" := by decide +kernel
  exact ⟨repeatable_onTools.determined, ⟨by decide +kernel, by decide +kernel, by decide +kernel⟩, by decide +kernel,
    by decide +kernel, _, Prod.ext hwrap rfl, by decide +kernel, by decide +kernel, by decide +kernel,
    by decide +kernel⟩

end Wrapper

end ToolPipeline
