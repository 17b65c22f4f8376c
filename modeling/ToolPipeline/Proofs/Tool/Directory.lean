import Mathlib.Data.List.Induction
import ToolPipeline.Proofs.OrderedMap
import ToolPipeline.Proofs.Recording
import ToolPipeline.Tool.Directory

set_option autoImplicit false

/-!
Tools kept in a directory, while files change and operations are looked up.

What the repository answers is decided by the history alone: a tool stays as the first lookup found it that
could read it, and is read again for every lookup before that.
-/

namespace ToolPipeline

/-- The first operation of the name answers. It runs as it says itself, or else as the tool says. -/
inductive Tool.Answers (t : Tool) (tool action : String) : Except ResolutionError Operation → Prop
  | found {front back : List Operation} {o : Operation} : t.operations = front ++ o :: back → o.name = action →
      (∀ x ∈ front, x.name ≠ action) →
        t.Answers tool action (.ok { o with runtime := some (o.runtime.getD t.runtime) })
  | missing : (∀ x ∈ t.operations, x.name ≠ action) → t.Answers tool action (.error (.operationNotFound tool action))

theorem Catalog.answers_operationOf (t : Tool) (tool action : String) :
    t.Answers tool action (operationOf t tool action) := by
  unfold operationOf Tool.operation?
  cases hf : t.operations.find? fun o => o.name == action with
  | none =>
    refine .missing fun x hx => ?_
    simpa using List.find?_eq_none.1 hf x hx
  | some o =>
    obtain ⟨hn, front, back, ho, hfront⟩ := List.find?_eq_some_iff_append.1 hf
    exact .found ho (by simpa using hn) fun x hx => by simpa using hfront x hx

theorem Catalog.get?_foldl_add {specs : List Tool} {t : Tool} (ht : t ∈ specs)
    (hu : ∀ u ∈ specs, u.name = t.name → u = t) : (specs.foldl add ∅).get? t.name = some t := by
  have hl : specs.foldl add ∅ = OrderedMap.ofList (specs.map fun u => (u.name, u)) := by
    rw [OrderedMap.ofList, List.foldl_map]
    rfl
  rw [hl, OrderedMap.get?_ofList, ← List.map_reverse]
  have hr : t ∈ specs.reverse := List.mem_reverse.2 ht
  replace hu : ∀ u ∈ specs.reverse, u.name = t.name → u = t := fun u h => hu u (List.mem_reverse.1 h)
  generalize specs.reverse = l at hr hu
  induction l with
  | nil => cases hr
  | cons u l ih =>
    rw [List.map_cons, List.lookup_cons]
    by_cases hn : u.name = t.name
    · rw [hu u List.mem_cons_self hn, beq_self_eq_true]
    · have hb : (t.name == u.name) = false := by simpa using Ne.symm hn
      obtain rfl | hr := List.mem_cons.1 hr
      · exact absurd rfl hn
      · rw [hb]
        exact ih hr fun v hv => hu v (List.mem_cons_of_mem _ hv)

namespace ToolDirectory

variable {d : ToolDirectory} {files : FileTree} {events : List Event} {tool action : String} {t : Tool}
  {s : Session Catalog} {e : ResolutionError}

theorem isPlainName_eq_false_iff : isPlainName tool = false ↔
    tool = "" ∨ tool = "." ∨ tool = ".." ∨ '/' ∈ tool.toList ∨ '\\' ∈ tool.toList := by
  by_cases h₁ : '/' ∈ tool.toList <;> by_cases h₂ : '\\' ∈ tool.toList <;>
    by_cases h₃ : tool = "" <;> by_cases h₄ : tool = "." <;> by_cases h₅ : tool = ".." <;>
    simp [isPlainName, String.isEmpty_iff, h₁, h₂, h₃, h₄, h₅]

/-- The name is one of a file, and leads nowhere else. -/
def Plain (tool : String) : Prop :=
  tool ≠ "" ∧ tool ≠ "." ∧ tool ≠ ".." ∧ '/' ∉ tool.toList ∧ '\\' ∉ tool.toList

theorem isPlainName_eq_true_iff : isPlainName tool = true ↔ Plain tool := by
  rw [← Bool.not_eq_false, isPlainName_eq_false_iff]
  simp only [Plain, not_or, ne_eq]

/-- The directory has a file of its own for the tool, which describes a tool of that very name. -/
structure Describes (d : ToolDirectory) (files : FileTree) (tool : String) (t : Tool) : Prop where
  plain : Plain tool
  stored : files.holdsFile (Path.join d.root (tool ++ ".yaml")) = true
  parsed : ∃ text, files.readText (Path.join d.root (tool ++ ".yaml")) = .ok text ∧ d.parse text = .ok t
  named : t.name = tool

/-- Without such a file the tool is not found. Any other file is reported with what is wrong with it. -/
inductive Refuses (d : ToolDirectory) (files : FileTree) (tool : String) : ResolutionError → Prop
  | missing : (Plain tool → files.holdsFile (Path.join d.root (tool ++ ".yaml")) = false) →
      Refuses d files tool (.toolNotFound tool)
  | unreadable {path reason : String} : Plain tool → path = Path.join d.root (tool ++ ".yaml") →
      files.holdsFile path = true → files.readText path = .error reason →
        Refuses d files tool (.invalidTool path (.unusable reason))
  | unparsed {path text reason : String} : Plain tool → path = Path.join d.root (tool ++ ".yaml") →
      files.holdsFile path = true → files.readText path = .ok text → d.parse text = .error reason →
        Refuses d files tool (.invalidTool path (.unusable reason))
  | misnamed {path text : String} {t : Tool} : Plain tool → path = Path.join d.root (tool ++ ".yaml") →
      files.holdsFile path = true → files.readText path = .ok text → d.parse text = .ok t → t.name ≠ tool →
        Refuses d files tool (.invalidTool path (.misnamed t.name tool))

theorem readTool_eq_ok_iff : d.readTool files tool = .ok t ↔ d.Describes files tool t := by
  constructor
  · intro h
    unfold readTool at h
    split at h
    · cases h
    · next hp =>
      simp only [Bool.or_eq_true, Bool.not_eq_true', not_or, Bool.not_eq_false] at hp
      cases hr : files.readText (d.path tool) with
      | error reason => simp [hr, Except.bind] at h
      | ok text =>
        cases ht : d.parse text with
        | error reason => simp [hr, Except.bind, ht] at h
        | ok u =>
          simp only [hr, Except.bind, ht] at h
          split at h
          · next hn =>
            cases h
            exact ⟨isPlainName_eq_true_iff.1 hp.1, hp.2, ⟨text, hr, ht⟩, hn⟩
          · cases h
  · rintro ⟨hp, hs, ⟨text, hr, ht⟩, hn⟩
    have hs : files.holdsFile (d.path tool) = true := hs
    have hr : files.readText (d.path tool) = .ok text := hr
    simp [readTool, isPlainName_eq_true_iff.2 hp, hs, hr, Except.bind, ht, hn]

theorem refuses_of_readTool (h : d.readTool files tool = .error e) : d.Refuses files tool e := by
  unfold readTool at h
  split at h
  · next hm =>
    cases h
    refine .missing fun hp => (?_ : files.holdsFile (d.path tool) = false)
    simpa [isPlainName_eq_true_iff.2 hp] using hm
  · next hm =>
    simp only [Bool.or_eq_true, Bool.not_eq_true', not_or, Bool.not_eq_false] at hm
    have hp : Plain tool := isPlainName_eq_true_iff.1 hm.1
    cases hr : files.readText (d.path tool) with
    | error reason =>
      simp only [hr, Except.bind] at h
      cases h
      exact .unreadable hp rfl hm.2 hr
    | ok text =>
      cases ht : d.parse text with
      | error reason =>
        simp only [hr, Except.bind, ht] at h
        cases h
        exact .unparsed hp rfl hm.2 hr ht
      | ok t =>
        simp only [hr, Except.bind, ht] at h
        split at h
        · cases h
        · next hn =>
          cases h
          exact .misnamed hp rfl hm.2 hr ht hn

theorem readTool_of_not_plain (h : isPlainName tool = false) : d.readTool files tool = .error (.toolNotFound tool) := by
  rw [readTool, h]
  rfl

theorem resolve_apply (d : ToolDirectory) (tool action : String) (s : Session Catalog) :
    d.repository.resolve tool action s =
      ((d.load s.files s.state tool).1.bind fun t => Catalog.operationOf t tool action,
        { s with state := (d.load s.files s.state tool).2 }) := rfl

inductive Happening where
  | change (files : FileTree)
  | resolve (tool action : String)

def happen (d : ToolDirectory) (s : Session Catalog) : Happening → Session Catalog
  | .change files => { s with files }
  | .resolve tool action => (d.repository.resolve tool action s).2

def after (d : ToolDirectory) (files : FileTree) (events : List Event) (h : List Happening) : Session Catalog :=
  h.foldl d.happen ⟨files, events, ∅⟩

def filesAfter (files : FileTree) : List Happening → FileTree
  | [] => files
  | .change files :: h => filesAfter files h
  | .resolve .. :: h => filesAfter files h

/-- The tool as the first lookup reads it that can. -/
def firstRead (d : ToolDirectory) (tool : String) : FileTree → List Happening → Option Tool
  | _, [] => none
  | _, .change files :: h => d.firstRead tool files h
  | files, .resolve name _ :: h =>
    (if name = tool then (d.readTool files tool).toOption else none).or (d.firstRead tool files h)

theorem firstRead_append (d : ToolDirectory) (tool : String) (files : FileTree) (h h' : List Happening) :
    d.firstRead tool files (h ++ h') =
      (d.firstRead tool files h).or (d.firstRead tool (filesAfter files h) h') := by
  induction h generalizing files with
  | nil => rfl
  | cons x h ih =>
    cases x with
    | change => exact ih _
    | resolve => simp only [List.cons_append, firstRead, ih, filesAfter, Option.or_assoc]

theorem firstRead_singleton {x : Happening} (h : d.firstRead tool files [x] = some t) :
    ∃ action, x = .resolve tool action ∧ d.readTool files tool = .ok t := by
  cases x with
  | change => cases h
  | resolve name action =>
    by_cases hn : name = tool
    · subst hn
      cases hr : d.readTool files name with
      | error e => simp [firstRead, hr, Except.toOption] at h
      | ok u =>
        simp only [firstRead, hr, Except.toOption, if_true, Option.or_none, Option.some.injEq] at h
        exact ⟨action, rfl, congrArg _ h⟩
    · simp [firstRead, hn] at h

theorem firstRead_eq_some_iff {h : List Happening} : d.firstRead tool files h = some t ↔
    ∃ before action later, h = before ++ .resolve tool action :: later ∧ d.firstRead tool files before = none ∧
      d.readTool (filesAfter files before) tool = .ok t := by
  constructor
  · intro hf
    -- From the end: the last happening is the first to read the tool unless an earlier one was.
    induction h using List.reverseRecOn with
    | nil => cases hf
    | append_singleton h x ih =>
      rw [firstRead_append] at hf
      cases hh : d.firstRead tool files h with
      | some u =>
        rw [hh, Option.some_or] at hf
        obtain ⟨before, action, later, rfl, hb, hr⟩ := ih (hh.trans hf)
        exact ⟨before, action, later ++ [x], by simp, hb, hr⟩
      | none =>
        rw [hh, Option.none_or] at hf
        obtain ⟨action, rfl, hr⟩ := firstRead_singleton hf
        exact ⟨h, action, [], rfl, hh, hr⟩
  · rintro ⟨before, action, later, rfl, hb, hr⟩
    simp [firstRead_append, hb, firstRead, hr, Except.toOption]

theorem firstRead_eq_none_iff {h : List Happening} : d.firstRead tool files h = none ↔
    ∀ before action later, h = before ++ .resolve tool action :: later →
      ∀ t, d.readTool (filesAfter files before) tool ≠ .ok t := by
  constructor
  · rintro hf before action later rfl t hr
    simp [firstRead_append, firstRead, hr, Except.toOption] at hf
  · intro h'
    refine Option.eq_none_iff_forall_ne_some.2 fun t hf => ?_
    obtain ⟨before, action, later, he, -, hr⟩ := firstRead_eq_some_iff.1 hf
    exact h' before action later he t hr

theorem get?_load (d : ToolDirectory) (files : FileTree) (known : Catalog) (name tool : String) :
    (d.load files known name).2.get? tool =
      (known.get? tool).or (if name = tool then (d.readTool files tool).toOption else none) := by
  unfold load
  by_cases hn : name = tool
  · subst hn
    cases hk : known.get? name with
    | some t => simp [hk]
    | none =>
      cases hr : d.readTool files name <;> simp [hk, Except.toOption]
  · cases hk : known.get? name with
    | some t => simp [hn]
    | none => cases hr : d.readTool files name <;> simp [hn]

theorem foldl_happen (d : ToolDirectory) (h : List Happening) (s : Session Catalog) :
    (h.foldl d.happen s).files = filesAfter s.files h ∧ (h.foldl d.happen s).events = s.events ∧
      ∀ tool, (h.foldl d.happen s).state.get? tool = (s.state.get? tool).or (d.firstRead tool s.files h) := by
  induction h generalizing s with
  | nil => exact ⟨rfl, rfl, fun tool => (Option.or_none).symm⟩
  | cons x h ih =>
    obtain ⟨hfiles, hevents, hget⟩ := ih (d.happen s x)
    cases x with
    | change files => exact ⟨hfiles, hevents, hget⟩
    | resolve name action =>
      refine ⟨hfiles, hevents, fun tool => (hget tool).trans ?_⟩
      rw [happen, resolve_apply, get?_load, Option.or_assoc]
      rfl

theorem get?_after (d : ToolDirectory) (files : FileTree) (events : List Event) (h : List Happening) (tool : String) :
    (d.after files events h).state.get? tool = d.firstRead tool files h := by
  rw [after, (foldl_happen d h _).2.2 tool]
  exact Option.none_or

theorem distinct_foldl_happen (d : ToolDirectory) (h : List Happening) (s : Session Catalog) (hs : s.state.Distinct) :
    (h.foldl d.happen s).state.Distinct := by
  induction h generalizing s with
  | nil => exact hs
  | cons x h ih =>
    refine ih _ ?_
    cases x with
    | change files => exact hs
    | resolve tool action =>
      rw [happen, resolve_apply, load]
      split
      · exact hs
      · split
        · exact hs.insert _ _
        · exact hs

theorem mem_state_iff {h : List Happening} :
    (tool, t) ∈ (d.after files events h).state.toList ↔ d.firstRead tool files h = some t := by
  have hd : (d.after files events h).state.Distinct := distinct_foldl_happen d h _ OrderedMap.distinct_empty
  rw [← get?_after d files events]
  exact ⟨hd.get?_of_mem, OrderedMap.mem_of_get?⟩

theorem name_of_firstRead {h : List Happening} (hf : d.firstRead tool files h = some t) : t.name = tool := by
  obtain ⟨before, action, later, -, -, hr⟩ := firstRead_eq_some_iff.1 hf
  exact (readTool_eq_ok_iff.1 hr).named

theorem resolve_of_get? (h : s.state.get? tool = some t) (action : String) :
    d.repository.resolve tool action s = (Catalog.operationOf t tool action, s) := by
  simp only [resolve_apply, load, h]
  rfl

theorem resolve_of_unread (h : s.state.get? tool = none) (action : String) :
    d.repository.resolve tool action s =
      match d.readTool s.files tool with
      | .ok t => (Catalog.operationOf t tool action, { s with state := s.state.insert tool t })
      | .error e => (.error e, s) := by
  simp only [resolve_apply, load, h]
  cases d.readTool s.files tool <;> rfl

def Happening.concerns (tool : String) : Happening → Bool
  | .change _ => true
  | .resolve name _ => name == tool

theorem filesAfter_filter (tool : String) (files : FileTree) (h : List Happening) :
    filesAfter files (h.filter (Happening.concerns tool)) = filesAfter files h := by
  induction h generalizing files with
  | nil => rfl
  | cons x h ih =>
    cases x with
    | change files => exact ih files
    | resolve name action =>
      rw [List.filter_cons, Happening.concerns]
      split <;> exact ih files

theorem firstRead_filter (d : ToolDirectory) (tool : String) (files : FileTree) (h : List Happening) :
    d.firstRead tool files (h.filter (Happening.concerns tool)) = d.firstRead tool files h := by
  induction h generalizing files with
  | nil => rfl
  | cons x h ih =>
    cases x with
    | change files => exact ih files
    | resolve name action =>
      by_cases hn : name = tool
      · simp [Happening.concerns, firstRead, hn, ih]
      · simp [Happening.concerns, firstRead, hn, ih]

def answer (d : ToolDirectory) (files : FileTree) (events : List Event) (h : List Happening) (tool action : String) :
    Except ResolutionError Operation :=
  (d.repository.resolve tool action (d.after files events h)).1

/-- How a repository goes through a history of changes and lookups. -/
structure Remembers (d : ToolDirectory) (files : FileTree) (events : List Event) (h : List Happening) : Prop where
  /-- A tool is loaded by the first lookup of it that finds it described. -/
  loaded_iff : ∀ tool t, d.firstRead tool files h = some t ↔ ∃ before action later,
    h = before ++ .resolve tool action :: later ∧ d.Describes (filesAfter files before) tool t ∧
      ∀ front action' back, before = front ++ .resolve tool action' :: back →
        ∀ u, ¬ d.Describes (filesAfter files front) tool u
  loaded : ∀ tool t, d.firstRead tool files h = some t → ∀ later action,
    d.answer files events (h ++ later) tool action = Catalog.operationOf t tool action
  /-- Before that a lookup goes by the file as it is. -/
  described : ∀ tool t, d.firstRead tool files h = none → d.Describes (filesAfter files h) tool t →
    ∀ action, d.answer files events h tool action = Catalog.operationOf t tool action
  refused : ∀ tool, d.firstRead tool files h = none → (∀ t, ¬ d.Describes (filesAfter files h) tool t) →
    ∃ e, d.Refuses (filesAfter files h) tool e ∧ ∀ action,
      d.repository.resolve tool action (d.after files events h) = (.error e, d.after files events h)
  separate : ∀ tool action,
    d.answer files events h tool action = d.answer files events (h.filter (Happening.concerns tool)) tool action
  named : ∀ e ∈ (d.after files events h).state.toList, e.2.name = e.1
  unplain : ∀ tool, tool = "" ∨ tool = "." ∨ tool = ".." ∨ '/' ∈ tool.toList ∨ '\\' ∈ tool.toList →
    ∀ action, d.answer files events h tool action = .error (.toolNotFound tool)
  held : ∀ t, t ∈ (d.after files events h).state.values ↔ d.firstRead t.name files h = some t
  catalog : ∀ specs : List Tool, (∀ t, t ∈ specs ↔ d.firstRead t.name files h = some t) →
    ∀ tool t, d.firstRead tool files h = some t → ∀ action,
      d.answer files events h tool action = (specs.foldl Catalog.add ∅).resolve tool action ∧
        t.Answers tool action (d.answer files events h tool action)
  files_eq : (d.after files events h).files = filesAfter files h
  events_eq : (d.after files events h).events = events

theorem answer_of_firstRead {h : List Happening} (hf : d.firstRead tool files h = some t) :
    d.answer files events h tool action = Catalog.operationOf t tool action := by
  rw [answer, resolve_of_get? ((get?_after d files events h tool).trans hf)]

theorem files_after (d : ToolDirectory) (files : FileTree) (events : List Event) (h : List Happening) :
    (d.after files events h).files = filesAfter files h := (foldl_happen d h _).1

theorem answer_of_unread {h : List Happening} (hf : d.firstRead tool files h = none) :
    d.answer files events h tool action =
      (d.readTool (filesAfter files h) tool).bind fun t => Catalog.operationOf t tool action := by
  rw [answer, resolve_of_unread ((get?_after d files events h tool).trans hf), files_after]
  cases d.readTool (filesAfter files h) tool <;> rfl

theorem remembers (d : ToolDirectory) (files : FileTree) (events : List Event) (h : List Happening) :
    d.Remembers files events h where
  loaded_iff tool t := by
    simp only [firstRead_eq_some_iff, firstRead_eq_none_iff, ne_eq, readTool_eq_ok_iff]
    exact exists₃_congr fun before action later => and_congr_right fun _ => and_comm
  loaded tool t hf later action := by
    refine answer_of_firstRead ?_
    rw [firstRead_append, hf, Option.some_or]
  described tool t hf ht action := by
    rw [answer_of_unread hf, readTool_eq_ok_iff.2 ht]
    rfl
  refused tool hf hu := by
    cases hr : d.readTool (filesAfter files h) tool with
    | ok t => exact absurd (readTool_eq_ok_iff.1 hr) (hu t)
    | error e =>
      refine ⟨e, refuses_of_readTool hr, fun action => ?_⟩
      rw [resolve_of_unread ((get?_after d files events h tool).trans hf), files_after, hr]
  separate tool action := by
    cases hf : d.firstRead tool files h with
    | some t => rw [answer_of_firstRead hf, answer_of_firstRead ((firstRead_filter ..).trans hf)]
    | none => rw [answer_of_unread hf, answer_of_unread ((firstRead_filter ..).trans hf), filesAfter_filter]
  named e he := name_of_firstRead (mem_state_iff.1 he)
  unplain tool hp action := by
    replace hp := isPlainName_eq_false_iff.2 hp
    have hf : d.firstRead tool files h = none :=
      firstRead_eq_none_iff.2 fun _ _ _ _ t => by simp [readTool_of_not_plain hp]
    rw [answer_of_unread hf, readTool_of_not_plain hp]
    rfl
  held t := by
    have hread : (t.name, t) ∈ (d.after files events h).state.toList ↔ _ := mem_state_iff
    rw [OrderedMap.values, List.mem_map, ← hread]
    constructor
    · rintro ⟨⟨name, u⟩, hm, rfl⟩
      rwa [name_of_firstRead (mem_state_iff.1 hm)]
    · exact fun hm => ⟨_, hm, rfl⟩
  catalog specs hs tool t hf action := by
    obtain rfl := name_of_firstRead hf
    have hu : ∀ u ∈ specs, u.name = t.name → u = t := fun u hu hn =>
      Option.some.inj (((hs u).1 hu).symm.trans (hn ▸ hf))
    rw [answer_of_firstRead hf, Catalog.resolve, Catalog.get?_foldl_add ((hs t).2 hf) hu]
    exact ⟨rfl, Catalog.answers_operationOf t _ action⟩
  files_eq := files_after d files events h
  events_eq := (foldl_happen d h _).2.1

def shelved : Tool := ⟨"cat", .inProcess, [⟨"run", "cat", none, [], [], []⟩]⟩

def shelf : ToolDirectory := ⟨"tools", fun text => if text = "cat" then .ok shelved else .error "no tool"⟩

def holding (text : String) : FileTree :=
  ⟨⟨[(["tools"], .directory), (["tools", "cat.yaml"], .file (Text.encode text))]⟩, []⟩

/-- The file of the tool is mended behind a first lookup, and broken again behind a second one. -/
def mending : List Happening :=
  [.resolve "cat" "run", .change (holding "cat"), .resolve "cat" "run", .change (holding "")]

theorem remembers_mending :
    shelf.answer (holding "") [] [] "cat" "run" = .error (.invalidTool "tools/cat.yaml" (.unusable "no tool")) ∧
      shelf.Describes (filesAfter (holding "") (mending.take 2)) "cat" shelved ∧
      shelf.answer (holding "") [] (mending.take 2) "cat" "run" = .ok ⟨"run", "cat", some .inProcess, [], [], []⟩ ∧
      (∀ t, ¬ shelf.Describes (filesAfter (holding "") mending) "cat" t) ∧
      shelf.answer (holding "") [] (mending ++ []) "cat" "run" = .ok ⟨"run", "cat", some .inProcess, [], [], []⟩ ∧
      shelf.answer (holding "") [] mending "../tools/cat" "run" = .error (.toolNotFound "../tools/cat") := by
  have hd : shelf.Describes (holding "cat") "cat" shelved := readTool_eq_ok_iff.1 (by decide +kernel)
  have hbroken : shelf.readTool (holding "") "cat" = .error (.invalidTool "tools/cat.yaml" (.unusable "no tool")) := by
    decide +kernel
  have hnone : shelf.firstRead "cat" (holding "") (mending.take 2) = none := by decide +kernel
  have hsome : shelf.firstRead "cat" (holding "") mending = some shelved := by decide +kernel
  refine ⟨by decide +kernel, hd, ?_, fun t ht => ?_, ?_, ?_⟩
  · exact (remembers shelf _ [] (mending.take 2)).described "cat" shelved hnone hd "run"
  · cases hbroken.symm.trans (readTool_eq_ok_iff.2 ht)
  · exact (remembers shelf _ [] mending).loaded "cat" shelved hsome [] "run"
  · exact (remembers shelf _ [] mending).unplain "../tools/cat" (by decide) "run"

end ToolDirectory

end ToolPipeline
