import ToolPipeline.Proofs.DataFlow

set_option autoImplicit false

/-!
The order in which a run calls its storage and its executors.
-/

namespace ToolPipeline

open Made

variable {σ : Type}

namespace Wrapper

variable (w : Wrapper σ)

structure Phases (line : String) (s : Session σ) (localizes reads runs writes publishes : List Call) :
    Prop where
  trace_eq : w.trace line s = localizes ++ reads ++ runs ++ writes ++ publishes
  localizes_only : ∀ c ∈ localizes, ∃ reference copy, c.request = .localize reference w.workingDir copy
  reads_one : reads.length ≤ 1 ∧ ∀ c ∈ reads, ∃ reference, c.request = .read reference
  runs_only : ∀ c ∈ runs, c.request.isRun = true
  writes_one : writes.length ≤ 1 ∧ ∀ c ∈ writes, ∃ reference b, c.request = .write reference b
  prepares : w.Preparation line s (w.prepare line s).1 localizes reads
  unprepared : ∀ a, (w.prepare line s).1 = .error a →
    (w.wrap line s).1 = .error a ∧ runs = [] ∧ writes = [] ∧ publishes = []
  publishes_initial : publishes ≠ [] → ∃ plan, (w.prepare line s).1 = .ok plan ∧
    publishes.map Call.request <+: w.publications plan
  publishes_last : publishes ≠ [] → ∀ c ∈ localizes ++ reads ++ runs ++ writes, c.Succeeded
  publishes_all : ∀ text, (w.wrap line s).1 = .ok text → ∃ plan, (w.prepare line s).1 = .ok plan ∧
    publishes.map Call.request = w.publications plan ∧ ∀ c ∈ publishes, c.Succeeded
  publishes_until : ∀ c ∈ publishes, ¬ c.Succeeded →
    publishes.getLast? = some c ∧ ∃ a, (w.wrap line s).1 = .error a ∧ c.EndsWith a
  failed_publishing : ∀ plan a, (w.prepare line s).1 = .ok plan → (w.wrap line s).1 = .error a →
    (∀ c ∈ w.trace line s, c.Succeeded) →
      ∃ d, w.Unpaired plan d ∧ a = .error (.localization (.invalidReference d))

variable {w} {l : List Call}

/-- The end of a run whose line was prepared. Either a call failed before anything was published, or the
answer is that of publishing. -/
def Closes (w : Wrapper σ) (plan : Plan) (r : Except Abort String) (before publishes : List Call) : Prop :=
  (publishes = [] ∧ (∃ a, r = .error a) ∧ ∃ c ∈ before, ¬ c.Succeeded) ∨
    ∃ t data, w.PublishesAll plan t publishes ∧
      r = t.map fun _ => (plan.sink.map (·.1)).getD (Text.decodeLossy data)

section Closes

variable {plan : Plan} {before publishes : List Call}

theorem Closes.initial {r : Except Abort String} (h : w.Closes plan r before publishes)
    (hp : ∀ b ∈ plan.built, b.2.Aligned) : publishes.map Call.request <+: w.publications plan := by
  rcases h with ⟨rfl, -⟩ | ⟨t, _, h, -⟩
  · exact List.nil_prefix
  · exact (asks_publishesAll hp h).initial

theorem Closes.complete {text : String} (h : w.Closes plan (.ok text) before publishes)
    (hp : ∀ b ∈ plan.built, b.2.Aligned) : publishes.map Call.request = w.publications plan := by
  rcases h with ⟨-, ⟨_, h⟩, -⟩ | ⟨t, _, h, ht⟩
  · cases h
  · cases t with
    | error => cases ht
    | ok => exact (asks_publishesAll hp h).complete rfl

theorem Closes.unpaired {a : Abort} (h : w.Closes plan (.error a) before publishes)
    (hs : ∀ c ∈ before ++ publishes, c.Succeeded) :
    ∃ d, w.Unpaired plan d ∧ a = .error (.localization (.invalidReference d)) := by
  rcases h with ⟨-, -, c, hc, hn⟩ | ⟨t, _, h, ht⟩
  · exact absurd (hs c (List.mem_append_left _ hc)) hn
  · cases t with
    | ok => cases ht
    | error =>
      cases ht
      exact unpaired_of_publishesAll h fun c hc => hs c (List.mem_append_right _ hc)

theorem Closes.prepend {r : Except Abort String} (h : w.Closes plan r before publishes) (l : List Call) :
    w.Closes plan r (l ++ before) publishes :=
  h.imp_left fun ⟨hn, hr, c, hc, hs⟩ => ⟨hn, hr, c, List.mem_append_right l hc, hs⟩

end Closes

theorem calls_of_finishes {plan : Plan} {data : Bytes} {r : Except Abort String} (h : w.Finishes plan data r l) :
    ∃ writes publishes, l = writes ++ publishes ∧
      (writes.length ≤ 1 ∧ ∀ c ∈ writes, ∃ reference b, c.request = .write reference b) ∧
      w.Closes plan r writes publishes := by
  cases h with
  | stop hw =>
    obtain ⟨e, f, -, rfl, rfl⟩ := error_of_writesSink hw
    exact ⟨_, [], (List.append_nil _).symm, by simp, .inl ⟨rfl, ⟨_, rfl⟩, _, List.mem_cons_self, id⟩⟩
  | step hw h =>
    obtain ⟨answer, rfl⟩ := calls_of_writesSink hw
    refine ⟨_, _, rfl, ?_, .inr ?_⟩
    · unfold sinkCalls
      cases plan.sink <;> simp
    · cases h with
      | stop hp => exact ⟨_, data, hp, rfl⟩
      | step hp hs => cases hs; exact ⟨_, data, by rw [List.append_nil]; exact hp, rfl⟩

theorem calls_of_carriesOut {plan : Plan} {r : Except Abort String} (h : w.CarriesOut plan r l) :
    ∃ runs writes publishes, l = runs ++ writes ++ publishes ∧ (∀ c ∈ runs, c.request.isRun = true) ∧
      (writes.length ≤ 1 ∧ ∀ c ∈ writes, ∃ reference b, c.request = .write reference b) ∧
      w.Closes plan r (runs ++ writes) publishes := by
  obtain ⟨passed, halt, runs, rest, rfl, hd, he⟩ := runs_of_carriesOut h
  have stopped (hn : halt ≠ .finished) : ∃ c ∈ runs ++ [], ¬ c.Succeeded := by
    by_contra hc
    exact hn (hd.finished_of_succeeded fun c hm => by_contra fun hs => hc ⟨c, List.mem_append_left _ hm, hs⟩)
  cases he with
  | finished h =>
    obtain ⟨writes, publishes, rfl, hw, hc⟩ := calls_of_finishes h
    exact ⟨runs, writes, publishes, (List.append_assoc ..).symm, hd.isRun, hw, hc.prepend runs⟩
  | failed => exact ⟨runs, [], [], by simp, hd.isRun, by simp, .inl ⟨rfl, ⟨_, rfl⟩, stopped nofun⟩⟩
  | aborted => exact ⟨runs, [], [], by simp, hd.isRun, by simp, .inl ⟨rfl, ⟨_, rfl⟩, stopped nofun⟩⟩

theorem phases_of_carriesOut {line : String} {s : Session σ} {plan : Plan} {l m : List Call}
    (ht : w.trace line s = l ++ m) (hplan : (w.prepare line s).1 = .ok plan)
    (hp : w.Prepares line s (w.prepare line s).1 l) (hc : w.CarriesOut plan (w.wrap line s).1 m) :
    ∃ localizes reads runs writes publishes, w.Phases line s localizes reads runs writes publishes := by
  obtain ⟨localizes, reads, rfl, hprep⟩ := preparation_of_prepares hp
  obtain ⟨runs, writes, publishes, rfl, hruns, hwrites, hend⟩ := calls_of_carriesOut hc
  have ha : ∀ b ∈ plan.built, b.2.Aligned := by
    rw [hplan] at hprep
    cases hprep with
    | fulfilled _ hf => exact aligned_of_fulfils hf
  have htrace : w.trace line s = localizes ++ reads ++ runs ++ writes ++ publishes := by simpa using ht
  have ho := w.orderly_wrap line s
  rw [htrace] at ho
  refine ⟨localizes, reads, runs, writes, publishes, htrace, hprep.localizes_only, hprep.reads_one, hruns, hwrites,
    hprep, ?_, ?_, ho.succeeded_before, ?_, fun c => ho.last_of_append, ?_⟩
  · intro a hx
    cases hplan.symm.trans hx
  · exact fun _ => ⟨plan, hplan, hend.initial ha⟩
  · intro text hx
    rw [hx] at ho hend
    exact ⟨plan, hplan, hend.complete ha, fun c hc => ho.succeeded c (List.mem_append_right _ hc)⟩
  · intro q a hq hx hs
    cases hplan.symm.trans hq
    rw [hx] at hend
    exact hend.unpaired fun c hc => hs c (ht ▸ List.mem_append_right _ hc)

theorem phases_of_unprepared {line : String} {s : Session σ} {a : Abort} (ht : w.trace line s = l)
    (hp : w.Prepares line s (w.prepare line s).1 l) (ha : (w.prepare line s).1 = .error a)
    (hw : (w.wrap line s).1 = .error a) :
    ∃ localizes reads runs writes publishes, w.Phases line s localizes reads runs writes publishes := by
  obtain ⟨localizes, reads, rfl, hprep⟩ := preparation_of_prepares hp
  refine ⟨localizes, reads, [], [], [], by simpa using ht, hprep.localizes_only, hprep.reads_one, by simp, by simp,
    hprep, ?_, by simp, by simp, ?_, by simp, ?_⟩
  · intro b hb
    cases ha.symm.trans hb
    exact ⟨hw, rfl, rfl, rfl⟩
  · intro text hx
    cases hw.symm.trans hx
  · intro q _ hq
    cases ha.symm.trans hq

end Wrapper

/-- Every run localizes files, then reads at most one, then runs stages, then writes at most one file, and
publishes the output files in the end. It publishes nothing unless everything before went well, and all of
them when it succeeds. -/
theorem Wrapper.wrap_phases (w : Wrapper σ) (line : String) (s : Session σ) :
    ∃ localizes reads runs writes publishes, w.Phases line s localizes reads runs writes publishes := by
  obtain ⟨l, m, ht, hp, ⟨plan, hplan, hc⟩ | ⟨a, ha, hw, rfl⟩⟩ := w.trace_eq_append line s
  · exact phases_of_carriesOut ht hplan hp hc
  · exact phases_of_unprepared (ht.trans (List.append_nil l)) hp ha hw

def joiningRefused : Wrapper Unit := { joining with
  storage := { joining.storage with
    delocalize := fun _ reference _ => if reference = "y" then throw (.invalidReference "y") else pure () } }

/-- Nothing is published behind the file that was refused, not even by the stage behind. -/
theorem Wrapper.wrap_phases_refused :
    (joiningRefused.wrap joiningLine .supplied).1 = .error (.error (.localization (.invalidReference "y"))) ∧
      (joiningRefused.trace joiningLine .supplied).map Call.request =
        [.localize "a" "work" true, .localize "b" "work" true, .localize "x" "work" false,
          .localize "y" "work" false, .localize "z" "work" false, .read "work/in.txt",
          .run .inProcess "cat local/a local/b" "work" [104, 105], .run .inProcess "cat " "work" [72, 73],
          .delocalize "local/x" "x" "work", .delocalize "local/y" "y" "work"] ∧
      ∃ localizes reads runs writes publishes,
        joiningRefused.Phases joiningLine .supplied localizes reads runs writes publishes :=
  ⟨by decide +kernel, by decide +kernel, joiningRefused.wrap_phases _ _⟩

end ToolPipeline
