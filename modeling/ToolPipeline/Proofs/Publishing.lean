import ToolPipeline.Proofs.Preparing

set_option autoImplicit false

/-!
The calls that publish the output files of a plan.
-/

namespace ToolPipeline

open Made

variable {σ : Type}

/-- The localized values stand under the names of the declared ones, in the same order. -/
structure PendingOutputs.Aligned (p : PendingOutputs) : Prop where
  keys_eq : p.localized.keys = p.declared.keys
  distinct : p.declared.Distinct

namespace Wrapper

variable (w : Wrapper σ)

def valueDeliveries (localized declared : String) : List Request :=
  ((Text.fragments w.separator localized).zip (Text.fragments w.separator declared)).map fun f =>
    .delocalize f.1 f.2 w.workingDir

/-- The requests that publish the output files of a stage, by parameter and then by fragment. -/
def deliveries (p : PendingOutputs) : List Request :=
  (p.localized.toList.zip p.declared.toList).flatMap fun e => w.valueDeliveries e.1.2 e.2.2

def publications (plan : Plan) : List Request := plan.built.flatMap fun b => w.deliveries b.2

def StagePaired (p : PendingOutputs) : Prop :=
  ∀ e ∈ p.localized.toList, ∀ d, p.declared.get? e.1 = some d →
    (Text.fragments w.separator e.2).length = (Text.fragments w.separator d).length

def Paired (plan : Plan) : Prop := ∀ b ∈ plan.built, w.StagePaired b.2

def PublishesAll (plan : Plan) : Made Abort Unit :=
  All (fun b => Renamed StorageError.abort (w.Publishes b.2)) plan.built

variable {w} {p : PendingOutputs} {l : List Call}

theorem flatMap_lookup_eq_zip {α β : Type} {g : α → Option β} {f : β → β → List Request} {xs ys : List (α × β)}
    (hk : xs.map Prod.fst = ys.map Prod.fst) (hg : ∀ e ∈ ys, g e.1 = some e.2) :
    (xs.flatMap fun e => match g e.1 with
      | some d => f e.2 d
      | none => []) = (xs.zip ys).flatMap fun e => f e.1.2 e.2.2 := by
  induction xs generalizing ys with
  | nil => rfl
  | cons x xs ih =>
    cases ys with
    | nil => cases hk
    | cons y ys =>
      rw [List.map_cons, List.map_cons, List.cons.injEq] at hk
      have hx : g x.1 = some y.2 := by rw [hk.1]; exact hg y List.mem_cons_self
      simp only [List.flatMap_cons, List.zip_cons_cons, hx]
      rw [ih hk.2 fun e he => hg e (List.mem_cons_of_mem _ he)]

theorem aligned_of_serves {x : Session σ × ControlLine.Command} {b : ToolStage × PendingOutputs}
    (h : w.Serves x b l) : b.2.Aligned := by
  obtain ⟨p, _, _, -, h⟩ := h
  rw [h.pending_eq]
  exact ⟨h.outputs.keys_eq, h.assigned.partition.distinct .outputFile⟩

theorem aligned_of_fulfils {line : String} {s : Session σ} {p : ControlLine.Pipeline} {plan : Plan}
    {reads : List Call} (h : w.Fulfils line s p plan l reads) : ∀ b ∈ plan.built, b.2.Aligned := by
  intro b hb
  obtain ⟨_, -, _, hs⟩ := h.served.of_mem hb
  exact aligned_of_serves hs

theorem asks_publishesValue {localized declared : String} {r : Except StorageError Unit}
    (h : w.PublishesValue localized declared r l) : Asks (w.valueDeliveries localized declared) r l := by
  unfold PublishesValue at h
  split at h
  · cases h
    exact ⟨List.nil_prefix, nofun⟩
  · rw [valueDeliveries, List.map_eq_flatMap]
    exact h.asks fun _ _ _ _ hf => hf.asks

theorem asks_publishes (hp : p.Aligned) {r : Except StorageError Unit} (h : w.Publishes p r l) :
    Asks (w.deliveries p) r l := by
  rw [deliveries, ← flatMap_lookup_eq_zip hp.keys_eq fun _ => hp.distinct.get?_of_mem]
  refine h.asks fun e _ r l he => ?_
  cases hd : p.declared.get? e.1 with
  | none => rw [hd] at he; exact he.asks
  | some d => rw [hd] at he; exact asks_publishesValue he

theorem asks_publishesAll {plan : Plan} (hp : ∀ b ∈ plan.built, b.2.Aligned) {r : Except Abort Unit}
    (h : w.PublishesAll plan r l) : Asks (w.publications plan) r l :=
  h.asks fun b hb _ _ h => h.asks fun _ _ => asks_publishes (hp b hb)

theorem orderly_publishesValue {localized declared : String} {r : Except StorageError Unit}
    (h : w.PublishesValue localized declared r l) : Orderly StorageError.abort r l := by
  unfold PublishesValue at h
  split at h
  · exact h.orderly
  · exact h.orderly fun _ _ _ hf => hf.orderly rfl

theorem orderly_publishes {r : Except StorageError Unit} (h : w.Publishes p r l) :
    Orderly StorageError.abort r l := by
  refine h.orderly fun e r l he => ?_
  cases hd : p.declared.get? e.1 with
  | none => rw [hd] at he; exact he.orderly
  | some d => rw [hd] at he; exact orderly_publishesValue he

theorem orderly_publishesAll {plan : Plan} {r : Except Abort Unit} (h : w.PublishesAll plan r l) :
    Orderly id r l := h.orderly fun _ _ _ hb => hb.orderly fun _ _ => orderly_publishes

theorem paired_of_publishesValue {localized declared : String} (h : w.PublishesValue localized declared (.ok ()) l) :
    (Text.fragments w.separator localized).length = (Text.fragments w.separator declared).length := by
  unfold PublishesValue at h
  split at h
  · cases h
  · next hn => exact Decidable.not_not.1 hn

theorem stagePaired_of_publishes (h : w.Publishes p (.ok ()) l) : w.StagePaired p := by
  intro e he d hd
  obtain ⟨m, hm⟩ := h.of_ok e he
  rw [hd] at hm
  exact paired_of_publishesValue hm

theorem paired_of_publishesAll {plan : Plan} (h : w.PublishesAll plan (.ok ()) l) : w.Paired plan := by
  intro b hb
  obtain ⟨m, hm⟩ := h.of_ok b hb
  exact stagePaired_of_publishes hm.of_ok

/-- A failure that no call is to blame for is a value whose references do not match. -/
theorem unpaired_of_publishesValue {localized declared : String} {e : StorageError}
    (h : w.PublishesValue localized declared (.error e) l) (hl : ∀ c ∈ l, c.Succeeded) :
    (Text.fragments w.separator localized).length ≠ (Text.fragments w.separator declared).length ∧
      e = .invalidReference declared := by
  unfold PublishesValue at h
  split at h
  · next hn => cases h; exact ⟨hn, rfl⟩
  · obtain ⟨f, -, m, hm, hs⟩ := h.of_error
    cases hm
    cases hl _ (hs.subset List.mem_cons_self)

def Unpaired (w : Wrapper σ) (plan : Plan) (declared : String) : Prop :=
  ∃ b ∈ plan.built, ∃ e ∈ b.2.localized.toList, b.2.declared.get? e.1 = some declared ∧
    (Text.fragments w.separator e.2).length ≠ (Text.fragments w.separator declared).length

theorem unpaired_of_publishesAll {plan : Plan} {a : Abort} (h : w.PublishesAll plan (.error a) l)
    (hl : ∀ c ∈ l, c.Succeeded) :
    ∃ d, w.Unpaired plan d ∧ a = .error (.localization (.invalidReference d)) := by
  obtain ⟨b, hb, m, hm, hs⟩ := h.of_error
  obtain ⟨e, rfl, he⟩ := hm.of_error
  obtain ⟨f, hf, n, hn, ht⟩ := he.of_error
  cases hd : b.2.declared.get? f.1 with
  | none => rw [hd] at hn; cases hn
  | some d =>
    rw [hd] at hn
    obtain ⟨hu, rfl⟩ := unpaired_of_publishesValue hn fun c hc => hl c (hs.subset (ht.subset hc))
    exact ⟨d, ⟨b, hb, f, hf, hd, hu⟩, rfl⟩

end Wrapper

end ToolPipeline
