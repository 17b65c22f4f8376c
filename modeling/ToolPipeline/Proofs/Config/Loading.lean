import ToolPipeline.Proofs.Config
import ToolPipeline.Proofs.OrderedMap

set_option autoImplicit false

/-! What is known about a configuration as soon as it is read. -/

namespace ToolPipeline

namespace Yaml.Decoder

variable {α β : Type}

def Yields (P : α → Prop) (a : Decoder α) : Prop := ∀ d n x m, a d n = .ok (x, m) → P x

theorem yields_pure {P : α → Prop} {x : α} (h : P x) : Yields P (pure x : Decoder α) := by
  intro d n y m hy
  cases hy
  exact h

theorem Yields.bind {Q : α → Prop} {P : β → Prop} {a : Decoder α} {f : α → Decoder β} (h : Yields Q a)
    (hf : ∀ x, Q x → Yields P (f x)) : Yields P (a >>= f) := by
  intro d n y m hy
  change (a d n >>= fun r => f r.1 d r.2) = _ at hy
  cases ha : a d n with
  | error e =>
    rw [ha] at hy
    cases hy
  | ok r =>
    rw [ha] at hy
    exact hf r.1 (h d n _ _ ha) d _ _ _ hy

theorem yields_bind {P : β → Prop} {a : Decoder α} {f : α → Decoder β} (hf : ∀ x, Yields P (f x)) :
    Yields P (a >>= f) :=
  Yields.bind (Q := fun _ => True) (fun _ _ _ _ _ => trivial) fun x _ => hf x

theorem yields_fieldOr {P : α → Prop} {fields : OrderedMap String Node} {name : String} {default : α}
    {value : Node → Decoder α} (hd : P default) (hv : ∀ n, Yields P (value n)) :
    Yields P (fieldOr fields name default value) := by
  unfold fieldOr
  split
  · exact hv _
  · exact yields_pure hd

theorem yields_textMap (n : Node) : Yields OrderedMap.Distinct (textMap n) :=
  yields_bind fun _ => yields_bind fun l => yields_pure (OrderedMap.distinct_ofList l)

end Yaml.Decoder

namespace Config

open Yaml.Decoder (Yields yields_pure yields_bind yields_fieldOr yields_textMap)

theorem yields_ofNode (n : Yaml.Node) : Yields (fun c => c.roots.Distinct) (ofNode n) := by
  refine yields_bind fun fields => yields_bind fun _ => yields_bind fun _ => ?_
  refine Yields.bind (Q := OrderedMap.Distinct) (yields_fieldOr OrderedMap.distinct_empty fun m => ?_) fun _ h => ?_
  · exact yields_bind fun _ => yields_fieldOr OrderedMap.distinct_empty yields_textMap
  · exact yields_bind fun _ => yields_bind fun _ => yields_pure h

theorem distinct_of_load {files : FileTree} {path : String} {c : Config} (h : load files path = .ok c) :
    c.roots.Distinct := by
  unfold load at h
  cases ht : files.readText path with
  | error reason => rw [ht] at h; cases h
  | ok text =>
    rw [ht] at h
    dsimp only at h
    cases hd : Yaml.Document.ofText text with
    | error reason => rw [hd] at h; cases h
    | ok d =>
      have hdecode : (Yaml.Document.ofText text >>= (Yaml.Document.decode · ofNode)) =
          (ofNode d.root d 0).map Prod.fst := by rw [hd]; rfl
      rw [hdecode] at h
      cases hr : ofNode d.root d 0 with
      | error reason => rw [hr] at h; cases h
      | ok r =>
        rw [hr] at h
        cases h
        exact yields_ofNode d.root d 0 r.1 r.2 hr

theorem exists_parent?_of_load {files : FileTree} {path : String} {c : Config} (h : load files path = .ok c) :
    ∃ base, Path.parent? path = some base := by
  cases hp : Path.parent? path with
  | some base => exact ⟨base, rfl⟩
  | none =>
    obtain ⟨e, he⟩ : ∃ e, files.read path = .error e := FileTree.exists_read_eq_error hp
    unfold load FileTree.readText at h
    rw [he] at h
    cases h

end Config

end ToolPipeline
