import Mathlib.Data.List.TakeWhile
import ToolPipeline.Proofs.Path
import ToolPipeline.Storage.Reference

set_option autoImplicit false

/-! The texts that are references, and what they refer to. -/

namespace ToolPipeline.Reference

open Text (cut cut_eq_some cut_eq_some_iff cut_eq_none_iff)

structure IsScheme (scheme : String) : Prop where
  ne_empty : scheme ≠ ""
  chars : ∀ c ∈ scheme.toList, isSchemeChar c = true
  ne_machine : scheme ≠ "file"

structure IsConfined (path : String) : Prop where
  ne_empty : path ≠ ""
  relative : Path.isAbsolute path = false
  up_notMem : .up ∉ Path.components path

/-- The texts that stand for a reference. Any number of slashes may precede a remote path. -/
inductive Spells : String → Reference → Prop
  | plain {path : String} (h : ¬ schemeMark <:+: path.toList) (hne : path ≠ "") : Spells path (.onMachine path)
  | machine {path : String} (hne : path ≠ "") : Spells ("file" ++ "://" ++ path) (.onMachine path)
  | remote {scheme path : String} (slashes : Nat) (hs : IsScheme scheme) (hp : IsConfined path) :
    Spells (scheme ++ "://" ++ (String.ofList (List.replicate slashes '/') ++ path)) (.remote scheme path)

theorem cut_schemeMark {s : List Char} (h : ':' ∉ s) (rest : List Char) :
    cut schemeMark (s ++ schemeMark ++ rest) = some (s, rest) := by
  refine cut_eq_some_iff.2 ⟨rfl, fun x y hxy => ?_⟩
  by_contra hl
  have hc : (s ++ schemeMark ++ rest)[x.length]? = some ':' := by
    rw [hxy]
    simp [schemeMark]
  rw [List.append_assoc, List.getElem?_append_left (by omega)] at hc
  exact h (List.mem_of_getElem? hc)

theorem colon_notMem_of_isSchemeChar {s : List Char} (h : ∀ c ∈ s, isSchemeChar c = true) : ':' ∉ s :=
  fun hc => absurd (h _ hc) (by decide)

theorem exists_eq_replicate_append (rest : List Char) :
    ∃ k, rest = List.replicate k '/' ++ rest.dropWhile (· == '/') := by
  refine ⟨(rest.takeWhile (· == '/')).length, ?_⟩
  have h : rest.takeWhile (· == '/') = List.replicate (rest.takeWhile (· == '/')).length '/' :=
    List.eq_replicate_iff.2 ⟨rfl, fun c hc => by simpa using List.mem_takeWhile_imp hc⟩
  rw [← h, List.takeWhile_append_dropWhile]

theorem isAbsolute_dropWhile (rest : List Char) :
    Path.isAbsolute (String.ofList (rest.dropWhile (· == '/'))) = false := by
  rw [Path.isAbsolute_eq, String.toList_ofList]
  cases h : rest.dropWhile (· == '/') with
  | nil => rfl
  | cons c s =>
    have := List.head_dropWhile_not (· == '/') (l := rest) (by simp [h])
    simpa [h] using this

theorem spells_of_parse {text : String} {r : Reference} (h : parse text = .ok r) : Spells text r := by
  unfold parse at h
  cases hc : cut schemeMark text.toList with
  | none =>
    rw [hc] at h
    dsimp only at h
    split at h
    · cases h
    · next hne =>
      cases h
      exact .plain (cut_eq_none_iff.1 hc) (by simpa using hne)
  | some p =>
    obtain ⟨scheme, rest⟩ := p
    have ht : text = String.ofList scheme ++ "://" ++ String.ofList rest := by
      rw [← String.toList_inj, cut_eq_some hc]
      simp [schemeMark]
    rw [hc] at h
    dsimp only at h
    split at h
    · cases h
    · next hs =>
      simp only [Bool.or_eq_true, List.isEmpty_iff, Bool.not_eq_true', not_or, Bool.not_eq_false,
        List.all_eq_true] at hs
      split at h
      · next hm =>
        split at h
        · cases h
        · next hr =>
          cases h
          obtain rfl : scheme = machineScheme := by simpa using hm
          rw [ht]
          exact .machine (by simpa using hr)
      · next hm =>
        split at h
        · cases h
        · next hp =>
          cases h
          simp only [Bool.or_eq_true, List.contains_iff_mem, not_or] at hp
          obtain ⟨k, hk⟩ := exists_eq_replicate_append rest
          rw [hk] at ht
          rw [ht, String.ofList_append]
          refine .remote k ⟨by simpa using hs.1, by simpa using hs.2, fun hf => hm ?_⟩
            ⟨by simpa using hp.1, isAbsolute_dropWhile rest, hp.2⟩
          simpa [machineScheme] using congrArg String.toList hf

theorem dropWhile_of_relative {path : String} (h : Path.isAbsolute path = false) (slashes : Nat) :
    (List.replicate slashes '/' ++ path.toList).dropWhile (· == '/') = path.toList := by
  rw [List.dropWhile_append_of_pos (by simp)]
  rw [Path.isAbsolute_eq] at h
  cases hp : path.toList with
  | nil => rfl
  | cons c s =>
    rw [hp] at h
    exact List.dropWhile_cons_of_neg (by simpa using h)

theorem parse_of_spells {text : String} {r : Reference} (h : Spells text r) : parse text = .ok r := by
  unfold parse
  cases h with
  | plain h hne => rw [cut_eq_none_iff.2 h]; simp [hne]
  | @machine path hne =>
    have hc : cut schemeMark ("file" ++ "://" ++ path).toList = some (machineScheme, path.toList) := by
      simpa [schemeMark, machineScheme] using cut_schemeMark (s := machineScheme) (by decide) path.toList
    rw [hc]
    simp [hne, machineScheme, isSchemeChar]
  | @remote scheme path slashes hs hp =>
    have hc : cut schemeMark (scheme ++ "://" ++ (String.ofList (List.replicate slashes '/') ++ path)).toList =
        some (scheme.toList, List.replicate slashes '/' ++ path.toList) := by
      simpa [schemeMark] using cut_schemeMark (colon_notMem_of_isSchemeChar hs.chars)
        (List.replicate slashes '/' ++ path.toList)
    have hm : scheme.toList ≠ machineScheme := fun hm =>
      hs.ne_machine (String.toList_inj.1 (by simpa [machineScheme] using hm))
    have hv : (scheme.toList.isEmpty || !scheme.toList.all isSchemeChar) = false := by
      simpa [hs.ne_empty] using hs.chars
    rw [hc]
    dsimp only
    rw [hv, dropWhile_of_relative hp.relative, String.ofList_toList, String.ofList_toList]
    simp [hm, hp.ne_empty, hp.up_notMem]

/-- Parsing accepts the texts that stand for a reference, and no others. -/
theorem parse_eq_ok_iff {text : String} {r : Reference} : parse text = .ok r ↔ Spells text r :=
  ⟨spells_of_parse, parse_of_spells⟩

end ToolPipeline.Reference
