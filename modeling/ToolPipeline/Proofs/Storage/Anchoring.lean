import Mathlib.Data.List.Infix
import ToolPipeline.InProcess.Ambient
import ToolPipeline.Proofs.Storage.Directories

set_option autoImplicit false

/-!
Redirects lie in the working directory, as file parameters do. A parameter is taken apart once. The path of
a redirect becomes a text again, which is taken apart a second time, and a path that has a scheme mark in it
does not survive that.
-/

namespace ToolPipeline

open Reference (schemeMark parse anchor Spells parse_eq_ok_iff)

variable {σ : Type} {roots : StorageRoots} {wd reference p : String} {a b : List Char}

theorem schemeMark_infix_append_iff (hb : b.head? ≠ some '/') :
    schemeMark <:+: a ++ b ↔ schemeMark <:+: a ∨ schemeMark <:+: b := by
  rw [List.infix_append_iff]
  constructor
  · rintro (h | h | ⟨x, y, he, hx, hy⟩)
    · exact .inl h
    · exact .inr h
    -- A mark across the border would put a slash in front of the second text.
    · obtain ⟨rest, rfl⟩ := hy
      cases x with
      | nil =>
        rw [List.nil_append] at he
        exact .inr ⟨[], rest, by rw [he, List.nil_append]⟩
      | cons c x =>
        cases y with
        | nil =>
          rw [List.append_nil] at he
          exact .inl (he ▸ hx.isInfix)
        | cons d y =>
          simp only [schemeMark, List.cons_append, List.cons.injEq] at he
          have hd : d ∈ ['/', '/'] := by
            rw [he.2]
            simp
          obtain rfl : d = '/' := by simpa using hd
          exact absurd rfl hb
  · rintro (h | h)
    · exact .inl h
    · exact .inr (.inl h)

theorem schemeMark_infix_concat_iff (ha : a.getLast? ≠ some '/') :
    schemeMark <:+: a ++ ['/'] ↔ schemeMark <:+: a := by
  rw [List.infix_concat_iff, List.suffix_concat_iff]
  refine ⟨?_, .inr⟩
  rintro ((h | ⟨t, ht, s, rfl⟩) | h)
  · cases h
  · obtain rfl : t = [':', '/'] := List.append_cancel_right (ht.symm.trans (rfl : schemeMark = [':', '/'] ++ ['/']))
    simp at ha
  · exact h

theorem schemeMark_infix_join_iff : schemeMark <:+: (Path.join wd p).toList ↔
    schemeMark <:+: p.toList ∨ Path.isAbsolute p = false ∧ schemeMark <:+: wd.toList := by
  unfold Path.join
  cases ha : Path.isAbsolute p with
  | true => simp
  | false =>
    rw [Path.isAbsolute_eq] at ha
    have hhead : p.toList.head? ≠ some '/' := by simpa using ha
    by_cases hw : wd = ""
    · have hnil : ¬ schemeMark <:+: ([] : List Char) := by decide
      simp [hw, hnil]
    · rw [if_neg (by simpa using hw)]
      by_cases hl : wd.toList.getLast? = some '/'
      · rw [if_pos (by simpa using hl), String.toList_append, schemeMark_infix_append_iff hhead]
        simp [or_comm]
      · have hslash : "/".toList = ['/'] := rfl
        rw [if_neg (by simpa using hl), String.toList_append, String.toList_append, hslash,
          schemeMark_infix_append_iff hhead, schemeMark_infix_concat_iff hl]
        simp [or_comm]

namespace StorageRoots

/-- A text leads to the path that it spells, unless a scheme is found in it. Then the root of the scheme has
to make up for it. -/
theorem resolve_self_iff (hne : p ≠ "") : roots.resolve p = .ok p ↔ ¬ schemeMark <:+: p.toList ∨
    ∃ scheme path root, parse p = .ok (.remote scheme path) ∧ roots.get? scheme = some root ∧
      Path.join root path = p := by
  constructor
  · intro h
    cases hp : parse p with
    | error e => simp [resolve, hp] at h
    | ok r =>
      have hs := parse_eq_ok_iff.1 hp
      generalize ht : p = text at hs
      cases hs with
      | plain hm => exact .inl (ht ▸ hm)
      | @machine path =>
        rw [resolve_onMachine hp] at h
        have hl := congrArg String.length (ht.symm.trans (Except.ok.inj h).symm)
        simp only [String.length_append] at hl
        have hf : "file".length = 4 := rfl
        omega
      | @remote scheme path k =>
        cases hr : roots.get? scheme with
        | none => simp [resolve, hp, hr] at h
        | some root =>
          rw [resolve_remote hp hr] at h
          exact .inr ⟨scheme, path, root, rfl, hr, (Except.ok.inj h).trans ht⟩
  · rintro (hm | ⟨scheme, path, root, hp, hr, hj⟩)
    · exact resolve_onMachine (parse_eq_ok_iff.2 (.plain hm hne))
    · rw [resolve_remote hp hr, hj]

/-- The path on this machine that a reference stands for, where it is the text of a redirect and where it is
the value of a file parameter. -/
structure Anchored (σ : Type) (roots : StorageRoots) (wd reference p : String) : Prop where
  anchor_eq : anchor wd reference = .ok (Path.join wd p)
  join_of_absolute : Path.isAbsolute p = true → Path.join wd p = p
  /-- The redirect leads there unless a scheme is found in the text. -/
  resolve_iff : (anchor wd reference).bind roots.resolve = .ok (Path.join wd p) ↔
    ¬ schemeMark <:+: p.toList ∧ (Path.isAbsolute p = true ∨ ¬ schemeMark <:+: wd.toList) ∨
      ∃ scheme path root, parse (Path.join wd p) = .ok (.remote scheme path) ∧ roots.get? scheme = some root ∧
        Path.join root path = Path.join wd p
  localize_eq : ∀ (copy : Bool) (s : Session σ), roots.localize reference wd copy s =
    if copy && !s.files.holds (Path.join wd p) then (.error (.notFound reference), s) else (.ok p, s)
  opened : ∀ (stdin : Bytes) (a : Ambient), (a.install stdin wd).resolve p = Path.join wd p

def Denotes (σ : Type) (roots : StorageRoots) (wd reference : String) : Reference → Prop
  | .onMachine p => Anchored σ roots wd reference p
  | .remote .. => (anchor wd reference).bind roots.resolve = roots.resolve reference

theorem join_of_isAbsolute (h : Path.isAbsolute p = true) : Path.join wd p = p := by simp [Path.join, h]

theorem join_ne_empty (hne : p ≠ "") : Path.join wd p ≠ "" := by
  unfold Path.join
  split
  · exact hne
  · split <;> simp [hne]

theorem path_ne_empty (hr : parse reference = .ok (.onMachine p)) : p ≠ "" := by
  cases parse_eq_ok_iff.1 hr with
  | plain _ hne => exact hne
  | machine hne => exact hne

theorem anchor_onMachine (wd : String) (hr : parse reference = .ok (.onMachine p)) :
    anchor wd reference = .ok (Path.join wd p) := by
  cases ha : Path.isAbsolute p <;> simp [anchor, hr, ha, join_of_isAbsolute]

theorem denotes (σ : Type) (roots : StorageRoots) (wd : String) {r : Reference} (hr : parse reference = .ok r) :
    Denotes σ roots wd reference r := by
  cases r with
  | onMachine p =>
    refine ⟨anchor_onMachine wd hr, join_of_isAbsolute, ?_, fun copy s => localize_onMachine hr s, fun _ _ => rfl⟩
    have hself : roots.resolve (Path.join wd p) = .ok (Path.join wd p) ↔ _ :=
      resolve_self_iff (join_ne_empty (path_ne_empty hr))
    rw [schemeMark_infix_join_iff, not_or, not_and, ← Bool.not_eq_true, ← or_iff_not_imp_left] at hself
    rw [anchor_onMachine wd hr]
    exact hself
  | remote scheme path =>
    simp only [Denotes, anchor, hr]
    rfl

theorem denotes_nested : parse "file://in/a.txt" = .ok (.onMachine "in/a.txt") ∧
    Denotes Unit (single "data") "work" "file://in/a.txt" (.onMachine "in/a.txt") := by
  have hr : parse "file://in/a.txt" = .ok (.onMachine "in/a.txt") := by decide +kernel
  exact ⟨hr, denotes Unit (single "data") "work" hr⟩

/-- A file parameter leads to a file that a redirect of the same text cannot name. -/
theorem anchor_misread : parse "file://a://in.txt" = .ok (.onMachine "a://in.txt") ∧
    ∃ s : Session Unit, s = .holding [(["work"], .directory), (["work", "a:"], .directory),
        (["work", "a:", "in.txt"], .file (Text.encode "x"))] ∧
      (single "data").localize "file://a://in.txt" "work" true s = (.ok "a://in.txt", s) ∧
      s.files.read (Path.join "work" "a://in.txt") = .ok (Text.encode "x") ∧
      anchor "work" "file://a://in.txt" = .ok "work/a://in.txt" ∧
      (single "data").resolve "work/a://in.txt" = .error (.invalidReference "work/a://in.txt") := by
  have hr : parse "file://a://in.txt" = .ok (.onMachine "a://in.txt") := by decide +kernel
  refine ⟨hr, _, rfl, ?_, by decide +kernel, by decide +kernel, by decide +kernel⟩
  rw [localize_onMachine hr, if_neg (by decide +kernel)]

end StorageRoots

end ToolPipeline
