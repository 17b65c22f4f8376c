import Mathlib.Data.List.Infix
import ToolPipeline.InProcess.Resolution
import ToolPipeline.Proofs.Recording

set_option autoImplicit false

/-!
Which token of a command line names the entry point. The search goes from the last token to the first and
ends at the first one that stands for an entry point, or that cannot be looked into without a password.
`resolveEntryPoint_finds` says what comes of it.
-/

namespace ToolPipeline

namespace EntryPointSearch

variable {σ : Type} {lookup : String → Option EntryPoint} {files : FileTree} {dir line token : String}
  {after before skipped : List String} {s : Session σ}

def Declares (files : FileTree) (dir token name : String) : Prop :=
  isArchive token = true ∧ Manifest.declared files (Path.join dir token) = .ok (some name)

/-- The token is an archive with a manifest that asks for a password without saying that it is encrypted. -/
def Locked (files : FileTree) (dir token : String) : Prop :=
  isArchive token = true ∧ Manifest.declared files (Path.join dir token) = .error .locked

def Resolves (lookup : String → Option EntryPoint) (files : FileTree) (dir token : String) : Prop :=
  (∃ name, Declares files dir token name ∧ (lookup name).isSome = true) ∨ (lookup token).isSome = true

/-- The declared name if it is known, and else the token. -/
inductive Names (lookup : String → Option EntryPoint) (files : FileTree) (dir token : String) :
    String → EntryPoint → Prop
  | declared {name : String} {e : EntryPoint} :
      Declares files dir token name → lookup name = some e → Names lookup files dir token name e
  | itself {e : EntryPoint} : (∀ name, Declares files dir token name → lookup name = none) →
      lookup token = some e → Names lookup files dir token token e

theorem Names.resolves {name : String} {e : EntryPoint} (h : Names lookup files dir token name e) :
    Resolves lookup files dir token := by
  cases h with
  | declared hd he => exact .inl ⟨name, hd, by rw [he]; rfl⟩
  | itself _ he => exact .inr (by rw [he]; rfl)

theorem Declares.unique {name name' : String} (h : Declares files dir token name)
    (h' : Declares files dir token name') : name = name' := Option.some.inj (Except.ok.inj (h.2.symm.trans h'.2))

theorem Names.unique {name name' : String} {e e' : EntryPoint} (h : Names lookup files dir token name e)
    (h' : Names lookup files dir token name' e') : name = name' ∧ e = e' := by
  cases h with
  | declared hd he =>
    cases h' with
    | declared hd' he' =>
      obtain rfl := hd.unique hd'
      exact ⟨rfl, Option.some.inj (he.symm.trans he')⟩
    | itself hn => rw [hn _ hd] at he; cases he
  | itself hn he =>
    cases h' with
    | declared hd' he' => rw [hn _ hd'] at he'; cases he'
    | itself _ he' => exact ⟨rfl, Option.some.inj (he.symm.trans he')⟩

theorem Resolves.names (h : Resolves lookup files dir token) : ∃ name e, Names lookup files dir token name e := by
  by_cases hd : ∃ name, Declares files dir token name ∧ (lookup name).isSome = true
  · obtain ⟨name, hname, he⟩ := hd
    obtain ⟨e, he⟩ := Option.isSome_iff_exists.1 he
    exact ⟨name, e, .declared hname he⟩
  · obtain ⟨e, he⟩ := Option.isSome_iff_exists.1 (h.resolve_left hd)
    exact ⟨token, e, .itself (fun name hname => Option.not_isSome_iff_eq_none.1 fun hs => hd ⟨name, hname, hs⟩) he⟩

theorem declared_eq_ok_some_iff {name : String} :
    declared files dir token = .ok (some name) ↔ Declares files dir token name := by
  unfold declared Declares
  by_cases h : isArchive token = true <;> simp [h]

theorem declared_eq_locked_iff : declared files dir token = .error .locked ↔ Locked files dir token := by
  unfold declared Locked
  by_cases h : isArchive token = true <;> simp [h]

/-- The names are tried. When none of them is known, the search goes on. -/
def tryNames (dir line : String) (lookup : String → Option EntryPoint) (after : List String) (token : String)
    (before names : List String) : Action σ (Stop ResolutionError) ResolvedEntryPoint :=
  match find? lookup names with
  | some (name, e) => do
    Action.report (.entryPointResolved name token after.length)
    pure ⟨name, token, e, after⟩
  | none => search dir line lookup (token :: after) before

theorem search_of_read {declares : Option String} (h : declared s.files dir token = .ok declares) :
    search dir line lookup after (token :: before) s =
      tryNames dir line lookup after token before (declares.toList ++ [token]) s := by
  rw [search, Action.bind_apply, Action.get_apply]
  dsimp only
  rw [h]
  rfl

theorem search_of_unreadable {reason : String} (h : declared s.files dir token = .error (.unreadable reason)) :
    ∃ t : Session σ, t.files = s.files ∧ search dir line lookup after (token :: before) s =
      tryNames dir line lookup after token before [token] t := by
  rw [search, Action.bind_apply, Action.get_apply]
  dsimp only
  rw [h]
  exact ⟨⟨s.files, s.events ++ [_], s.state⟩, rfl, rfl⟩

theorem search_of_locked (h : Locked s.files dir token) :
    (search dir line lookup after (token :: before) s).1 = .error (.crash lockedMessage) := by
  rw [search, Action.bind_apply, Action.get_apply]
  dsimp only
  rw [declared_eq_locked_iff.2 h]
  rfl

theorem names_of_find? {declares : Option String} {name : String} {e : EntryPoint}
    (hd : ∀ n, Declares files dir token n ↔ declares = some n)
    (h : find? lookup (declares.toList ++ [token]) = some (name, e)) : Names lookup files dir token name e := by
  have itself (hn : ∀ n, Declares files dir token n → lookup n = none)
      (h : find? lookup [token] = some (name, e)) : Names lookup files dir token name e := by
    simp only [find?, List.findSome?_singleton, Option.map_eq_some_iff, Prod.mk.injEq] at h
    obtain ⟨_, he, rfl, rfl⟩ := h
    exact .itself hn he
  -- A declared name that is not known counts as little as none.
  cases declares with
  | none => exact itself (fun n hn => by cases (hd n).1 hn) h
  | some d =>
    cases hl : lookup d with
    | none => exact itself (fun n hn => by cases (hd n).1 hn; exact hl) (by simpa [find?, hl] using h)
    | some e' =>
      simp only [find?, Option.toList_some, List.cons_append, List.findSome?_cons, hl, Option.map_some,
        Option.some.injEq, Prod.mk.injEq] at h
      obtain ⟨rfl, rfl⟩ := h
      exact .declared ((hd d).2 rfl) hl

theorem not_resolves_of_find? {declares : Option String}
    (hd : ∀ n, Declares files dir token n ↔ declares = some n)
    (h : find? lookup (declares.toList ++ [token]) = none) : ¬ Resolves lookup files dir token := by
  simp only [find?, List.findSome?_eq_none_iff, Option.map_eq_none_iff, List.mem_append, List.mem_singleton,
    Option.mem_toList] at h
  rintro (⟨name, hn, hs⟩ | hs)
  · rw [h name (.inl ((hd name).1 hn))] at hs
    cases hs
  · rw [h token (.inr rfl)] at hs
    cases hs

inductive Tried (lookup : String → Option EntryPoint) (dir line : String) (after : List String) (token : String)
    (before : List String) (s : Session σ) : Except (Stop ResolutionError) ResolvedEntryPoint × Session σ → Prop
  | locked {p} : Locked s.files dir token → p.1 = .error (.crash lockedMessage) →
      Tried lookup dir line after token before s p
  | found {p name e} : ¬ Locked s.files dir token → Names lookup s.files dir token name e →
      p.1 = .ok ⟨name, token, e, after⟩ → Tried lookup dir line after token before s p
  | passed {p t} : ¬ Locked s.files dir token → ¬ Resolves lookup s.files dir token → t.files = s.files →
      p = search dir line lookup (token :: after) before t → Tried lookup dir line after token before s p

theorem tried_names {declares : Option String}
    (hd : ∀ name, Declares s.files dir token name ↔ declares = some name) (hl : ¬ Locked s.files dir token)
    {t : Session σ} (ht : t.files = s.files) : Tried lookup dir line after token before s
      (tryNames dir line lookup after token before (declares.toList ++ [token]) t) := by
  cases hf : find? lookup (declares.toList ++ [token]) with
  | some p =>
    refine .found hl (names_of_find? hd hf) ?_
    rw [tryNames, hf]
    rfl
  | none =>
    rw [tryNames, hf]
    exact .passed hl (not_resolves_of_find? hd hf) ht rfl

theorem tried_search (lookup : String → Option EntryPoint) (dir line : String) (after : List String) (token : String)
    (before : List String) (s : Session σ) :
    Tried lookup dir line after token before s (search dir line lookup after (token :: before) s) := by
  have hl (r : Except Zip.Problem (Option String)) (h : declared s.files dir token = r) (hr : r ≠ .error .locked) :
      ¬ Locked s.files dir token := fun hlocked => hr (h ▸ declared_eq_locked_iff.2 hlocked)
  cases h : declared s.files dir token with
  | ok declares =>
    rw [search_of_read h]
    exact tried_names (fun name => by rw [← declared_eq_ok_some_iff, h, Except.ok.injEq]) (hl _ h nofun) rfl
  | error problem =>
    cases problem with
    | locked => exact .locked (declared_eq_locked_iff.1 h) (search_of_locked (declared_eq_locked_iff.1 h))
    | unreadable reason =>
      have hd (name : String) : Declares s.files dir token name ↔ none = some name := by
        rw [← declared_eq_ok_some_iff, h]
        exact ⟨nofun, nofun⟩
      obtain ⟨t, ht, he⟩ : ∃ t : Session σ, t.files = s.files ∧ search dir line lookup after (token :: before) s =
        tryNames dir line lookup after token before [token] t := search_of_unreadable h
      rw [he]
      exact tried_names hd (hl _ h nofun) ht

def Ends (lookup : String → Option EntryPoint) (files : FileTree) (dir token : String) : Prop :=
  Locked files dir token ∨ Resolves lookup files dir token

theorem search_skip (h : ∀ u ∈ skipped, ¬ Ends lookup s.files dir u) : ∃ t : Session σ, t.files = s.files ∧
    search dir line lookup after (skipped ++ before) s =
      search dir line lookup (skipped.reverse ++ after) before t := by
  -- Over the tokens left behind. Each of them leaves another session with the same files, and only these count.
  induction skipped generalizing after s with
  | nil => exact ⟨s, rfl, rfl⟩
  | cons u skipped ih =>
    obtain ⟨hu, hskipped⟩ := List.forall_mem_cons.1 h
    cases tried_search lookup dir line after u (skipped ++ before) s with
    | locked hl => exact absurd (.inl hl) hu
    | found _ hn => exact absurd (.inr hn.resolves) hu
    | @passed t _ _ ht he =>
      obtain ⟨v, hv, hrest⟩ : ∃ v : Session σ, v.files = t.files ∧
          search dir line lookup (u :: after) (skipped ++ before) t =
            search dir line lookup (skipped.reverse ++ u :: after) before v := ih (by rwa [ht])
      refine ⟨v, hv.trans ht, he.trans ?_⟩
      rw [hrest, List.reverse_cons, List.append_assoc]
      rfl

theorem exists_last_or {α : Type} (P : α → Prop) (l : List α) :
    (∀ x ∈ l, ¬ P x) ∨ ∃ before x after, l = before ++ x :: after ∧ P x ∧ ∀ y ∈ after, ¬ P y := by
  induction l with
  | nil => exact .inl nofun
  | cons x l ih =>
    rcases ih with hl | ⟨before, y, after, rfl, hy, hafter⟩
    · by_cases hx : P x
      · exact .inr ⟨[], x, l, rfl, hx, hl⟩
      · exact .inl (List.forall_mem_cons.2 ⟨hx, hl⟩)
    · exact .inr ⟨x :: before, y, after, rfl, hy, hafter⟩

end EntryPointSearch

open EntryPointSearch

variable {σ : Type} {lookup : String → Option EntryPoint} {dir line token : String} {before after : List String}

theorem resolveEntryPoint_of_none (s : Session σ) (h : ∀ u ∈ Arguments.split line, ¬ Ends lookup s.files dir u) :
    (resolveEntryPoint lookup dir line s).1 = .error (.error (.entryPointNotFound line)) := by
  obtain ⟨t, -, ht⟩ : ∃ t : Session σ, t.files = s.files ∧
      search dir line lookup [] ((Arguments.split line).reverse ++ []) s = search dir line lookup _ [] t :=
    search_skip fun u hu => h u (List.mem_reverse.1 hu)
  rw [List.append_nil] at ht
  rw [resolveEntryPoint, ht]
  rfl

/-- The last token at which the search ends decides. -/
theorem tried_of_last (s : Session σ) (hs : Arguments.split line = before ++ token :: after)
    (h : ∀ u ∈ after, ¬ Ends lookup s.files dir u) : ∃ t : Session σ, t.files = s.files ∧
      Tried lookup dir line after token before.reverse t (resolveEntryPoint lookup dir line s) := by
  obtain ⟨t, ht, hskip⟩ : ∃ t : Session σ, t.files = s.files ∧
      search dir line lookup [] (after.reverse ++ token :: before.reverse) s =
        search dir line lookup (after.reverse.reverse ++ []) (token :: before.reverse) t :=
    search_skip fun u hu => h u (List.mem_reverse.1 hu)
  refine ⟨t, ht, ?_⟩
  rw [List.reverse_reverse, List.append_nil] at hskip
  have htokens : (Arguments.split line).reverse = after.reverse ++ token :: before.reverse := by
    rw [hs]
    simp
  rw [resolveEntryPoint, htokens, hskip]
  exact tried_search lookup dir line after token before.reverse t

theorem resolveEntryPoint_of_locked (s : Session σ) (hs : Arguments.split line = before ++ token :: after)
    (h : ∀ u ∈ after, ¬ Ends lookup s.files dir u) (hl : Locked s.files dir token) :
    (resolveEntryPoint lookup dir line s).1 = .error (.crash lockedMessage) := by
  obtain ⟨t, ht, htried⟩ := tried_of_last s hs h
  cases htried with
  | locked _ hp => exact hp
  | found hn => exact absurd (ht ▸ hl) hn
  | passed hn => exact absurd (ht ▸ hl) hn

theorem resolveEntryPoint_of_names (s : Session σ) (hs : Arguments.split line = before ++ token :: after)
    (h : ∀ u ∈ after, ¬ Ends lookup s.files dir u) (hl : ¬ Locked s.files dir token) {name : String} {e : EntryPoint}
    (hn : Names lookup s.files dir token name e) :
    (resolveEntryPoint lookup dir line s).1 = .ok ⟨name, token, e, after⟩ := by
  obtain ⟨t, ht, htried⟩ := tried_of_last s hs h
  cases htried with
  | locked hl' => exact absurd (ht ▸ hl') hl
  | found _ hn' hp =>
    obtain ⟨rfl, rfl⟩ := hn.unique (ht ▸ hn')
    exact hp
  | passed _ hr => exact absurd (ht ▸ hn.resolves) hr

inductive SearchOutcome (lookup : String → Option EntryPoint) (files : FileTree) (dir line : String) :
    Except (Stop ResolutionError) ResolvedEntryPoint → Prop
  | none : (∀ u ∈ Arguments.split line, ¬ Ends lookup files dir u) →
      SearchOutcome lookup files dir line (.error (.error (.entryPointNotFound line)))
  | locked {before : List String} {token : String} {after : List String} :
      Arguments.split line = before ++ token :: after → Locked files dir token →
      (∀ u ∈ after, ¬ Ends lookup files dir u) → SearchOutcome lookup files dir line (.error (.crash lockedMessage))
  | found {before : List String} {token : String} {after : List String} {name : String} {e : EntryPoint} :
      Arguments.split line = before ++ token :: after →
      ¬ Locked files dir token → Names lookup files dir token name e → (∀ u ∈ after, ¬ Ends lookup files dir u) →
      SearchOutcome lookup files dir line (.ok ⟨name, token, e, after⟩)

theorem searchOutcome_resolveEntryPoint (lookup : String → Option EntryPoint) (dir line : String) (s : Session σ) :
    SearchOutcome lookup s.files dir line (resolveEntryPoint lookup dir line s).1 := by
  rcases exists_last_or (Ends lookup s.files dir) (Arguments.split line) with
    hnone | ⟨before, token, after, hs, hend, hafter⟩
  · rw [resolveEntryPoint_of_none s hnone]
    exact .none hnone
  · by_cases hl : Locked s.files dir token
    · rw [resolveEntryPoint_of_locked s hs hafter hl]
      exact .locked hs hl hafter
    · obtain ⟨name, e, hn⟩ := (hend.resolve_left hl).names
      rw [resolveEntryPoint_of_names s hs hafter hl hn]
      exact .found hs hl hn hafter

theorem exists_last_end (lookup : String → Option EntryPoint) {files : FileTree}
    (hs : Arguments.split line = before ++ token :: after) (h : Ends lookup files dir token) :
    ∃ front last rest, Arguments.split line = front ++ last :: rest ∧
      (last = token ∨ last ∈ after) ∧ Ends lookup files dir last ∧ ∀ u ∈ rest, ¬ Ends lookup files dir u := by
  rcases exists_last_or (Ends lookup files dir) (token :: after) with hnone | ⟨front, last, rest, htail, hend, hrest⟩
  · exact absurd h (hnone token List.mem_cons_self)
  · refine ⟨before ++ front, last, rest, ?_, ?_, hend, hrest⟩
    · rw [hs, htail, List.append_assoc]
    · rw [← List.mem_cons, htail]
      exact List.mem_append_right _ List.mem_cons_self

structure FindsLast (σ : Type) (lookup : String → Option EntryPoint) (files : FileTree) (dir line : String)
    (r : Except (Stop ResolutionError) ResolvedEntryPoint) : Prop where
  /-- An entry point is found exactly if some token resolves and neither it nor a token behind it is locked. -/
  ok_iff : (∃ x, r = .ok x) ↔ ∃ before token after, Arguments.split line = before ++ token :: after ∧
    Resolves lookup files dir token ∧ ∀ u ∈ token :: after, ¬ Locked files dir u
  /-- It is the one of the last token that resolves, and the tokens behind that one are its arguments. -/
  found : ∀ x, r = .ok x → (∃ before, Arguments.split line = before ++ x.token :: x.arguments) ∧
    Names lookup files dir x.token x.name x.entryPoint ∧ ∀ u ∈ x.arguments, ¬ Resolves lookup files dir u
  /-- Nothing in front of that token counts. -/
  determined : ∀ x, r = .ok x → ∀ (line' : String) (s' : Session σ), s'.files = files →
    (∃ before, Arguments.split line' = before ++ x.token :: x.arguments) →
    (resolveEntryPoint lookup dir line' s').1 = .ok x
  notFound_iff : r = .error (.error (.entryPointNotFound line)) ↔
    ∀ u ∈ Arguments.split line, ¬ Resolves lookup files dir u ∧ ¬ Locked files dir u
  /-- A locked token breaks the search down, unless one behind it resolves. -/
  crash_iff : r = .error (.crash lockedMessage) ↔ ∃ before token after,
    Arguments.split line = before ++ token :: after ∧ Locked files dir token ∧
    ∀ u ∈ after, ¬ Resolves lookup files dir u
  error : ∀ e, r = .error e → e = .error (.entryPointNotFound line) ∨ e = .crash lockedMessage

/-- The last token that resolves is found, unless a locked one comes first on the way. -/
theorem resolveEntryPoint_finds (lookup : String → Option EntryPoint) (dir line : String) (s : Session σ) :
    FindsLast σ lookup s.files dir line (resolveEntryPoint lookup dir line s).1 := by
  -- The last token at which the search ends is the last one that resolves, unless it is locked itself.
  have hout := searchOutcome_resolveEntryPoint lookup dir line s
  refine ⟨⟨fun ⟨x, hx⟩ => ?_, ?_⟩, fun x hx => ?_, fun x hx line' s' hfiles => ?_, ⟨fun hx => ?_, fun h => ?_⟩,
    ⟨fun hx => ?_, ?_⟩, fun e he => ?_⟩
  · rw [hx] at hout
    cases hout with
    | found hs hl hn hafter =>
      exact ⟨_, _, _, hs, hn.resolves, List.forall_mem_cons.2 ⟨hl, fun u hu h => hafter u hu (.inl h)⟩⟩
  · rintro ⟨before, token, after, hs, hr, hl⟩
    obtain ⟨front, last, rest, hs', hlast, hend, hrest⟩ := exists_last_end lookup hs (.inr hr)
    have hfree : ¬ Locked s.files dir last := hl last (List.mem_cons.2 hlast)
    obtain ⟨name, e, hn⟩ := (hend.resolve_left hfree).names
    exact ⟨_, resolveEntryPoint_of_names s hs' hrest hfree hn⟩
  · rw [hx] at hout
    cases hout with
    | found hs hl hn hafter => exact ⟨⟨_, hs⟩, hn, fun u hu h => hafter u hu (.inr h)⟩
  · rintro ⟨before, hs'⟩
    rw [hx] at hout
    rw [← hfiles] at hout
    cases hout with
    | found _ hl hn hafter => exact resolveEntryPoint_of_names s' hs' hafter hl hn
  · rw [hx] at hout
    cases hout with
    | none h => exact fun u hu => ⟨fun hr => h u hu (.inr hr), fun hl => h u hu (.inl hl)⟩
  · exact resolveEntryPoint_of_none s fun u hu hend => hend.elim (h u hu).2 (h u hu).1
  · rw [hx] at hout
    cases hout with
    | locked hs hl hafter => exact ⟨_, _, _, hs, hl, fun u hu h => hafter u hu (.inr h)⟩
  · rintro ⟨before, token, after, hs, hl, hafter⟩
    obtain ⟨front, last, rest, hs', hlast, hend, hrest⟩ := exists_last_end lookup hs (.inl hl)
    refine resolveEntryPoint_of_locked s hs' hrest ?_
    rcases hlast with rfl | hmem
    · exact hl
    · exact hend.resolve_right (hafter last hmem)
  · rw [he] at hout
    cases hout with
    | none => exact .inl rfl
    | locked => exact .inr rfl

/-- An archive that holds an empty `manifest.toml`. Its directory says that the member is encrypted in its extra
field, but not in its flags. -/
def EntryPointSearch.lockedArchive : Bytes :=
  [80, 75, 3, 4, 20, 0, 0, 0, 99, 0, 0, 0, 0, 0, 0, 0, 0, 0, 0, 0, 0, 0, 0, 0, 0, 0, 13, 0, 0, 0, 109, 97,
   110, 105, 102, 101, 115, 116, 46, 116, 111, 109, 108,
   80, 75, 1, 2, 20, 0, 20, 0, 0, 0, 99, 0, 0, 0, 0, 0, 0, 0, 0, 0, 0, 0, 0, 0, 0, 0, 0, 0, 13, 0, 11, 0,
   0, 0, 0, 0, 0, 0, 0, 0, 0, 0, 0, 0, 0, 0, 109, 97, 110, 105, 102, 101, 115, 116, 46, 116, 111, 109, 108,
   1, 153, 7, 0, 2, 0, 65, 69, 3, 0, 0,
   80, 75, 5, 6, 0, 0, 0, 0, 1, 0, 1, 0, 70, 0, 0, 0, 43, 0, 0, 0, 0, 0]

def EntryPointSearch.withLockedArchive : FileTree :=
  ⟨⟨[(["work"], .directory), (["work", "locked.jar"], .file lockedArchive)]⟩, []⟩

def EntryPointSearch.onlyMain (name : String) : Option EntryPoint :=
  if name = "good.Main" then some fun _ => .flushed else none

/-- An archive that cannot be read keeps the search from the token in front of it, which is known. -/
theorem resolveEntryPoint_breaksDown :
    Arguments.split "good.Main locked.jar" = ["good.Main", "locked.jar"] ∧
    Resolves onlyMain withLockedArchive "work" "good.Main" ∧
    (∀ name, ¬ Declares withLockedArchive "work" "locked.jar" name) ∧
    (resolveEntryPoint onlyMain "work" "good.Main locked.jar" (⟨withLockedArchive, [], ()⟩ : Session Unit)).1 =
      .error (.crash "called `Result::unwrap()` on an `Err` value: InvalidPassword") := by
  have hs : Arguments.split "good.Main locked.jar" = ["good.Main"] ++ "locked.jar" :: [] := by decide +kernel
  have hl : Locked withLockedArchive "work" "locked.jar" := ⟨by decide +kernel, by decide +kernel⟩
  refine ⟨hs, .inr (by decide), fun name hd => ?_, ?_⟩
  · cases hl.2.symm.trans hd.2
  · exact resolveEntryPoint_of_locked _ hs nofun hl

end ToolPipeline
