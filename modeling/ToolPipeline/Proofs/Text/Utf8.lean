import Mathlib.Data.List.Forall2
import ToolPipeline.Text.Utf8

set_option autoImplicit false

/-! The bytes that decode to a text are those that encode it, and how many there are. -/

namespace ToolPipeline.Text

variable {code n : Nat} {ranges : List (UInt8 × UInt8)} {s rest : Bytes} {lead a b c : UInt8}

theorem byteLength_append (s t : List Char) : byteLength (s ++ t) = byteLength s + byteLength t := by
  induction s with
  | nil => simp [byteLength]
  | cons c s ih =>
    simp only [byteLength, List.cons_append, List.map_cons, List.foldr_cons] at ih ⊢
    omega

def Continues (b : UInt8) : Prop := 0x80 ≤ b.toNat ∧ b.toNat ≤ 0xBF

theorem follow_eq_some (h : follow code ranges s = (some n, rest)) :
    ∃ bytes, s = bytes ++ rest ∧ List.Forall₂ (fun b r => r.1 ≤ b ∧ b ≤ r.2) bytes ranges ∧
      n = bytes.foldl (fun n b => n * 64 + (b.toNat - 0x80)) code := by
  induction ranges generalizing code s with
  | nil =>
    cases h
    exact ⟨[], rfl, .nil, rfl⟩
  | cons r ranges ih =>
    cases s with
    | nil => cases h
    | cons b s =>
      simp only [follow] at h
      split at h
      · next hb =>
        obtain ⟨bytes, rfl, hbytes, hn⟩ := ih h
        simp only [Bool.and_eq_true, decide_eq_true_eq] at hb
        exact ⟨b :: bytes, rfl, .cons hb hbytes, by rw [List.foldl_cons, hn]⟩
      · cases h

theorem toNat_ofNat (h : n.isValidChar) : (Char.ofNat n).val.toNat = n := by
  rw [Char.ofNat, dif_pos h]
  rfl

theorem encode_one (ha : a.toNat < 0x80) : String.utf8EncodeChar (.ofNat a.toNat) = [a] := by
  have hv := toNat_ofNat (n := a.toNat) (.inl (by omega))
  rw [String.utf8EncodeChar, hv]
  simp [show a.toNat ≤ 127 by omega]

theorem encode_two (hl : 0xC2 ≤ lead.toNat) (hl' : lead.toNat < 0xE0) (ha : Continues a) :
    String.utf8EncodeChar (.ofNat ((lead.toNat - 0xC0) * 64 + (a.toNat - 0x80))) = [lead, a] := by
  obtain ⟨h₁, h₂⟩ := ha
  generalize hn : (lead.toNat - 0xC0) * 64 + (a.toNat - 0x80) = n
  have hv := toNat_ofNat (n := n) (.inl (by omega))
  rw [String.utf8EncodeChar, hv]
  have hlead : n / 64 % 32 + 192 = lead.toNat := by omega
  have hlast : n % 64 + 128 = a.toNat := by omega
  simp [show ¬ n ≤ 127 by omega, show n ≤ 2047 by omega, hlead, hlast]

theorem encode_three (hl : 0xE0 ≤ lead.toNat) (hl' : lead.toNat < 0xF0) (ha : Continues a) (hb : Continues b)
    (hlow : lead.toNat = 0xE0 → 0xA0 ≤ a.toNat) (hhigh : lead.toNat = 0xED → a.toNat ≤ 0x9F) :
    String.utf8EncodeChar (.ofNat (((lead.toNat - 0xE0) * 64 + (a.toNat - 0x80)) * 64 + (b.toNat - 0x80))) =
      [lead, a, b] := by
  obtain ⟨h₁, h₂⟩ := ha
  obtain ⟨h₃, h₄⟩ := hb
  generalize hn : ((lead.toNat - 0xE0) * 64 + (a.toNat - 0x80)) * 64 + (b.toNat - 0x80) = n
  have hvalid : n.isValidChar := by
    by_cases hd : lead.toNat ≤ 0xED
    · exact .inl (by omega)
    · exact .inr ⟨by omega, by omega⟩
  rw [String.utf8EncodeChar, toNat_ofNat hvalid]
  have hlead : n / 4096 % 16 + 224 = lead.toNat := by omega
  have hmid : n / 64 % 64 + 128 = a.toNat := by omega
  have hlast : n % 64 + 128 = b.toNat := by omega
  simp [show ¬ n ≤ 127 by omega, show ¬ n ≤ 2047 by omega, show n ≤ 65535 by omega, hlead, hmid, hlast]

theorem encode_four (hl : 0xF0 ≤ lead.toNat) (hl' : lead.toNat ≤ 0xF4) (ha : Continues a) (hb : Continues b)
    (hc : Continues c) (hlow : lead.toNat = 0xF0 → 0x90 ≤ a.toNat) (hhigh : lead.toNat = 0xF4 → a.toNat ≤ 0x8F) :
    String.utf8EncodeChar (.ofNat ((((lead.toNat - 0xF0) * 64 + (a.toNat - 0x80)) * 64 + (b.toNat - 0x80)) * 64 +
      (c.toNat - 0x80))) = [lead, a, b, c] := by
  obtain ⟨h₁, h₂⟩ := ha
  obtain ⟨h₃, h₄⟩ := hb
  obtain ⟨h₅, h₆⟩ := hc
  generalize hn : (((lead.toNat - 0xF0) * 64 + (a.toNat - 0x80)) * 64 + (b.toNat - 0x80)) * 64 + (c.toNat - 0x80) = n
  have hv := toNat_ofNat (n := n) (.inr ⟨by omega, by omega⟩)
  rw [String.utf8EncodeChar, hv]
  have hlead : n / 262144 % 8 + 240 = lead.toNat := by omega
  have hfirst : n / 4096 % 64 + 128 = a.toNat := by omega
  have hmid : n / 64 % 64 + 128 = b.toNat := by omega
  have hlast : n % 64 + 128 = c.toNat := by omega
  simp [show ¬ n ≤ 127 by omega, show ¬ n ≤ 2047 by omega, show ¬ n ≤ 65535 by omega, hlead, hfirst, hmid, hlast]

/-- The bytes of a character: a lead byte and what may follow it. -/
inductive Encodes : UInt8 → Bytes → Nat → Prop
  | one {lead : UInt8} : lead.toNat < 0x80 → Encodes lead [] lead.toNat
  | two {lead a : UInt8} : 0xC2 ≤ lead.toNat → lead.toNat < 0xE0 → Continues a →
      Encodes lead [a] ((lead.toNat - 0xC0) * 64 + (a.toNat - 0x80))
  | three {lead a b : UInt8} : 0xE0 ≤ lead.toNat → lead.toNat < 0xF0 → Continues a → Continues b →
      (lead.toNat = 0xE0 → 0xA0 ≤ a.toNat) → (lead.toNat = 0xED → a.toNat ≤ 0x9F) →
      Encodes lead [a, b] (((lead.toNat - 0xE0) * 64 + (a.toNat - 0x80)) * 64 + (b.toNat - 0x80))
  | four {lead a b c : UInt8} : 0xF0 ≤ lead.toNat → lead.toNat ≤ 0xF4 → Continues a → Continues b → Continues c →
      (lead.toNat = 0xF0 → 0x90 ≤ a.toNat) → (lead.toNat = 0xF4 → a.toNat ≤ 0x8F) →
      Encodes lead [a, b, c] ((((lead.toNat - 0xF0) * 64 + (a.toNat - 0x80)) * 64 + (b.toNat - 0x80)) * 64 +
        (c.toNat - 0x80))

theorem Encodes.utf8EncodeChar {bytes : Bytes} (h : Encodes lead bytes n) :
    String.utf8EncodeChar (.ofNat n) = lead :: bytes := by
  cases h with
  | one h => exact encode_one h
  | two hl hl' ha => exact encode_two hl hl' ha
  | three hl hl' ha hb hlow hhigh => exact encode_three hl hl' ha hb hlow hhigh
  | four hl hl' ha hb hc hlow hhigh => exact encode_four hl hl' ha hb hc hlow hhigh

theorem leadBits_one (h : lead.toNat < 0x80) : leadBits lead = lead.toNat := by
  rw [leadBits, if_pos (UInt8.lt_iff_toNat_lt.2 h)]

theorem leadBits_two (h : 0xC2 ≤ lead.toNat) (h' : lead.toNat < 0xE0) : leadBits lead = lead.toNat - 0xC0 := by
  simp only [leadBits, UInt8.lt_iff_toNat_lt, UInt8.reduceToNat]
  rw [if_neg (by omega), if_pos h']

theorem leadBits_three (h : 0xE0 ≤ lead.toNat) (h' : lead.toNat < 0xF0) : leadBits lead = lead.toNat - 0xE0 := by
  simp only [leadBits, UInt8.lt_iff_toNat_lt, UInt8.reduceToNat]
  rw [if_neg (by omega), if_neg (by omega), if_pos h']

theorem leadBits_four (h : 0xF0 ≤ lead.toNat) : leadBits lead = lead.toNat - 0xF0 := by
  simp only [leadBits, UInt8.lt_iff_toNat_lt, UInt8.reduceToNat]
  rw [if_neg (by omega), if_neg (by omega), if_neg (by omega)]

theorem encodes_of_continuations {bytes : Bytes} (hr : continuations lead = some ranges)
    (hb : List.Forall₂ (fun b r => r.1 ≤ b ∧ b ≤ r.2) bytes ranges) :
    Encodes lead bytes (bytes.foldl (fun n b => n * 64 + (b.toNat - 0x80)) (leadBits lead)) := by
  simp only [continuations, UInt8.lt_iff_toNat_lt, ← UInt8.toNat_inj, UInt8.reduceToNat] at hr
  -- One case for each row of the table of well-formed bytes.
  repeat' split at hr
  all_goals cases hr
  all_goals simp only [List.forall₂_cons_right_iff, List.forall₂_nil_right_iff, UInt8.le_iff_toNat_le,
    UInt8.reduceToNat] at hb
  · subst hb
    rw [leadBits_one ‹_›]
    exact .one ‹_›
  · obtain ⟨a, _, ha, rfl, rfl⟩ := hb
    rw [leadBits_two (by omega) ‹_›]
    exact .two (by omega) ‹_› ha
  iterate 3
    · obtain ⟨a, _, ha, ⟨b, _, hb, rfl, rfl⟩, rfl⟩ := hb
      rw [leadBits_three (by omega) (by omega)]
      exact .three (by omega) (by omega) ⟨by omega, by omega⟩ hb (by omega) (by omega)
  iterate 3
    · obtain ⟨a, _, ha, ⟨b, _, hb, ⟨c, _, hc, rfl, rfl⟩, rfl⟩, rfl⟩ := hb
      rw [leadBits_four (by omega)]
      exact .four (by omega) (by omega) ⟨by omega, by omega⟩ hb hc (by omega) (by omega)

theorem eq_append_of_firstUnit {x : Char} (h : firstUnit lead s = (some x, rest)) :
    lead :: s = String.utf8EncodeChar x ++ rest := by
  unfold firstUnit at h
  split at h
  · cases h
  · next ranges hr =>
    obtain ⟨hx, hs⟩ := Prod.mk.inj h
    obtain ⟨n, hn, rfl⟩ := Option.map_eq_some_iff.1 hx
    obtain ⟨bytes, rfl, hb, rfl⟩ := follow_eq_some (Prod.ext hn hs)
    rw [(encodes_of_continuations hr hb).utf8EncodeChar, List.cons_append]

theorem units_go_eq (acc : List (Option Char)) (s : Bytes) : units.go acc s = acc.reverse ++ units s := by
  induction h : s.length using Nat.strongRecOn generalizing acc s with
  | ind n ih =>
    subst h
    cases s with
    | nil => rw [units.go, units, units.go, List.reverse_nil, List.append_nil]
    | cons b s =>
      have hl := length_firstUnit_le b s
      have ih' := fun acc => ih _ (by rw [List.length_cons]; omega) acc (firstUnit b s).2 rfl
      rw [units.go, units, units.go, ih', ih' [_]]
      simp

theorem units_cons (b : UInt8) (s : Bytes) : units (b :: s) = (firstUnit b s).1 :: units (firstUnit b s).2 := by
  rw [units, units.go, units_go_eq]
  rfl

/-- Nothing is lost where all of the bytes are characters. -/
theorem flatMap_units (h : (units s).all Option.isSome) :
    ((units s).filterMap id).flatMap String.utf8EncodeChar = s := by
  induction hl : s.length using Nat.strongRecOn generalizing s with
  | ind n ih =>
    subst hl
    cases s with
    | nil => simp [units, units.go]
    | cons b s =>
      rw [units_cons, List.all_cons, Bool.and_eq_true, Option.isSome_iff_exists] at h
      obtain ⟨⟨x, hx⟩, hrest⟩ := h
      have hfirst := eq_append_of_firstUnit (Prod.ext hx rfl : firstUnit b s = (some x, (firstUnit b s).2))
      have hless := length_firstUnit_le b s
      have hs := ih _ (by rw [List.length_cons]; omega) hrest rfl
      rw [units_cons, hx, List.filterMap_cons, id_eq, List.flatMap_cons, hs, hfirst]

theorem encode_of_decode? {t : String} (h : decode? s = some t) : encode t = s := by
  simp only [decode?] at h
  split at h
  · next hu =>
    cases h
    rw [encode, String.toList_ofList, flatMap_units hu]
  · cases h

theorem follow_append {bytes : Bytes} (h : List.Forall₂ (fun b r => r.1 ≤ b ∧ b ≤ r.2) bytes ranges) (code : Nat)
    (rest : Bytes) : follow code ranges (bytes ++ rest) =
      (some (bytes.foldl (fun n b => n * 64 + (b.toNat - 0x80)) code), rest) := by
  induction h generalizing code with
  | nil => rfl
  | cons hb _ ih =>
    rw [List.cons_append, follow, if_pos (by simpa using hb), ih, List.foldl_cons]

theorem Encodes.exists_continuations {bytes : Bytes} (h : Encodes lead bytes n) :
    ∃ ranges, continuations lead = some ranges ∧ List.Forall₂ (fun b r => r.1 ≤ b ∧ b ≤ r.2) bytes ranges ∧
      bytes.foldl (fun n b => n * 64 + (b.toNat - 0x80)) (leadBits lead) = n := by
  simp only [continuations, UInt8.lt_iff_toNat_lt, ← UInt8.toNat_inj, UInt8.le_iff_toNat_le, UInt8.reduceToNat]
  cases h with
  | one h => exact ⟨[], if_pos h, .nil, leadBits_one h⟩
  | two hl hl' ha =>
    refine ⟨[(0x80, 0xBF)], ?_, .cons ha .nil, by rw [leadBits_two hl hl']; rfl⟩
    rw [if_neg (by omega), if_neg (by omega), if_pos hl']
  | three hl hl' ha hb hlow hhigh =>
    have hcode := leadBits_three hl hl'
    rw [if_neg (by omega), if_neg (by omega), if_neg (by omega)]
    by_cases h₀ : lead.toNat = 0xE0
    · exact ⟨_, if_pos h₀, .cons ⟨hlow h₀, ha.2⟩ (.cons hb .nil), by rw [hcode]; rfl⟩
    · rw [if_neg h₀]
      by_cases h₁ : lead.toNat = 0xED
      · exact ⟨_, if_pos h₁, .cons ⟨ha.1, hhigh h₁⟩ (.cons hb .nil), by rw [hcode]; rfl⟩
      · rw [if_neg h₁]
        exact ⟨_, if_pos hl', .cons ha (.cons hb .nil), by rw [hcode]; rfl⟩
  | four hl hl' ha hb hc hlow hhigh =>
    have hcode := leadBits_four hl
    rw [if_neg (by omega), if_neg (by omega), if_neg (by omega), if_neg (by omega), if_neg (by omega),
      if_neg (by omega)]
    by_cases h₀ : lead.toNat = 0xF0
    · exact ⟨_, if_pos h₀, .cons ⟨hlow h₀, ha.2⟩ (.cons hb (.cons hc .nil)), by rw [hcode]; rfl⟩
    · rw [if_neg h₀]
      by_cases h₁ : lead.toNat < 0xF4
      · exact ⟨_, if_pos h₁, .cons ha (.cons hb (.cons hc .nil)), by rw [hcode]; rfl⟩
      · rw [if_neg h₁]
        have h₄ : lead.toNat = 0xF4 := by omega
        exact ⟨_, if_pos h₄, .cons ⟨ha.1, hhigh h₄⟩ (.cons hb (.cons hc .nil)), by rw [hcode]; rfl⟩

theorem Encodes.firstUnit_append {bytes : Bytes} (h : Encodes lead bytes n) (rest : Bytes) :
    firstUnit lead (bytes ++ rest) = (some (.ofNat n), rest) := by
  obtain ⟨ranges, hr, hb, hn⟩ := h.exists_continuations
  rw [firstUnit, hr]
  dsimp only
  rw [follow_append hb, hn]
  rfl

theorem exists_encodes (x : Char) :
    ∃ lead bytes, String.utf8EncodeChar x = lead :: bytes ∧ Encodes lead bytes x.toNat := by
  have hbyte {k : Nat} (h : k < 256) : (UInt8.ofNat k).toNat = k := UInt8.toNat_ofNat_of_lt' h
  have hvalid : x.toNat.isValidChar := x.valid
  have hv : x.val.toNat = x.toNat := rfl
  rw [String.utf8EncodeChar, hv]
  generalize x.toNat = v at hvalid
  have hvalid : v < 0xD800 ∨ 0xDFFF < v ∧ v < 0x110000 := hvalid
  have htail {k : Nat} (h : k < 64) : Continues (UInt8.ofNat (k + 128)) := by
    rw [Continues, hbyte (by omega)]
    omega
  -- One case for each number of bytes.
  split
  · have h : Encodes (.ofNat v) [] (UInt8.ofNat v).toNat := .one (by rw [hbyte] <;> omega)
    rw [hbyte (by omega)] at h
    exact ⟨_, _, rfl, h⟩
  · split
    · have h : Encodes (.ofNat (v / 64 % 32 + 192)) [.ofNat (v % 64 + 128)] _ :=
        .two (by rw [hbyte] <;> omega) (by rw [hbyte] <;> omega) (htail (by omega))
      rw [hbyte (by omega), hbyte (by omega)] at h
      exact ⟨_, _, rfl, by convert h using 1; omega⟩
    · split
      · have h : Encodes (.ofNat (v / 4096 % 16 + 224)) [.ofNat (v / 64 % 64 + 128), .ofNat (v % 64 + 128)] _ :=
          .three (by rw [hbyte] <;> omega) (by rw [hbyte] <;> omega) (htail (by omega)) (htail (by omega))
            (by rw [hbyte, hbyte] <;> omega) (by rw [hbyte, hbyte] <;> omega)
        rw [hbyte (by omega), hbyte (by omega), hbyte (by omega)] at h
        exact ⟨_, _, rfl, by convert h using 1; omega⟩
      · have h : Encodes (.ofNat (v / 262144 % 8 + 240))
            [.ofNat (v / 4096 % 64 + 128), .ofNat (v / 64 % 64 + 128), .ofNat (v % 64 + 128)] _ :=
          .four (by rw [hbyte] <;> omega) (by rw [hbyte] <;> omega) (htail (by omega)) (htail (by omega))
            (htail (by omega)) (by rw [hbyte, hbyte] <;> omega) (by rw [hbyte, hbyte] <;> omega)
        rw [hbyte (by omega), hbyte (by omega), hbyte (by omega), hbyte (by omega)] at h
        exact ⟨_, _, rfl, by convert h using 1; omega⟩

theorem units_utf8EncodeChar (x : Char) (s : Bytes) :
    units (String.utf8EncodeChar x ++ s) = some x :: units s := by
  obtain ⟨lead, bytes, hx, h⟩ := exists_encodes x
  rw [hx, List.cons_append, units_cons, h.firstUnit_append, Char.ofNat_toNat]

theorem units_encode (t : String) : units (encode t) = t.toList.map some := by
  rw [encode]
  induction t.toList with
  | nil => rw [List.flatMap_nil, units, units.go, List.reverse_nil, List.map_nil]
  | cons x l ih => rw [List.flatMap_cons, units_utf8EncodeChar, ih, List.map_cons]

/-- A text is read back from the bytes that encode it. -/
theorem decode?_encode (t : String) : decode? (encode t) = some t := by
  simp [decode?, units_encode, List.filterMap_map]

theorem decode?_eq_some_iff {t : String} : decode? s = some t ↔ encode t = s := by
  constructor
  · exact encode_of_decode?
  · rintro rfl
    exact decode?_encode t

end ToolPipeline.Text
