import Mathlib.Tactic.Common

/-!
# UTF-16 ranges

A text field hands the application the range to be replaced in UTF-16 units, and a range may begin
or end between the two units of a scalar. A unit left without its partner reads as the replacement
character.
-/

namespace Foundation

/-- The UTF-16 units of a scalar. -/
def utf16 (c : Char) : List ℕ :=
  if c.toNat < 0x10000 then [c.toNat]
  else [0xD800 + (c.toNat - 0x10000) / 0x400, 0xDC00 + (c.toNat - 0x10000) % 0x400]

def isHighSurrogate (u : ℕ) : Bool := 0xD800 ≤ u && u < 0xDC00

def isLowSurrogate (u : ℕ) : Bool := 0xDC00 ≤ u && u < 0xE000

/-- The scalar of a unit that is not part of a pair. -/
def scalarOfUnit (u : ℕ) : Char :=
  if isHighSurrogate u || isLowSurrogate u then '\uFFFD' else Char.ofNat u

/-- The scalar of a pair of surrogates. -/
def scalarOfPair (u v : ℕ) : Char := Char.ofNat (0x10000 + (u - 0xD800) * 0x400 + (v - 0xDC00))

/-- The text of a sequence of units. -/
def ofUTF16 : List ℕ → List Char
  | [] => []
  | [u] => [scalarOfUnit u]
  | u :: v :: us =>
    if isHighSurrogate u && isLowSurrogate v then scalarOfPair u v :: ofUTF16 us
    else scalarOfUnit u :: ofUTF16 (v :: us)

/-- `NSRange`. -/
structure NSRange where
  location : ℕ
  length : ℕ
  deriving DecidableEq

/-- `NSString.replacingCharacters(in:with:)`. `none` is the exception of a range that is not within
the text. -/
def replacingCharacters (text : String) (range : NSRange) (replacement : String) :
    Option String :=
  let units := text.toList.flatMap utf16
  if range.location + range.length ≤ units.length then
    some (String.ofList (ofUTF16 (units.take range.location ++ replacement.toList.flatMap utf16
      ++ units.drop (range.location + range.length))))
  else none

/-- `NSString.length`. -/
def utf16Length (text : String) : ℕ := (text.toList.flatMap utf16).length

/-- The range of the whole text. -/
def NSRange.all (text : String) : NSRange := ⟨0, (text.toList.flatMap utf16).length⟩

/-! ## What is kept -/

theorem ofUTF16_cons {u : ℕ} (hu : isHighSurrogate u = false) (us : List ℕ) :
    ofUTF16 (u :: us) = scalarOfUnit u :: ofUTF16 us := by
  cases us with
  | nil => rfl
  | cons v us => rw [ofUTF16, hu, Bool.false_and, if_neg Bool.false_ne_true]

/-- A scalar is one unit that is no surrogate, or the pair of a high and a low one. -/
theorem utf16_cases (c : Char) :
    (∃ u, utf16 c = [u] ∧ isHighSurrogate u = false ∧ isLowSurrogate u = false ∧
      scalarOfUnit u = c) ∨
    ∃ u v, utf16 c = [u, v] ∧ isHighSurrogate u = true ∧ isLowSurrogate v = true ∧
      scalarOfPair u v = c := by
  have hvalid : c.toNat < 0xD800 ∨ 0xDFFF < c.toNat ∧ c.toNat < 0x110000 := c.valid
  rw [utf16]
  split
  · next hc =>
    have hhigh : isHighSurrogate c.toNat = false := by
      simp only [isHighSurrogate, Bool.and_eq_false_iff, decide_eq_false_iff_not]
      omega
    have hlow : isLowSurrogate c.toNat = false := by
      simp only [isLowSurrogate, Bool.and_eq_false_iff, decide_eq_false_iff_not]
      omega
    refine .inl ⟨_, rfl, hhigh, hlow, ?_⟩
    rw [scalarOfUnit, hhigh, hlow, Bool.or_false, if_neg Bool.false_ne_true, Char.ofNat_toNat]
  · next hc =>
    have hhigh : isHighSurrogate (0xD800 + (c.toNat - 0x10000) / 0x400) = true := by
      simp only [isHighSurrogate, Bool.and_eq_true, decide_eq_true_eq]
      omega
    have hlow : isLowSurrogate (0xDC00 + (c.toNat - 0x10000) % 0x400) = true := by
      simp only [isLowSurrogate, Bool.and_eq_true, decide_eq_true_eq]
      omega
    have hscalar : 0x10000
        + (0xD800 + (c.toNat - 0x10000) / 0x400 - 0xD800) * 0x400
        + (0xDC00 + (c.toNat - 0x10000) % 0x400 - 0xDC00) = c.toNat := by
      omega
    refine .inr ⟨_, _, rfl, hhigh, hlow, ?_⟩
    rw [scalarOfPair, hscalar, Char.ofNat_toNat]

/-- The units of a scalar are read back as that scalar, whatever follows. -/
theorem ofUTF16_utf16_append (c : Char) (us : List ℕ) :
    ofUTF16 (utf16 c ++ us) = c :: ofUTF16 us := by
  obtain ⟨u, hunits, hhigh, -, hc⟩ | ⟨u, v, hunits, hhigh, hlow, hc⟩ := utf16_cases c
  · rw [hunits, List.singleton_append, ofUTF16_cons hhigh, hc]
  · have hpair : (isHighSurrogate u && isLowSurrogate v) = true := by rw [hhigh, hlow]; rfl
    rw [hunits, List.cons_append, List.singleton_append, ofUTF16, if_pos hpair, hc]

/-- A text is read back from its units. -/
theorem ofUTF16_flatMap_utf16 (cs : List Char) : ofUTF16 (cs.flatMap utf16) = cs := by
  induction cs with
  | nil => rfl
  | cons c cs ih => rw [List.flatMap_cons, ofUTF16_utf16_append, ih]

/-- Replacing the whole text, as pasting over a selection of everything does. -/
theorem replacingCharacters_all (text replacement : String) :
    replacingCharacters text (.all text) replacement = some replacement := by
  rw [replacingCharacters, NSRange.all, if_pos (Nat.le_of_eq (Nat.zero_add _)), List.take_zero,
    List.nil_append, Nat.zero_add, List.drop_length, List.append_nil, ofUTF16_flatMap_utf16,
    String.ofList_toList]

/-! ## Lengths

A unit without its partner is read as one scalar of one unit, and a pair as one of two, so reading a
sequence of units keeps its length.
-/

theorem utf16_lt {c : Char} {u : ℕ} (hu : u ∈ utf16 c) : u < 0x10000 := by
  have hvalid : c.toNat < 0xD800 ∨ 0xDFFF < c.toNat ∧ c.toNat < 0x110000 := c.valid
  rw [utf16] at hu
  split at hu
  · next hc => exact List.mem_singleton.mp hu ▸ hc
  · simp only [List.mem_cons, List.not_mem_nil, or_false] at hu
    omega

theorem toNat_ofNat {n : ℕ} (h : n.isValidChar) : (Char.ofNat n).toNat = n := by
  rw [Char.ofNat, dif_pos h]
  rfl

theorem length_utf16_scalarOfUnit {u : ℕ} (hu : u < 0x10000) :
    (utf16 (scalarOfUnit u)).length = 1 := by
  by_cases hhalf : (isHighSurrogate u || isLowSurrogate u) = true
  · rw [scalarOfUnit, if_pos hhalf]
    rfl
  · have hvalid : u.isValidChar := by
      simp only [isHighSurrogate, isLowSurrogate, Bool.or_eq_true, Bool.and_eq_true,
        decide_eq_true_eq] at hhalf
      rw [Nat.isValidChar]
      omega
    have hlt : (Char.ofNat u).toNat < 0x10000 := by
      rw [toNat_ofNat hvalid]
      exact hu
    rw [scalarOfUnit, if_neg hhalf, utf16, if_pos hlt, List.length_singleton]

theorem length_utf16_scalarOfPair {u v : ℕ} (hu : isHighSurrogate u = true)
    (hv : isLowSurrogate v = true) : (utf16 (scalarOfPair u v)).length = 2 := by
  simp only [isHighSurrogate, Bool.and_eq_true, decide_eq_true_eq] at hu
  simp only [isLowSurrogate, Bool.and_eq_true, decide_eq_true_eq] at hv
  have hvalid : (0x10000 + (u - 0xD800) * 0x400 + (v - 0xDC00)).isValidChar := .inr (by omega)
  have hge : ¬(scalarOfPair u v).toNat < 0x10000 := by
    rw [scalarOfPair, toNat_ofNat hvalid]
    omega
  rw [utf16, if_neg hge]
  rfl

theorem length_flatMap_utf16_ofUTF16 {us : List ℕ} (h : ∀ u ∈ us, u < 0x10000) :
    ((ofUTF16 us).flatMap utf16).length = us.length := by
  induction us using ofUTF16.induct with
  | case1 => rfl
  | case2 u =>
    rw [ofUTF16, List.flatMap_singleton, length_utf16_scalarOfUnit (h u List.mem_cons_self),
      List.length_singleton]
  | case3 u v us hpair ih =>
    obtain ⟨hu, hv⟩ := Bool.and_eq_true_iff.mp hpair
    have hus : ∀ w ∈ us, w < 0x10000 := fun w hw ↦
      h w (List.mem_cons_of_mem u (List.mem_cons_of_mem v hw))
    rw [ofUTF16, if_pos hpair, List.flatMap_cons, List.length_append,
      length_utf16_scalarOfPair hu hv, ih hus, List.length_cons, List.length_cons]
    omega
  | case4 u v us hpair ih =>
    have hus : ∀ w ∈ v :: us, w < 0x10000 := fun w hw ↦ h w (List.mem_cons_of_mem u hw)
    rw [ofUTF16, if_neg hpair, List.flatMap_cons, List.length_append,
      length_utf16_scalarOfUnit (h u List.mem_cons_self), ih hus, List.length_cons (a := u)]
    omega

/-- A replacement takes out the units of its range and puts in its own, whatever they pair up
with. -/
theorem utf16Length_of_replacingCharacters {text replacement text' : String} {range : NSRange}
    (h : replacingCharacters text range replacement = some text') :
    utf16Length text' = utf16Length text - range.length + utf16Length replacement := by
  rw [replacingCharacters] at h
  split at h
  · next hrange =>
    have hlt : ∀ (cs : List Char), ∀ u ∈ cs.flatMap utf16, u < 0x10000 := fun cs u hu ↦ by
      obtain ⟨c, -, hc⟩ := List.mem_flatMap.mp hu
      exact utf16_lt hc
    rw [← Option.some_inj.mp h, utf16Length, String.toList_ofList, length_flatMap_utf16_ofUTF16]
    · rw [utf16Length, utf16Length, List.length_append, List.length_append, List.length_take,
        List.length_drop]
      omega
    · intro u hu
      rcases List.mem_append.mp hu with hu | hu
      · rcases List.mem_append.mp hu with hu | hu
        · exact hlt _ u (List.mem_of_mem_take hu)
        · exact hlt _ u hu
      · exact hlt _ u (List.mem_of_mem_drop hu)
  · exact absurd h.symm (Option.some_ne_none text')

end Foundation
