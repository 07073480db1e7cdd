import Mathlib.Data.List.Infix
import Poketrader.Foundation.UTF16

/-!
# The text before a range and after it

A replacement keeps the units before its range and those after it. Each of the two reads as a text
of its own, and the new text is these two with the replacement between them, but for one case: the
replacement is empty, the units before the range end in the first half of a pair and those after it
begin with the second half of one. Then the halves meet, and read as a scalar together.
-/

namespace Foundation

/-- The units before the range, read as a text. -/
def textBefore (text : String) (range : NSRange) : String :=
  String.ofList (ofUTF16 ((text.toList.flatMap utf16).take range.location))

/-- The units after the range, read as a text. -/
def textAfter (text : String) (range : NSRange) : String :=
  String.ofList (ofUTF16 ((text.toList.flatMap utf16).drop (range.location + range.length)))

/-- The range does not reach beyond the text. -/
def NSRange.Within (range : NSRange) (text : String) : Prop :=
  range.location + range.length ≤ (text.toList.flatMap utf16).length

instance (range : NSRange) (text : String) : Decidable (range.Within text) :=
  inferInstanceAs (Decidable (_ ≤ _))

/-- The last unit of the one sequence and the first of the other make up a pair. -/
def halvesMeet (us vs : List ℕ) : Bool :=
  us.getLast?.any isHighSurrogate && vs.head?.any isLowSurrogate

/-- Replacing the range lets two halves meet that were not a scalar's. -/
def rejoins (text : String) (range : NSRange) (replacement : String) : Bool :=
  replacement = "" && halvesMeet ((text.toList.flatMap utf16).take range.location)
    ((text.toList.flatMap utf16).drop (range.location + range.length))

/-! ## Reading two sequences as one -/

theorem isLowSurrogate_of_isHighSurrogate {u : ℕ} (h : isHighSurrogate u = true) :
    isLowSurrogate u = false := by
  simp only [isHighSurrogate, Bool.and_eq_true, decide_eq_true_eq] at h
  simp only [isLowSurrogate, Bool.and_eq_false_iff, decide_eq_false_iff_not]
  omega

theorem isHighSurrogate_of_isLowSurrogate {u : ℕ} (h : isLowSurrogate u = true) :
    isHighSurrogate u = false := by
  simp only [isLowSurrogate, Bool.and_eq_true, decide_eq_true_eq] at h
  simp only [isHighSurrogate, Bool.and_eq_false_iff, decide_eq_false_iff_not]
  omega

/-- Two sequences read as their two texts, unless halves meet between them. -/
theorem ofUTF16_append {us vs : List ℕ} (h : halvesMeet us vs = false) :
    ofUTF16 (us ++ vs) = ofUTF16 us ++ ofUTF16 vs := by
  induction us using ofUTF16.induct with
  | case1 => rfl
  | case2 u =>
    rcases vs with - | ⟨v, vs⟩
    · rfl
    · have hpair : ¬(isHighSurrogate u && isLowSurrogate v) = true := by
        rw [Bool.not_eq_true]
        exact h
      rw [List.singleton_append, ofUTF16, ofUTF16, if_neg hpair, List.singleton_append]
  | case3 u v us hpair ih =>
    have hus : halvesMeet us vs = false := by
      rcases us with - | ⟨w, us⟩
      · rfl
      · exact h
    rw [List.cons_append, List.cons_append, ofUTF16, if_pos hpair, ih hus, ofUTF16, if_pos hpair,
      List.cons_append]
  | case4 u v us hpair ih =>
    rw [List.cons_append, List.cons_append, ofUTF16, if_neg hpair, ← List.cons_append, ih h,
      ofUTF16, if_neg hpair, List.cons_append]

/-- Whole scalars are read back, whatever follows. -/
theorem ofUTF16_flatMap_append (cs : List Char) (us : List ℕ) :
    ofUTF16 (cs.flatMap utf16 ++ us) = cs ++ ofUTF16 us := by
  induction cs with
  | nil => rfl
  | cons c cs ih =>
    rw [List.flatMap_cons, List.append_assoc, ofUTF16_utf16_append, ih, List.cons_append]

/-- No half meets a scalar. -/
theorem halvesMeet_utf16 (us : List ℕ) (c : Char) (vs : List ℕ) :
    halvesMeet us (utf16 c ++ vs) = false := by
  obtain ⟨u, hunits, -, hlow, -⟩ | ⟨u, v, hunits, hhigh, -, -⟩ := utf16_cases c
  · rw [hunits, halvesMeet, List.singleton_append, List.head?_cons, Option.any_some, hlow,
      Bool.and_false]
  · rw [hunits, halvesMeet, List.cons_append, List.head?_cons, Option.any_some,
      isLowSurrogate_of_isHighSurrogate hhigh, Bool.and_false]

/-- A replacement within the text, but for the case in which halves meet. -/
theorem replacingCharacters_eq {text replacement : String} {range : NSRange}
    (hrange : range.Within text) (h : rejoins text range replacement = false) :
    replacingCharacters text range replacement
      = some (textBefore text range ++ replacement ++ textAfter text range) := by
  have hle : range.location + range.length ≤ (text.toList.flatMap utf16).length := hrange
  rw [replacingCharacters, if_pos hle, Option.some_inj, ← String.toList_inj, String.toList_ofList,
    String.toList_append, String.toList_append, textBefore, textAfter, String.toList_ofList,
    String.toList_ofList]
  rcases hreplacement : replacement.toList with - | ⟨c, cs⟩
  · rw [String.toList_eq_nil_iff] at hreplacement
    rw [rejoins, decide_eq_true hreplacement, Bool.true_and] at h
    rw [List.flatMap_nil, List.append_nil, ofUTF16_append h, List.append_nil]
  · rw [List.append_assoc, List.flatMap_cons, List.append_assoc,
      ofUTF16_append (halvesMeet_utf16 _ c _), ← List.append_assoc, ← List.flatMap_cons,
      ofUTF16_flatMap_append, List.append_assoc]

/-! ## What is kept of the characters of a set -/

section

variable {set : Char → Bool}

/-- A half does not read as a character of a set without the replacement character. -/
theorem filter_scalarOfUnit (hset : set '\uFFFD' = false) {u : ℕ}
    (hu : (isHighSurrogate u || isLowSurrogate u) = true) (cs : List Char) :
    (scalarOfUnit u :: cs).filter set = cs.filter set := by
  refine List.filter_cons_of_neg ?_
  rw [scalarOfUnit, if_pos hu, hset]
  exact Bool.false_ne_true

/-- The characters of a set in a text are those before a range, some more, and those after it. -/
theorem exists_filter_eq (hset : set '\uFFFD' = false) (cs : List Char) {i j : ℕ} (hij : i ≤ j) :
    ∃ mid, cs.filter set = (ofUTF16 ((cs.flatMap utf16).take i)).filter set ++ mid
      ++ (ofUTF16 ((cs.flatMap utf16).drop j)).filter set := by
  induction cs generalizing i j with
  | nil => exact ⟨[], by rw [List.flatMap_nil, List.take_nil, List.drop_nil]; rfl⟩
  | cons c cs ih =>
    have hcons : (c :: cs).filter set = [c].filter set ++ cs.filter set :=
      List.filter_append [c] cs
    rw [List.flatMap_cons, hcons]
    by_cases hi : (utf16 c).length ≤ i
    · -- the scalar is before the range
      obtain ⟨mid, hmid⟩ := ih (Nat.sub_le_sub_right hij (utf16 c).length)
      refine ⟨mid, ?_⟩
      rw [List.take_append, List.take_of_length_le hi, ofUTF16_utf16_append, List.drop_append,
        List.drop_of_length_le (hi.trans hij), List.nil_append, hmid]
      simp only [List.filter_cons, List.filter_nil]
      split <;> rfl
    · rw [Nat.not_le] at hi
      have hbefore : (ofUTF16 ((utf16 c ++ cs.flatMap utf16).take i)).filter set = [] := by
        rw [List.take_append_of_le_length hi.le]
        obtain ⟨u, hunits, -⟩ | ⟨u, v, hunits, hhigh, -⟩ := utf16_cases c
        · rw [hunits, List.length_singleton, Nat.lt_one_iff] at hi
          rw [hi]
          rfl
        · rw [hunits] at hi ⊢
          rcases i with - | i
          · rfl
          · obtain rfl : i = 0 := Nat.lt_one_iff.mp (Nat.lt_of_succ_lt_succ hi)
            exact filter_scalarOfUnit hset (by rw [hhigh, Bool.true_or]) []
      simp only [hbefore, List.nil_append]
      by_cases hj : (utf16 c).length ≤ j
      · -- the range reaches the end of the scalar, or beyond
        obtain ⟨mid, hmid⟩ := ih (Nat.zero_le (j - (utf16 c).length))
        refine ⟨[c].filter set ++ mid, ?_⟩
        rw [List.drop_append, List.drop_of_length_le hj, List.nil_append, hmid, List.append_assoc,
          List.append_assoc]
        rfl
      · rw [Nat.not_le] at hj
        rcases j with - | j
        · refine ⟨[], ?_⟩
          rw [List.drop_zero, ofUTF16_utf16_append, ofUTF16_flatMap_utf16, hcons, List.nil_append]
        · -- the range ends between the two units of the scalar
          refine ⟨[c].filter set, ?_⟩
          obtain ⟨u, hunits, -⟩ | ⟨u, v, hunits, -, hlow, -⟩ := utf16_cases c
          · rw [hunits] at hj
            exact absurd hj (by simp)
          · rw [hunits] at hj ⊢
            obtain rfl : j = 0 := Nat.lt_one_iff.mp (Nat.lt_of_succ_lt_succ hj)
            rw [List.cons_append, List.singleton_append, List.drop_succ_cons, List.drop_zero,
              ofUTF16_cons (isHighSurrogate_of_isLowSurrogate hlow),
              filter_scalarOfUnit hset (by rw [hlow, Bool.or_true]), ofUTF16_flatMap_utf16]

end

end Foundation
