import Poketrader.Regex.Syntax

/-!
# Matching by derivatives

The derivative of an expression by a letter matches what is left of the words that begin with that
letter. Reading a word letter by letter and asking at its end whether the empty word matches decides
whether the expression matches it, so a `Regex` can be evaluated.

An assertion is tested where the empty word is: with the letter last read on its left and the next
one on its right.
-/

namespace Regex

variable {α : Type*}

/-- `seq`, without the expressions that match nothing. -/
def seq' : Regex α → Regex α → Regex α
  | empty, _ => empty
  | r, s => seq r s

/-- `alt`, without the expressions that match nothing. -/
def alt' : Regex α → Regex α → Regex α
  | empty, s => s
  | r, empty => r
  | r, s => alt r s

/-- The empty word matches between these two neighbours. -/
def nullable (before after : Option α) : Regex α → Bool
  | empty | letter _ => false
  | epsilon | star _ => true
  | assertion test => test before after
  | seq r s => nullable before after r && nullable before after s
  | alt r s => nullable before after r || nullable before after s

/-- What the words that match and begin with `x` go on with. -/
def deriv (before : Option α) (x : α) : Regex α → Regex α
  | empty | epsilon | assertion _ => empty
  | letter set => if set x then epsilon else empty
  | seq r s =>
    if nullable before (some x) r then alt' (seq' (deriv before x r) s) (deriv before x s)
    else seq' (deriv before x r) s
  | alt r s => alt' (deriv before x r) (deriv before x s)
  | star r => seq' (deriv before x r) (star r)

/-- Whether the expression matches the word between the two neighbours. -/
def test (r : Regex α) (before : Option α) : List α → Option α → Bool
  | [], after => nullable before after r
  | x :: w, after => (deriv before x r).test (some x) w after

section

variable {before after : Option α} {w : List α}

theorem matches_seq'_iff {r s : Regex α} :
    Matches (seq' r s) before w after ↔ Matches (seq r s) before w after := by
  cases r with
  | empty =>
    refine iff_of_false not_matches_empty fun h ↦ ?_
    obtain ⟨u, v, -, hr, -⟩ := matches_seq_iff.mp h
    exact not_matches_empty hr
  | epsilon | letter _ | assertion _ | seq _ _ | alt _ _ | star _ => rfl

theorem matches_alt'_iff {r s : Regex α} :
    Matches (alt' r s) before w after ↔ Matches r before w after ∨ Matches s before w after := by
  unfold alt'
  split
  · exact (or_iff_right not_matches_empty).symm
  · exact (or_iff_left not_matches_empty).symm
  · exact matches_alt_iff

theorem nullable_iff {r : Regex α} :
    nullable before after r = true ↔ Matches r before [] after := by
  induction r with
  | empty => exact iff_of_false Bool.false_ne_true not_matches_empty
  | epsilon => exact iff_of_true rfl .epsilon
  | letter set =>
    refine iff_of_false Bool.false_ne_true fun h ↦ ?_
    obtain ⟨x, -, hx⟩ := matches_letter_iff.mp h
    exact absurd hx.symm (List.cons_ne_nil x [])
  | assertion test => rw [matches_assertion_iff, and_iff_left rfl, nullable]
  | seq r s ihr ihs =>
    rw [nullable, Bool.and_eq_true, ihr, ihs, matches_seq_iff]
    constructor
    · rintro ⟨hr, hs⟩
      exact ⟨[], [], rfl, hr, hs⟩
    · rintro ⟨u, v, huv, hr, hs⟩
      obtain ⟨rfl, rfl⟩ := List.append_eq_nil_iff.mp huv.symm
      exact ⟨hr, hs⟩
  | alt r s ihr ihs => rw [nullable, Bool.or_eq_true, ihr, ihs, matches_alt_iff]
  | star r _ => exact iff_of_true rfl .starNil

/-- A sequence that matches `x :: w` reads `x` in its first part, or passes over it. -/
theorem matches_seq_cons_iff {r s : Regex α} {x : α} :
    Matches (seq r s) before (x :: w) after ↔
      (∃ u v, w = u ++ v ∧ Matches r before (x :: u) (following v after) ∧
        Matches s (preceding (some x) u) v after) ∨
      (Matches r before [] (some x) ∧ Matches s before (x :: w) after) := by
  rw [matches_seq_iff]
  constructor
  · rintro ⟨u, v, huv, hr, hs⟩
    cases u with
    | nil =>
      obtain rfl : x :: w = v := huv
      exact Or.inr ⟨hr, hs⟩
    | cons y u =>
      obtain ⟨rfl, rfl⟩ := List.cons_eq_cons.mp huv
      exact Or.inl ⟨u, v, rfl, hr, by rwa [preceding_cons] at hs⟩
  · rintro (⟨u, v, rfl, hr, hs⟩ | ⟨hr, hs⟩)
    · exact ⟨x :: u, v, rfl, hr, by rwa [preceding_cons]⟩
    · exact ⟨[], x :: w, rfl, hr, hs⟩

/-- A repetition that matches `x :: w` reads `x` in some round, before which all are empty. -/
theorem matches_star_cons_iff {r : Regex α} {x : α} :
    Matches (star r) before (x :: w) after ↔
      ∃ u v, w = u ++ v ∧ Matches r before (x :: u) (following v after) ∧
        Matches (star r) (preceding (some x) u) v after := by
  constructor
  · intro h
    generalize hl : x :: w = l at h
    generalize hp : star r = p at h
    -- the induction passes over the empty rounds in front
    induction h with
    | epsilon | assertion _ | starNil => exact absurd hl (List.cons_ne_nil x w)
    | letter _ | seq _ _ _ _ | altLeft _ _ | altRight _ _ => cases hp
    | @starCons before after q u v hr hs _ ihs =>
      obtain rfl : r = q := by injection hp
      cases u with
      | nil => exact ihs hl rfl
      | cons y u =>
        obtain ⟨rfl, rfl⟩ := List.cons_eq_cons.mp hl
        exact ⟨u, v, rfl, hr, by rwa [preceding_cons] at hs⟩
  · rintro ⟨u, v, rfl, hr, hs⟩
    have h : Matches (star r) before ((x :: u) ++ v) after :=
      .starCons hr (by rwa [preceding_cons])
    exact h

/-- The derivative matches what is left after `x`. -/
theorem matches_deriv_iff {r : Regex α} {x : α} : ∀ {w : List α} {after : Option α},
    Matches (deriv before x r) (some x) w after ↔ Matches r before (x :: w) after := by
  induction r with
  | empty => exact iff_of_false not_matches_empty not_matches_empty
  | epsilon =>
    exact iff_of_false not_matches_empty fun h ↦
      absurd (matches_epsilon_iff.mp h) (List.cons_ne_nil _ _)
  | assertion test =>
    exact iff_of_false not_matches_empty fun h ↦
      absurd (matches_assertion_iff.mp h).2 (List.cons_ne_nil _ _)
  | letter set =>
    intro w after
    rw [deriv, matches_letter_iff]
    split
    · next hx =>
      rw [matches_epsilon_iff]
      constructor
      · rintro rfl
        exact ⟨x, hx, rfl⟩
      · rintro ⟨y, -, hy⟩
        exact (List.cons_eq_cons.mp hy).2
    · next hx =>
      refine iff_of_false not_matches_empty ?_
      rintro ⟨y, hy, hxy⟩
      exact hx ((List.cons_eq_cons.mp hxy).1 ▸ hy)
  | seq r s ihr ihs =>
    intro w after
    have hfirst : Matches (seq' (deriv before x r) s) (some x) w after ↔
        ∃ u v, w = u ++ v ∧ Matches r before (x :: u) (following v after) ∧
          Matches s (preceding (some x) u) v after := by
      rw [matches_seq'_iff, matches_seq_iff]
      simp only [ihr]
    rw [deriv, matches_seq_cons_iff]
    split
    · next hnull => rw [matches_alt'_iff, hfirst, ihs, and_iff_right (nullable_iff.mp hnull)]
    · next hnull =>
      rw [hfirst, or_iff_left]
      exact fun h ↦ hnull (nullable_iff.mpr h.1)
  | alt r s ihr ihs =>
    intro w after
    rw [deriv, matches_alt'_iff, ihr, ihs, matches_alt_iff]
  | star r ihr =>
    intro w after
    rw [deriv, matches_seq'_iff, matches_seq_iff, matches_star_cons_iff]
    simp only [ihr]

/-- **The matcher is correct.** -/
theorem test_iff {r : Regex α} : r.test before w after = true ↔ Matches r before w after := by
  induction w generalizing r before with
  | nil => exact nullable_iff
  | cons x w ih => rw [test, ih, matches_deriv_iff]

end

end Regex
