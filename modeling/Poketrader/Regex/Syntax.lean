import Mathlib.Data.List.Forall2
import Mathlib.Tactic.Common

/-!
# Regular expressions with assertions

Regular expressions over an arbitrary alphabet. Besides sets of letters there are assertions, which
match the empty word and look at the letters on both sides of it; the word boundary is the usual
one. The meaning of an expression is therefore a relation between a word and its two neighbours,
`none` where the text begins or ends.

## What is derived from the classes

A word that matches is made of letters the expression names (`Matches.uses`), and replacing letters
by ones that no set and no assertion of the expression tells apart keeps it matching
(`Matches.of_forall₂`).
-/

/-- Regular expressions over the alphabet `α`. -/
inductive Regex (α : Type*) where
  /-- Matches no word. -/
  | empty
  | epsilon
  /-- One letter of a set. -/
  | letter (set : α → Bool)
  /-- The empty word, where the letters before and after it pass the test. -/
  | assertion (test : Option α → Option α → Bool)
  | seq (r s : Regex α)
  | alt (r s : Regex α)
  | star (r : Regex α)

namespace Regex

variable {α : Type*}

/-- One or more. -/
def plus (r : Regex α) : Regex α := seq r (star r)

/-- None or one. -/
def opt (r : Regex α) : Regex α := alt r epsilon

/-- Two or more. -/
def twoOrMore (r : Regex α) : Regex α := seq r (plus r)

/-- `\b`: a letter of a word on exactly one side. -/
def wordBoundary (word : α → Bool) : Regex α :=
  assertion fun before after ↦ before.any word != after.any word

/-- The letter that follows a position, in front of `w` and what comes after it. -/
def following (w : List α) (after : Option α) : Option α := w.head?.or after

/-- The letter that precedes a position, behind `w` and what comes before it. -/
def preceding (before : Option α) (w : List α) : Option α := w.getLast?.or before

/-- Reading the first letter moves it from the word to its left neighbour. -/
@[simp] theorem preceding_cons (before : Option α) (x : α) (w : List α) :
    preceding before (x :: w) = preceding (some x) w := by
  rw [preceding, preceding, List.getLast?_cons, Option.some_or]
  cases w.getLast? with
  | none => rfl
  | some y => rfl

/-- The expression matches the word between its two neighbours. -/
inductive Matches : Regex α → Option α → List α → Option α → Prop
  | epsilon {before after : Option α} : Matches epsilon before [] after
  | letter {before after : Option α} {set : α → Bool} {x : α} (h : set x = true) :
    Matches (letter set) before [x] after
  | assertion {before after : Option α} {test : Option α → Option α → Bool}
      (h : test before after = true) : Matches (assertion test) before [] after
  | seq {before after : Option α} {r s : Regex α} {u v : List α}
      (hr : Matches r before u (following v after)) (hs : Matches s (preceding before u) v after) :
    Matches (seq r s) before (u ++ v) after
  | altLeft {before after : Option α} {r s : Regex α} {w : List α} (h : Matches r before w after) :
    Matches (alt r s) before w after
  | altRight {before after : Option α} {r s : Regex α} {w : List α}
      (h : Matches s before w after) : Matches (alt r s) before w after
  | starNil {before after : Option α} {r : Regex α} : Matches (star r) before [] after
  | starCons {before after : Option α} {r : Regex α} {u v : List α}
      (hr : Matches r before u (following v after))
      (hs : Matches (star r) (preceding before u) v after) :
    Matches (star r) before (u ++ v) after

/-! ## Inversion -/

section

variable {before after : Option α} {r s : Regex α} {w : List α}

theorem not_matches_empty : ¬Matches empty before w after := by
  intro h
  cases h

theorem matches_epsilon_iff : Matches epsilon before w after ↔ w = [] := by
  constructor
  · rintro ⟨⟩
    rfl
  · rintro rfl
    exact .epsilon

theorem matches_letter_iff {set : α → Bool} :
    Matches (letter set) before w after ↔ ∃ x, set x = true ∧ w = [x] := by
  constructor
  · rintro ⟨⟩
    exact ⟨_, ‹_›, rfl⟩
  · rintro ⟨x, hx, rfl⟩
    exact .letter hx

theorem matches_assertion_iff {test : Option α → Option α → Bool} :
    Matches (assertion test) before w after ↔ test before after = true ∧ w = [] := by
  constructor
  · rintro ⟨⟩
    exact ⟨‹_›, rfl⟩
  · rintro ⟨h, rfl⟩
    exact .assertion h

theorem matches_seq_iff : Matches (seq r s) before w after ↔
    ∃ u v, w = u ++ v ∧ Matches r before u (following v after) ∧
      Matches s (preceding before u) v after := by
  constructor
  · rintro ⟨⟩
    exact ⟨_, _, rfl, ‹_›, ‹_›⟩
  · rintro ⟨u, v, rfl, hr, hs⟩
    exact .seq hr hs

theorem matches_alt_iff :
    Matches (alt r s) before w after ↔ Matches r before w after ∨ Matches s before w after := by
  constructor
  · rintro (⟨h⟩ | ⟨h⟩)
    · exact Or.inl ‹_›
    · exact Or.inr ‹_›
  · rintro (h | h)
    · exact .altLeft h
    · exact .altRight h

end

/-! ## The letters of an expression -/

/-- The expression names the letter in one of its sets. -/
def Uses : Regex α → α → Prop
  | empty, _ | epsilon, _ | assertion _, _ => False
  | letter set, x => set x = true
  | seq r s, x | alt r s, x => Uses r x ∨ Uses s x
  | star r, x => Uses r x

/-- A word that matches is made of letters the expression names. -/
theorem Matches.uses {r : Regex α} {before after : Option α} {w : List α}
    (h : Matches r before w after) : ∀ x ∈ w, r.Uses x := by
  induction h with
  | epsilon | assertion _ | starNil => exact fun x hx ↦ absurd hx List.not_mem_nil
  | letter h => exact fun x hx ↦ List.mem_singleton.mp hx ▸ h
  | seq _ _ ihr ihs =>
    intro x hx
    rcases List.mem_append.mp hx with hx | hx
    · exact Or.inl (ihr x hx)
    · exact Or.inr (ihs x hx)
  | altLeft _ ih => exact fun x hx ↦ Or.inl (ih x hx)
  | altRight _ ih => exact fun x hx ↦ Or.inr (ih x hx)
  | starCons _ _ ihr ihs =>
    intro x hx
    rcases List.mem_append.mp hx with hx | hx
    · exact ihr x hx
    · exact ihs x hx

/-! ## Letters an expression does not tell apart -/

/-- No set and no assertion of the expression tells related letters apart. -/
def Respects (R : α → α → Prop) : Regex α → Prop
  | empty | epsilon => True
  | letter set => ∀ x y, R x y → set x = set y
  | assertion test => ∀ b b' a a', Option.Rel R b b' → Option.Rel R a a' → test b a = test b' a'
  | seq r s | alt r s => Respects R r ∧ Respects R s
  | star r => Respects R r

section

variable {R : α → α → Prop}

/-- A word boundary does not tell letters apart that are both in words or both not. -/
theorem respects_wordBoundary {word : α → Bool} (h : ∀ x y, R x y → word x = word y) :
    (wordBoundary word).Respects R := by
  have hany : ∀ {a b : Option α}, Option.Rel R a b → a.any word = b.any word := by
    intro a b hab
    cases hab with
    | none => rfl
    | some hxy => exact h _ _ hxy
  intro b b' a a' hb ha
  simp only [hany hb, hany ha]

theorem following_rel {v v' : List α} {after after' : Option α} (hv : List.Forall₂ R v v')
    (ha : Option.Rel R after after') :
    Option.Rel R (following v after) (following v' after') := by
  cases hv with
  | nil => exact ha
  | cons h _ => exact .some h

theorem preceding_rel {u u' : List α} (hu : List.Forall₂ R u u') :
    ∀ {before before' : Option α}, Option.Rel R before before' →
      Option.Rel R (preceding before u) (preceding before' u') := by
  induction hu with
  | nil => exact fun hb ↦ hb
  | cons h _ ih =>
    intro before before' _
    rw [preceding_cons, preceding_cons]
    exact ih (.some h)

/-- A list related to a concatenation splits at the same place. -/
theorem exists_split_of_forall₂ {u v w' : List α} (hw : List.Forall₂ R w' (u ++ v)) :
    ∃ u' v', w' = u' ++ v' ∧ List.Forall₂ R u' u ∧ List.Forall₂ R v' v :=
  ⟨w'.take u.length, w'.drop u.length, (List.take_append_drop u.length w').symm,
    List.forall₂_take_append w' u v hw, List.forall₂_drop_append w' u v hw⟩

/-- Related letters can be exchanged in a word that matches. -/
theorem Matches.of_forall₂ {r : Regex α} {before after : Option α} {w : List α}
    (h : Matches r before w after) :
    ∀ {before' after' : Option α} {w' : List α}, r.Respects R → Option.Rel R before' before →
      List.Forall₂ R w' w → Option.Rel R after' after → Matches r before' w' after' := by
  induction h with
  | epsilon =>
    intro before' after' w' _ _ hw _
    cases hw
    exact .epsilon
  | letter h =>
    intro before' after' w' hR _ hw _
    obtain ⟨y, l, hyx, hl, rfl⟩ := List.forall₂_cons_right_iff.mp hw
    cases hl
    exact .letter ((hR _ _ hyx).trans h)
  | assertion h =>
    intro before' after' w' hR hb hw ha
    cases hw
    exact .assertion ((hR _ _ _ _ hb ha).trans h)
  | seq _ _ ihr ihs =>
    intro before' after' w' hR hb hw ha
    obtain ⟨u', v', rfl, hu, hv⟩ := exists_split_of_forall₂ hw
    exact .seq (ihr hR.1 hb hu (following_rel hv ha)) (ihs hR.2 (preceding_rel hu hb) hv ha)
  | altLeft _ ih => exact fun hR hb hw ha ↦ .altLeft (ih hR.1 hb hw ha)
  | altRight _ ih => exact fun hR hb hw ha ↦ .altRight (ih hR.2 hb hw ha)
  | starNil =>
    intro before' after' w' _ _ hw _
    cases hw
    exact .starNil
  | starCons _ _ ihr ihs =>
    intro before' after' w' hR hb hw ha
    obtain ⟨u', v', rfl, hu, hv⟩ := exists_split_of_forall₂ hw
    exact .starCons (ihr hR hb hu (following_rel hv ha)) (ihs hR (preceding_rel hu hb) hv ha)

end

end Regex
