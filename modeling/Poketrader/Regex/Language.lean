import Mathlib.Data.List.Chain
import Mathlib.Data.List.Flatten
import Poketrader.Regex.Syntax

/-!
# The words of an expression without assertions

An expression without assertions does not look at its neighbours, so it has a language, and a
repetition of it matches the concatenations of its words. The last section is about one such
repetition: words made of some letters, with separators that stand alone between them.
-/

namespace Regex

variable {α : Type*}

/-- There is no assertion in the expression. -/
def Plain : Regex α → Prop
  | empty | epsilon | letter _ => True
  | assertion _ => False
  | seq r s | alt r s => Plain r ∧ Plain s
  | star r => Plain r

/-- The word matches, wherever it stands. -/
def Accepts (r : Regex α) (w : List α) : Prop := Matches r none w none

section

variable {before after : Option α} {r s : Regex α} {w : List α}

/-- A plain expression does not look at its neighbours. -/
theorem Matches.of_plain (h : Matches r before w after) (hr : Plain r) :
    ∀ before' after' : Option α, Matches r before' w after' := by
  induction h with
  | epsilon => exact fun _ _ ↦ .epsilon
  | letter h => exact fun _ _ ↦ .letter h
  | assertion _ => exact absurd hr id
  | seq _ _ ihr ihs => exact fun _ _ ↦ .seq (ihr hr.1 _ _) (ihs hr.2 _ _)
  | altLeft _ ih => exact fun _ _ ↦ .altLeft (ih hr.1 _ _)
  | altRight _ ih => exact fun _ _ ↦ .altRight (ih hr.2 _ _)
  | starNil => exact fun _ _ ↦ .starNil
  | starCons _ _ ihr ihs => exact fun _ _ ↦ .starCons (ihr hr _ _) (ihs hr _ _)

theorem Plain.matches_iff (hr : Plain r) : Matches r before w after ↔ r.Accepts w :=
  ⟨fun h ↦ h.of_plain hr none none, fun h ↦ Matches.of_plain h hr before after⟩

/-- A plain expression, and then another. -/
theorem Plain.matches_seq_iff (hr : Plain r) : Matches (seq r s) before w after ↔
    ∃ u v, w = u ++ v ∧ r.Accepts u ∧ Matches s (preceding before u) v after := by
  simp only [Regex.matches_seq_iff, hr.matches_iff]

theorem preceding_append (before : Option α) (u v : List α) :
    preceding before (u ++ v) = preceding (preceding before u) v := by
  rw [preceding, preceding, preceding, List.getLast?_append, Option.or_assoc]

theorem Plain.accepts_seq_iff (hr : Plain r) (hs : Plain s) :
    (seq r s).Accepts w ↔ ∃ u v, w = u ++ v ∧ r.Accepts u ∧ s.Accepts v := by
  rw [Accepts, hr.matches_seq_iff]
  simp only [hs.matches_iff]

/-- Two plain expressions, and then another. -/
theorem Plain.matches_seq_seq_iff {t : Regex α} (hr : Plain r) (hs : Plain s) :
    Matches (seq r (seq s t)) before w after ↔
      ∃ u v, w = u ++ v ∧ (seq r s).Accepts u ∧ Matches t (preceding before u) v after := by
  simp only [hr.accepts_seq_iff hs, hr.matches_seq_iff, hs.matches_seq_iff]
  constructor
  · rintro ⟨u, -, rfl, hu, v, x, rfl, hv, hx⟩
    exact ⟨u ++ v, x, (List.append_assoc u v x).symm, ⟨u, v, rfl, hu, hv⟩,
      by rwa [preceding_append]⟩
  · rintro ⟨-, x, rfl, ⟨u, v, rfl, hu, hv⟩, hx⟩
    exact ⟨u, v ++ x, List.append_assoc u v x, hu, v, x, rfl, hv, by rwa [preceding_append] at hx⟩

/-- A word boundary, and then another expression. -/
theorem matches_seq_wordBoundary_iff {word : α → Bool} :
    Matches (seq (wordBoundary word) r) before w after ↔
      (before.any word != (following w after).any word) = true ∧ Matches r before w after := by
  rw [matches_seq_iff]
  constructor
  · rintro ⟨u, v, rfl, hboundary, hr⟩
    obtain ⟨htest, rfl⟩ := matches_assertion_iff.mp hboundary
    exact ⟨htest, hr⟩
  · rintro ⟨htest, hr⟩
    exact ⟨[], w, rfl, .assertion htest, hr⟩

/-- A plain expression up to a word boundary at the end of the text. -/
theorem Plain.matches_seq_seq_wordBoundary_iff {word : α → Bool} (hr : Plain r) (hs : Plain s) :
    Matches (seq r (seq s (wordBoundary word))) before w none ↔
      (seq r s).Accepts w ∧ (preceding before w).any word = true := by
  rw [hr.matches_seq_seq_iff hs]
  constructor
  · rintro ⟨u, v, rfl, hu, hboundary⟩
    obtain ⟨htest, rfl⟩ := matches_assertion_iff.mp hboundary
    rw [List.append_nil]
    exact ⟨hu, by simpa using htest⟩
  · rintro ⟨hw, hword⟩
    exact ⟨w, [], (List.append_nil w).symm, hw, .assertion (by simpa using hword)⟩

/-! ## Repetition -/

/-- A repetition matches the concatenations of words of the expression. -/
theorem Plain.matches_star_iff (hr : Plain r) : Matches (star r) before w after ↔
    ∃ pieces : List (List α), w = pieces.flatten ∧ ∀ p ∈ pieces, r.Accepts p := by
  constructor
  · intro h
    generalize hp : star r = p at h
    induction h with
    | epsilon | assertion _ | letter _ | seq _ _ _ _ | altLeft _ _ | altRight _ _ => cases hp
    | starNil => exact ⟨[], rfl, fun p hp ↦ absurd hp List.not_mem_nil⟩
    | @starCons before after q u v hu _ _ ih =>
      obtain rfl : r = q := by injection hp
      obtain ⟨pieces, rfl, hpieces⟩ := ih rfl
      exact ⟨u :: pieces, rfl, List.forall_mem_cons.mpr ⟨hr.matches_iff.mp hu, hpieces⟩⟩
  · rintro ⟨pieces, rfl, hpieces⟩
    induction pieces generalizing before with
    | nil => exact .starNil
    | cons p pieces ih =>
      obtain ⟨hp, hpieces⟩ := List.forall_mem_cons.mp hpieces
      exact .starCons (hr.matches_iff.mpr hp) (ih hpieces)

theorem Plain.accepts_plus_iff (hr : Plain r) : (plus r).Accepts w ↔
    ∃ pieces : List (List α), pieces ≠ [] ∧ w = pieces.flatten ∧ ∀ p ∈ pieces, r.Accepts p := by
  rw [Accepts, plus, hr.matches_seq_iff]
  simp only [hr.matches_star_iff]
  constructor
  · rintro ⟨u, -, rfl, hu, pieces, rfl, hpieces⟩
    exact ⟨u :: pieces, List.cons_ne_nil u pieces, rfl, List.forall_mem_cons.mpr ⟨hu, hpieces⟩⟩
  · rintro ⟨pieces, hne, rfl, hpieces⟩
    obtain ⟨p, pieces, rfl⟩ := List.exists_cons_of_ne_nil hne
    obtain ⟨hp, hpieces⟩ := List.forall_mem_cons.mp hpieces
    exact ⟨p, pieces.flatten, rfl, hp, pieces, rfl, hpieces⟩

variable {set : α → Bool}

/-- One or more letters of a set. -/
theorem accepts_plus_letter_iff :
    (plus (letter set)).Accepts w ↔ w ≠ [] ∧ ∀ x ∈ w, set x = true := by
  have hplain : Plain (letter set) := trivial
  rw [hplain.accepts_plus_iff]
  constructor
  · rintro ⟨pieces, hne, rfl, hpieces⟩
    constructor
    · intro hnil
      obtain ⟨p, pieces, rfl⟩ := List.exists_cons_of_ne_nil hne
      obtain ⟨x, -, hx⟩ := matches_letter_iff.mp (hpieces p List.mem_cons_self)
      rw [List.flatten_cons, hx] at hnil
      exact absurd hnil (List.cons_ne_nil _ _)
    · intro x hx
      obtain ⟨p, hp, hxp⟩ := List.mem_flatten.mp hx
      obtain ⟨y, hy, rfl⟩ := matches_letter_iff.mp (hpieces p hp)
      rwa [List.mem_singleton.mp hxp]
  · rintro ⟨hne, hset⟩
    refine ⟨w.map fun x ↦ [x], by simpa using hne, (List.flatMap_singleton' w).symm, ?_⟩
    intro p hp
    obtain ⟨x, hx, rfl⟩ := List.mem_map.mp hp
    exact .letter (hset x hx)

/-- Two or more letters of a set. -/
theorem accepts_twoOrMore_letter_iff :
    (twoOrMore (letter set)).Accepts w ↔ 2 ≤ w.length ∧ ∀ x ∈ w, set x = true := by
  have hplain : Plain (letter set) := trivial
  have hplus : Plain (plus (letter set)) := ⟨trivial, trivial⟩
  rw [twoOrMore, hplain.accepts_seq_iff hplus]
  simp only [accepts_plus_letter_iff]
  constructor
  · rintro ⟨u, v, rfl, hu, hne, hset⟩
    obtain ⟨x, hx, rfl⟩ := matches_letter_iff.mp hu
    refine ⟨?_, List.forall_mem_cons.mpr ⟨hx, hset⟩⟩
    rw [List.singleton_append, List.length_cons]
    exact Nat.succ_le_succ (List.length_pos_iff.mpr hne)
  · rintro ⟨hlength, hset⟩
    rcases w with - | ⟨x, w⟩
    · exact absurd hlength (by simp)
    · obtain ⟨hx, hw⟩ := List.forall_mem_cons.mp hset
      have hne : w ≠ [] := List.length_pos_iff.mp (Nat.le_of_succ_le_succ hlength)
      exact ⟨[x], w, rfl, .letter hx, hne, hw⟩

end

/-! ## Separators that stand alone -/

/-- Members and separators, with no separator at the end and no two side by side. -/
structure Separated (member separator : α → Bool) (w : List α) : Prop where
  mem : ∀ x ∈ w, member x = true ∨ separator x = true
  chain : w.IsChain fun x y ↦ ¬(separator x = true ∧ separator y = true)
  last : ∀ x ∈ w.getLast?, separator x = false

/-- Members, behind one separator or none. -/
def Piece (member separator : α → Bool) (w : List α) : Prop :=
  ∃ u, u ≠ [] ∧ (∀ x ∈ u, member x = true) ∧ (w = u ∨ ∃ x, separator x = true ∧ w = x :: u)

section

variable {member separator : α → Bool} {w u : List α}

theorem Separated.tail {x : α} (h : Separated member separator (x :: w)) :
    Separated member separator w where
  mem y hy := h.mem y (List.mem_cons_of_mem x hy)
  chain := h.chain.tail
  last y hy := by
    refine h.last y ?_
    rw [List.getLast?_cons, Option.mem_def.mp hy]
    rfl

/-- Two separators side by side would have to be the end of the one word and the head of the
other. -/
theorem Separated.append (hw : Separated member separator w) (hu : Separated member separator u)
    (hne : u ≠ []) : Separated member separator (w ++ u) where
  mem x hx := (List.mem_append.mp hx).elim (hw.mem x) (hu.mem x)
  chain := by
    refine hw.chain.append hu.chain fun x hx y _ hxy ↦ ?_
    rw [hw.last x hx] at hxy
    exact Bool.false_ne_true hxy.1
  last x hx := by
    rw [List.getLast?_append_of_ne_nil w hne] at hx
    exact hu.last x hx

theorem separated_of_members (hdisjoint : ∀ x, member x = true → separator x = false)
    (h : ∀ x ∈ w, member x = true) : Separated member separator w where
  mem x hx := .inl (h x hx)
  chain := by
    refine (List.pairwise_of_forall_mem_list fun x hx y _ hxy ↦ ?_).isChain
    rw [hdisjoint x (h x hx)] at hxy
    exact Bool.false_ne_true hxy.1
  last x hx := hdisjoint x (h x (List.mem_of_getLast? hx))

theorem Piece.ne_nil (h : Piece member separator w) : w ≠ [] := by
  obtain ⟨u, hne, -, rfl | ⟨x, -, rfl⟩⟩ := h
  · exact hne
  · exact List.cons_ne_nil x u

theorem Piece.separated (hdisjoint : ∀ x, member x = true → separator x = false)
    (h : Piece member separator w) : Separated member separator w := by
  obtain ⟨u, hne, hu, rfl | ⟨x, hx, rfl⟩⟩ := h
  · exact separated_of_members hdisjoint hu
  · have hsep : Separated member separator u := separated_of_members hdisjoint hu
    refine ⟨List.forall_mem_cons.mpr ⟨.inr hx, hsep.mem⟩, hsep.chain.cons fun y hy hxy ↦ ?_, ?_⟩
    · rw [hdisjoint y (hu y (List.mem_of_mem_head? hy))] at hxy
      exact Bool.false_ne_true hxy.2
    · rw [List.getLast?_cons_of_ne_nil hne]
      exact hsep.last

/-- Pieces keep a word separated. -/
theorem Separated.append_flatten (hdisjoint : ∀ x, member x = true → separator x = false)
    {pieces : List (List α)} (hpieces : ∀ p ∈ pieces, Piece member separator p)
    (hw : Separated member separator w) : Separated member separator (w ++ pieces.flatten) := by
  induction pieces generalizing w with
  | nil => rwa [List.flatten_nil, List.append_nil]
  | cons p pieces ih =>
    obtain ⟨hp, hpieces⟩ := List.forall_mem_cons.mp hpieces
    rw [List.flatten_cons, ← List.append_assoc]
    exact ih hpieces (hw.append (hp.separated hdisjoint) hp.ne_nil)

/-- A separated word falls into pieces: a separator goes with the member behind it. -/
theorem Separated.exists_pieces : ∀ {w : List α}, Separated member separator w →
    ∃ pieces : List (List α), w = pieces.flatten ∧ ∀ p ∈ pieces, Piece member separator p
  | [], _ => ⟨[], rfl, fun p hp ↦ absurd hp List.not_mem_nil⟩
  | [x], h => by
    have hx : member x = true := by
      refine (h.mem x List.mem_cons_self).resolve_right ?_
      rw [h.last x rfl]
      exact Bool.false_ne_true
    refine ⟨[[x]], rfl, fun p hp ↦ ?_⟩
    rw [List.mem_singleton.mp hp]
    exact ⟨[x], List.cons_ne_nil x [], by simpa using hx, .inl rfl⟩
  | x :: y :: w, h => by
    by_cases hx : separator x = true
    · have hy : member y = true := by
        refine (h.mem y (by simp)).resolve_right fun hy ↦ ?_
        exact (List.isChain_cons_cons.mp h.chain).1 ⟨hx, hy⟩
      obtain ⟨pieces, hw, hpieces⟩ := exists_pieces h.tail.tail
      refine ⟨[x, y] :: pieces, by rw [hw]; rfl, List.forall_mem_cons.mpr ⟨?_, hpieces⟩⟩
      exact ⟨[y], List.cons_ne_nil y [], by simpa using hy, .inr ⟨x, hx, rfl⟩⟩
    · have hx : member x = true := (h.mem x List.mem_cons_self).resolve_right hx
      obtain ⟨pieces, hw, hpieces⟩ := exists_pieces h.tail
      refine ⟨[x] :: pieces, by rw [hw]; rfl, List.forall_mem_cons.mpr ⟨?_, hpieces⟩⟩
      exact ⟨[x], List.cons_ne_nil x [], by simpa using hx, .inl rfl⟩

variable {sep : Regex α}

theorem accepts_piece_iff (hplain : Plain sep)
    (hsep : ∀ w, sep.Accepts w ↔ ∃ x, separator x = true ∧ w = [x]) :
    (seq (opt sep) (plus (letter member))).Accepts w ↔ Piece member separator w := by
  have hopt : Plain (opt sep) := ⟨hplain, trivial⟩
  have hplus : Plain (plus (letter member)) := ⟨trivial, trivial⟩
  have haccepts : ∀ v, (opt sep).Accepts v ↔ (∃ x, separator x = true ∧ v = [x]) ∨ v = [] := by
    intro v
    rw [Accepts, opt, matches_alt_iff, matches_epsilon_iff, ← hsep v, Accepts]
  rw [hopt.accepts_seq_iff hplus]
  simp only [accepts_plus_letter_iff, haccepts]
  constructor
  · rintro ⟨v, u, rfl, ⟨x, hx, rfl⟩ | rfl, hne, hu⟩
    · exact ⟨u, hne, hu, .inr ⟨x, hx, rfl⟩⟩
    · exact ⟨u, hne, hu, .inl rfl⟩
  · rintro ⟨u, hne, hu, rfl | ⟨x, hx, rfl⟩⟩
    · exact ⟨[], w, rfl, .inr rfl, hne, hu⟩
    · exact ⟨[x], u, rfl, .inl ⟨x, hx, rfl⟩, hne, hu⟩

/-- **Members, then pieces:** the separated words of at least two letters that begin with a
member. -/
theorem accepts_separated_iff (hdisjoint : ∀ x, member x = true → separator x = false)
    (hplain : Plain sep) (hsep : ∀ w, sep.Accepts w ↔ ∃ x, separator x = true ∧ w = [x]) :
    (seq (plus (letter member)) (plus (seq (opt sep) (plus (letter member))))).Accepts w ↔
      2 ≤ w.length ∧ (∃ x ∈ w.head?, member x = true) ∧ Separated member separator w := by
  have hmembers : Plain (plus (letter member)) := ⟨trivial, trivial⟩
  have hpiece : Plain (seq (opt sep) (plus (letter member))) :=
    ⟨⟨hplain, trivial⟩, trivial, trivial⟩
  have hpieces : Plain (plus (seq (opt sep) (plus (letter member)))) := ⟨hpiece, hpiece⟩
  rw [hmembers.accepts_seq_iff hpieces]
  simp only [hpiece.accepts_plus_iff, accepts_plus_letter_iff, accepts_piece_iff hplain hsep]
  constructor
  · rintro ⟨u, v, rfl, ⟨hne, hu⟩, pieces, hpieces, rfl, hpiece⟩
    obtain ⟨x, u, rfl⟩ := List.exists_cons_of_ne_nil hne
    obtain ⟨p, pieces, rfl⟩ := List.exists_cons_of_ne_nil hpieces
    refine ⟨?_, ⟨x, rfl, hu x List.mem_cons_self⟩,
      (separated_of_members hdisjoint hu).append_flatten hdisjoint hpiece⟩
    have hp : 0 < p.length := List.length_pos_iff.mpr (hpiece p List.mem_cons_self).ne_nil
    rw [List.length_append, List.flatten_cons, List.length_append, List.length_cons]
    omega
  · rintro ⟨hlength, ⟨x, hhead, hx⟩, hw⟩
    obtain ⟨w, rfl⟩ := List.head?_eq_some_iff.mp hhead
    obtain ⟨pieces, rfl, hpiece⟩ := hw.tail.exists_pieces
    refine ⟨[x], pieces.flatten, rfl, ⟨List.cons_ne_nil x [], by simpa using hx⟩, pieces, ?_, rfl,
      hpiece⟩
    rintro rfl
    exact absurd hlength (by simp)

end

end Regex
