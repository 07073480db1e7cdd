import Mathlib.Data.List.Forall2
import Poketrader.Foundation.Platform
import Poketrader.Foundation.Text

/-!
# Lowercasing

What is relied on where a text is compared with its lowercased copy: `lowercased` maps a text scalar
by scalar, makes no blank of anything but a blank, and what it maps to a letter of the ASCII range
is that letter, the capital one, or the Kelvin sign. A mapping may depend on the context and may
consist of several scalars, so nothing is assumed of the others.
-/

namespace Foundation

/-- The ASCII scalars, and the two others that fold to one of them: the long s and the Kelvin
sign. -/
def FoldsToASCII (c : Char) : Prop := c.toNat < 128 ∨ c.toNat = 0x17F ∨ c.toNat = 0x212A

/-- `d` is `c` in lower case, for these. -/
def Lowers (c d : Char) : Prop := d = c.toLower ∨ c = '\u212A' ∧ d = 'k'

/-- What a scalar may become. -/
structure LowercaseMapping (c : Char) (piece : List Char) : Prop where
  whitespaces : ∀ d ∈ piece, whitespaces d = true → Foundation.whitespaces c = true
  lowers : (∀ d ∈ piece, FoldsToASCII d) → ∃ d, piece = [d] ∧ Lowers c d

/-- Texts are lowercased scalar by scalar. -/
def Platform.LowercasesScalars (P : Platform) : Prop :=
  ∀ text, ∃ pieces, P.lowercased text = String.ofList pieces.flatten ∧
    List.Forall₂ LowercaseMapping text.toList pieces

/-! ## Lists of scalars -/

section

variable {cs : List Char} {pieces : List (List Char)}

/-- Lowercasing makes no blanks. -/
theorem no_whitespaces_of_forall₂ (h : List.Forall₂ LowercaseMapping cs pieces)
    (hcs : ∀ c ∈ cs, whitespaces c = false) : ∀ d ∈ pieces.flatten, whitespaces d = false := by
  induction h with
  | nil => exact fun d hd ↦ absurd hd List.not_mem_nil
  | @cons c piece cs pieces hc _ ih =>
    intro d hd
    rw [List.flatten_cons, List.mem_append] at hd
    rcases hd with hd | hd
    · by_contra hblank
      have hc' := hc.whitespaces d hd (Bool.not_eq_false _ ▸ hblank)
      exact Bool.false_ne_true ((hcs c List.mem_cons_self).symm.trans hc')
    · exact ih (fun c hc ↦ hcs c (List.mem_cons_of_mem _ hc)) d hd

/-- Where the outcome is in the ASCII range, it is so scalar for scalar. -/
theorem forall₂_lowers (h : List.Forall₂ LowercaseMapping cs pieces)
    (hd : ∀ d ∈ pieces.flatten, FoldsToASCII d) : List.Forall₂ Lowers cs pieces.flatten := by
  induction h with
  | nil => exact .nil
  | @cons c piece cs pieces hc _ ih =>
    simp only [List.flatten_cons, List.mem_append] at hd
    obtain ⟨d, rfl, hcd⟩ := hc.lowers fun d hpiece ↦ hd d (Or.inl hpiece)
    rw [List.flatten_cons, List.singleton_append]
    exact .cons hcd (ih fun d hpieces ↦ hd d (Or.inr hpieces))

theorem exists_lowers_of_mem {ds : List Char} (h : List.Forall₂ Lowers cs ds) {c : Char}
    (hc : c ∈ cs) : ∃ d ∈ ds, Lowers c d := by
  induction h with
  | nil => exact absurd hc List.not_mem_nil
  | @cons c' d cs ds hcd _ ih =>
    rcases List.mem_cons.mp hc with rfl | hc
    · exact ⟨d, List.mem_cons_self, hcd⟩
    · obtain ⟨d', hd', hcd'⟩ := ih hc
      exact ⟨d', List.mem_cons_of_mem _ hd', hcd'⟩

end

/-! ## The platform that maps scalar by scalar -/

def capitals : List Char := "ABCDEFGHIJKLMNOPQRSTUVWXYZ".toList

/-- Only a capital letter differs from its lower case. -/
theorem toLower_eq_or_mem (c : Char) : c.toLower = c ∨ c ∈ capitals := by
  by_cases h : c.val ≥ 'A'.val ∧ c.val ≤ 'Z'.val
  · right
    have hlow : 65 ≤ c.toNat := h.1
    have hhigh : c.toNat ≤ 90 := h.2
    have hall : ∀ k < 26, Char.ofNat (65 + k) ∈ capitals := by decide
    have hc := hall (c.toNat - 65) (by omega)
    rwa [Nat.add_sub_cancel' hlow, Char.ofNat_toNat] at hc
  · left
    exact dif_neg h

theorem lowercaseMapping_toLower (c : Char) : LowercaseMapping c [c.toLower] where
  whitespaces d hd := by
    rw [List.mem_singleton] at hd
    subst hd
    rcases toLower_eq_or_mem c with h | h
    · rw [h]
      exact id
    · -- no capital letter becomes a blank
      have hcapitals : capitals.all (fun c ↦ !whitespaces c.toLower) = true := by decide
      have hblank := List.all_eq_true.mp hcapitals c h
      rw [Bool.not_eq_true'] at hblank
      exact fun hlower ↦ absurd (hlower.symm.trans hblank) (by decide)
  lowers _ := ⟨c.toLower, rfl, Or.inl rfl⟩

theorem scalarwise_lowercasesScalars : Platform.scalarwise.LowercasesScalars := by
  intro text
  refine ⟨text.toList.map fun c ↦ [c.toLower], ?_, ?_⟩
  · exact congrArg String.ofList (List.map_eq_flatMap.trans List.flatMap_def)
  · rw [List.forall₂_map_right_iff]
    exact List.forall₂_same.mpr fun c _ ↦ lowercaseMapping_toLower c

/-! ## Capitalizing -/

/-- The scalars of the ASCII range, without the one that forms a character with its successor. -/
def Ascii (text : String) : Prop := ∀ c ∈ text.toList, c.toNat < 128 ∧ c ≠ '\r'

/-- In these texts every scalar is a character, and the case mappings are those of the range. -/
structure Platform.MapsASCII (P : Platform) : Prop where
  characters : ∀ text, Ascii text → P.characters text = text.toList.map String.singleton
  uppercased : ∀ text, Ascii text →
    P.uppercased text = String.ofList (text.toList.map Char.toUpper)
  lowercased : ∀ text, Ascii text →
    P.lowercased text = String.ofList (text.toList.map Char.toLower)

theorem scalarwise_mapsASCII : Platform.scalarwise.MapsASCII where
  characters _ _ := rfl
  uppercased _ _ := rfl
  lowercased _ _ := rfl

/-- What the names in a catalog are made of. -/
def nameCharacters : List Char := "abcdefghijklmnopqrstuvwxyz0123456789-".toList

def IsName (text : String) : Prop := ∀ c ∈ text.toList, c ∈ nameCharacters

instance : DecidablePred IsName := fun text ↦
  List.decidableBAll (fun c ↦ c ∈ nameCharacters) text.toList

theorem cases_nameCharacters : ∀ c ∈ nameCharacters, c.toLower = c ∧ c.toUpper.toLower = c ∧
    (c.toNat < 128 ∧ c ≠ '\r') ∧ c.toUpper.toNat < 128 ∧ c.toUpper ≠ '\r' := by
  have hall : nameCharacters.all (fun c ↦ c.toLower = c ∧ c.toUpper.toLower = c ∧
      (c.toNat < 128 ∧ c ≠ '\r') ∧ c.toUpper.toNat < 128 ∧ c.toUpper ≠ '\r') = true := by decide
  exact fun c hc ↦ of_decide_eq_true (List.all_eq_true.mp hall c hc)

theorem join_map_singleton (l : List Char) :
    String.join (l.map String.singleton) = String.ofList l := by
  induction l with
  | nil => rfl
  | cons c l ih =>
    rw [List.map_cons, String.join_cons, ih, String.singleton_eq_ofList, ← String.ofList_append,
      List.singleton_append]

theorem map_toLower {l : List Char} (hl : ∀ c ∈ l, c ∈ nameCharacters) :
    l.map Char.toLower = l := by
  have hmap := List.map_congr_left (g := id) fun c hc ↦ (cases_nameCharacters c (hl c hc)).1
  rw [hmap, List.map_id]

/-- A name that has been capitalized is itself again in lower case. -/
theorem lowercased_capitalizingFirstLetter {P : Platform} (hP : P.MapsASCII) {name : String}
    (hname : IsName name) : P.lowercased (P.capitalizingFirstLetter name) = name := by
  have hascii : Ascii name := fun c hc ↦ (cases_nameCharacters c (hname c hc)).2.2.1
  have hlower : P.lowercased name = name := by
    rw [hP.lowercased name hascii, map_toLower hname, String.ofList_toList]
  rw [Platform.capitalizingFirstLetter, hlower, hP.characters name hascii, ← List.map_take,
    ← List.map_drop, join_map_singleton, join_map_singleton]
  rw [IsName] at hname
  rcases hlist : name.toList with - | ⟨c, cs⟩
  · obtain rfl := String.toList_eq_nil_iff.mp hlist
    have hempty : P.uppercased "" = "" := hP.uppercased "" hascii
    rw [List.take_nil, List.drop_nil, String.ofList_nil, hempty]
    exact hlower
  · rw [hlist] at hname
    obtain ⟨-, hupper, hc, hcupper⟩ := cases_nameCharacters c (hname c List.mem_cons_self)
    have hcs : ∀ d ∈ cs, d ∈ nameCharacters := fun d hd ↦ hname d (List.mem_cons_of_mem _ hd)
    have hfirst : P.uppercased (String.ofList [c]) = String.ofList [c.toUpper] := by
      refine (hP.uppercased _ fun d hd ↦ ?_).trans (by simp)
      rw [String.toList_ofList, List.mem_singleton] at hd
      exact hd ▸ hc
    rw [List.take_succ_cons, List.take_zero, List.drop_succ_cons, List.drop_zero, hfirst,
      ← String.ofList_append, List.singleton_append, hP.lowercased]
    · rw [String.toList_ofList, List.map_cons, hupper, map_toLower hcs, ← hlist,
        String.ofList_toList]
    · intro d hd
      rw [String.toList_ofList] at hd
      rcases List.mem_cons.mp hd with rfl | hd
      · exact hcupper
      · exact (cases_nameCharacters d (hcs d hd)).2.2.1

end Foundation
