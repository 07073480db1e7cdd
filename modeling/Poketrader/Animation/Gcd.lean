import Mathlib.Algebra.GCDMonoid.Multiset
import Mathlib.Algebra.GCDMonoid.Nat
import Poketrader.Util.ImageGif

/-!
# The greatest common divisor of an array

The loop is that of Euclid, begun with the larger number. On positive numbers its divisor stays
positive, so no remainder is by zero and what comes out is the greatest common divisor. The fold
over the array begins with the first element and meets it once more, which makes no difference: the
value is the greatest common divisor of the elements as a multiset, whatever their order.
-/

namespace Poketrader

namespace ImageGif

theorem gcdLoop_some {a b : ℤ} (hb : b ≠ 0) : gcdLoop (some a) (some b)
    = if a.tmod b = 0 then some b else gcdLoop (some b) (some (a.tmod b)) := by
  rw [gcdLoop, dif_neg hb]

/-- The loop yields the greatest common divisor, by induction on the divisor. -/
theorem gcdLoop_eq {a b : ℤ} (ha : 0 ≤ a) (hb : 0 < b) :
    gcdLoop (some a) (some b) = some (Int.gcd a b : ℤ) := by
  induction hn : b.natAbs using Nat.strong_induction_on generalizing a b with
  | _ n ih =>
    subst hn
    have hrest : a.tmod b = a % b := Int.tmod_eq_emod_of_nonneg ha
    have hgcd : Int.gcd b (a % b) = Int.gcd a b := by
      conv_rhs => rw [← Int.emod_add_mul_ediv a b]
      rw [Int.gcd_add_mul_left_left, Int.gcd_comm]
    rw [gcdLoop_some hb.ne', hrest]
    split
    · next hzero =>
      rw [← hgcd, hzero, Int.gcd_zero_right, Int.natAbs_of_nonneg hb.le]
    · next hzero =>
      have hpos : 0 < a % b := lt_of_le_of_ne (Int.emod_nonneg a hb.ne') (Ne.symm hzero)
      have hlt : (a % b).natAbs < b.natAbs :=
        Int.natAbs_lt_natAbs_of_nonneg_of_lt hpos.le (Int.emod_lt_of_pos a hb)
      rw [ih _ hlt hb.le hpos rfl, hgcd]

theorem gcdForPair_eq {a b : ℤ} (ha : 0 < a) (hb : 0 < b) :
    gcdForPair (some a) (some b) = some (Int.gcd a b : ℤ) := by
  have hnone : ¬(some b = none ∨ some a = none) := by simp
  rw [gcdForPair, if_neg hnone]
  by_cases hlt : a < b
  · have hless : lessThan (some a) (some b) = true := decide_eq_true hlt
    simp only [if_pos hless]
    rw [gcdLoop_eq hb.le ha, Int.gcd_comm]
  · have hless : ¬lessThan (some a) (some b) = true := by
      simpa [lessThan] using hlt
    simp only [if_neg hless]
    exact gcdLoop_eq ha.le hb

/-- The fold stays positive and yields the greatest common divisor with the value it began with. -/
theorem foldlM_gcdForPair {array : List ℤ} (harray : ∀ x ∈ array, 0 < x) {g : ℤ} (hg : 0 < g) :
    array.foldlM (fun gcd val ↦ gcdForPair (some val) (some gcd)) g
      = some (g ::ₘ (array : Multiset ℤ)).gcd := by
  induction array generalizing g with
  | nil =>
    rw [List.foldlM_nil, Multiset.coe_nil, Multiset.cons_zero, Multiset.gcd_singleton,
      Int.normalize_of_nonneg hg.le]
    rfl
  | cons x array ih =>
    obtain ⟨hx, harray⟩ := List.forall_mem_cons.mp harray
    have hpos : 0 < (Int.gcd x g : ℤ) := by
      exact_mod_cast Int.gcd_pos_of_ne_zero_left g hx.ne'
    rw [List.foldlM_cons, gcdForPair_eq hx hg]
    refine (ih harray hpos).trans ?_
    rw [← Multiset.cons_coe, Multiset.cons_swap, Multiset.gcd_cons, Multiset.gcd_cons,
      Multiset.gcd_cons, Int.coe_gcd, gcd_assoc]

/-- The value for an array that is not empty: the first element, though folded in twice, counts
once. -/
theorem gcdForArray_eq {array : List ℤ} (hne : array ≠ []) (harray : ∀ x ∈ array, 0 < x) :
    gcdForArray array = some (array : Multiset ℤ).gcd := by
  obtain ⟨first, rest, rfl⟩ := List.exists_cons_of_ne_nil hne
  have hfirst : 0 < first := harray first List.mem_cons_self
  rw [gcdForArray, foldlM_gcdForPair harray hfirst, Option.some_inj, ← Multiset.cons_coe,
    Multiset.gcd_cons, Multiset.gcd_cons, ← gcd_assoc, gcd_same, Int.normalize_of_nonneg hfirst.le]

/-- The greatest common divisor of positive numbers is positive. -/
theorem gcd_pos {array : List ℤ} (hne : array ≠ []) (harray : ∀ x ∈ array, 0 < x) :
    0 < (array : Multiset ℤ).gcd := by
  obtain ⟨first, rest, rfl⟩ := List.exists_cons_of_ne_nil hne
  have hfirst : 0 < first := harray first List.mem_cons_self
  refine lt_of_le_of_ne (Int.nonneg_of_normalize_eq_self (Multiset.normalize_gcd _)) (Ne.symm ?_)
  exact (Multiset.gcd_ne_zero_iff _).mpr
    ⟨first, Multiset.mem_coe.mpr List.mem_cons_self, hfirst.ne'⟩

/-- **`gcdForArray` computes the greatest common divisor** of the elements of any array of positive
numbers that is not empty, without a trap, and whatever their order. -/
theorem gcdForArray_spec {array : List ℤ} (hne : array ≠ []) (harray : ∀ x ∈ array, 0 < x) :
    ∃ g, gcdForArray array = some g ∧ 0 < g ∧ (∀ x ∈ array, g ∣ x) ∧
      (∀ d, (∀ x ∈ array, d ∣ x) → d ∣ g) ∧
      ∀ array', array'.Perm array → gcdForArray array' = some g := by
  refine ⟨_, gcdForArray_eq hne harray, gcd_pos hne harray, fun x hx ↦ ?_, fun d hd ↦ ?_, ?_⟩
  · exact Multiset.gcd_dvd (Multiset.mem_coe.mpr hx)
  · exact Multiset.dvd_gcd.mpr fun x hx ↦ hd x (Multiset.mem_coe.mp hx)
  · intro array' hperm
    have hne' : array' ≠ [] := fun hnil ↦ hne (hnil ▸ hperm).symm.eq_nil
    rw [gcdForArray_eq hne' fun x hx ↦ harray x (hperm.mem_iff.mp hx),
      Multiset.coe_eq_coe.mpr hperm]

theorem gcdForArray_spec_threeDelays : ∃ g, gcdForArray [120, 300, 180] = some g ∧ 0 < g ∧
    (∀ x ∈ [120, 300, 180], g ∣ x) ∧ (∀ d, (∀ x ∈ [120, 300, 180], d ∣ x) → d ∣ g) ∧
    ∀ array', array'.Perm [120, 300, 180] → gcdForArray array' = some g :=
  gcdForArray_spec (by decide) (by decide)

end ImageGif

end Poketrader
