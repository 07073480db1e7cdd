import Poketrader.Controller.PerfilController

/-!
# The mask of a telephone number

The loop over the mask runs two cursors, one over the mask and one over the digits, and ends with
whichever comes to its end first. What it yields is described here without a loop, as a text that is
filled in: it agrees with the mask at the literals, its other characters are the digits, and it ends
at one of those.

A mask is *tight* for a set of characters if none of its literals is in the set and it ends in a
place for a digit. Only then can the digits be read back, and the literals after the last digit not
stay behind.
-/

open Foundation

namespace Poketrader

open CadastroController (fillMask)

/-- The decimal digits of a text, in their order. -/
def digits (s : String) : List Char := s.toList.filter decimalDigits

namespace Phone

variable {set : Char → Bool} {mask ds text : List Char}

/-- The number of digits that a mask takes. -/
def capacity (mask : List Char) : ℕ := mask.count '#'

structure Tight (set : Char → Bool) (mask : List Char) : Prop where
  /-- No literal can be taken for a digit. -/
  literal : ∀ ch ∈ mask, ch ≠ '#' → set ch = false
  /-- The last character of the mask is not a literal. -/
  last : ∀ ch ∈ mask.getLast?, ch = '#'

/-- `text` is the mask with `ds` written in its places from the left, cut after the last of them. -/
structure Filled (mask ds text : List Char) : Prop where
  literals : ∀ p ∈ text.zip mask, p.2 ≠ '#' → p.1 = p.2
  places : ((text.zip mask).filter fun p ↦ p.2 = '#').map Prod.fst = ds
  length : text.length ≤ mask.length
  cut : ∀ ch ∈ (mask.take text.length).getLast?, ch = '#'

theorem Tight.tail {ch : Char} (h : Tight set (ch :: mask)) : Tight set mask where
  literal c hc := h.literal c (List.mem_cons_of_mem ch hc)
  last c hc := by
    refine h.last c ?_
    rw [List.getLast?_cons, Option.mem_def.mp hc]
    rfl

/-- A literal of a tight mask is followed by something. -/
theorem Tight.ne_nil {ch : Char} (h : Tight set (ch :: mask)) (hch : ch ≠ '#') : mask ≠ [] := by
  rintro rfl
  exact hch (h.last ch rfl)

@[simp] theorem fillMask_nil (mask : List Char) : fillMask mask [] = [] := by
  rw [fillMask]

@[simp] theorem nil_fillMask (ds : List Char) : fillMask [] ds = [] := by
  rcases ds with - | ⟨d, ds⟩ <;> rfl

theorem fillMask_place (mask : List Char) (d : Char) (ds : List Char) :
    fillMask ('#' :: mask) (d :: ds) = d :: fillMask mask ds := by
  rw [fillMask, if_pos rfl]

theorem fillMask_literal {ch : Char} (hch : ch ≠ '#') (mask : List Char) (d : Char)
    (ds : List Char) : fillMask (ch :: mask) (d :: ds) = ch :: fillMask mask (d :: ds) := by
  rw [fillMask, if_neg hch]

/-- A mask that is not empty has something to write for a digit. -/
theorem fillMask_ne_nil (hmask : mask ≠ []) (d : Char) (ds : List Char) :
    fillMask mask (d :: ds) ≠ [] := by
  obtain ⟨ch, mask, rfl⟩ := List.exists_cons_of_ne_nil hmask
  rw [fillMask]
  split <;> exact List.cons_ne_nil _ _

theorem capacity_place (mask : List Char) : capacity ('#' :: mask) = capacity mask + 1 :=
  List.count_cons_self

theorem capacity_literal {ch : Char} (hch : ch ≠ '#') (mask : List Char) :
    capacity (ch :: mask) = capacity mask :=
  List.count_cons_of_ne hch

/-- The digits read back are those the mask has a place for. -/
theorem filter_fillMask (hmask : ∀ ch ∈ mask, ch ≠ '#' → set ch = false)
    (hds : ∀ d ∈ ds, set d = true) : (fillMask mask ds).filter set = ds.take (capacity mask) := by
  induction mask generalizing ds with
  | nil => rw [nil_fillMask, capacity, List.count_nil, List.take_zero, List.filter_nil]
  | cons ch mask ih =>
    have hmask' : ∀ c ∈ mask, c ≠ '#' → set c = false :=
      fun c hc ↦ hmask c (List.mem_cons_of_mem ch hc)
    rcases ds with - | ⟨d, ds⟩
    · rw [fillMask_nil, List.filter_nil, List.take_nil]
    · by_cases hch : ch = '#'
      · subst hch
        obtain ⟨hd, hds⟩ := List.forall_mem_cons.mp hds
        rw [fillMask_place, List.filter_cons_of_pos hd, ih hmask' hds, capacity_place,
          List.take_succ_cons]
      · have hset : ¬set ch = true := by
          rw [hmask ch List.mem_cons_self hch]
          exact Bool.false_ne_true
        rw [fillMask_literal hch, List.filter_cons_of_neg hset, ih hmask' hds,
          capacity_literal hch]

/-- Digits beyond those the mask has a place for make no difference. -/
theorem fillMask_take (h : Tight set mask) (ds : List Char) :
    fillMask mask (ds.take (capacity mask)) = fillMask mask ds := by
  induction mask generalizing ds with
  | nil => rw [nil_fillMask, nil_fillMask]
  | cons ch mask ih =>
    rcases ds with - | ⟨d, ds⟩
    · rw [List.take_nil]
    · by_cases hch : ch = '#'
      · subst hch
        rw [capacity_place, List.take_succ_cons, fillMask_place, fillMask_place, ih h.tail]
      · have hpos : 0 < capacity mask := by
          have hlast : '#' ∈ mask := by
            have hmem := List.getLast?_eq_some_getLast (h.ne_nil hch)
            rw [← h.tail.last _ hmem]
            exact List.getLast_mem _
          exact List.count_pos_iff.mpr hlast
        obtain ⟨n, hn⟩ := Nat.exists_eq_succ_of_ne_zero hpos.ne'
        have ih' := ih h.tail (d :: ds)
        rw [hn, List.take_succ_cons] at ih'
        rw [capacity_literal hch, hn, List.take_succ_cons, fillMask_literal hch,
          fillMask_literal hch, ih']

/-- What is written ends in a digit. -/
theorem mem_of_getLast?_fillMask (h : Tight set mask) {c : Char}
    (hc : c ∈ (fillMask mask ds).getLast?) : c ∈ ds := by
  induction mask generalizing ds with
  | nil => simp at hc
  | cons ch mask ih =>
    rcases ds with - | ⟨d, ds⟩
    · simp at hc
    · by_cases hch : ch = '#'
      · subst hch
        rw [fillMask_place, List.getLast?_cons] at hc
        rcases hlast : (fillMask mask ds).getLast? with - | c'
        · rw [hlast] at hc
          obtain rfl : d = c := Option.some_inj.mp hc
          exact List.mem_cons_self
        · rw [hlast] at hc
          obtain rfl : c' = c := Option.some_inj.mp hc
          exact List.mem_cons_of_mem d (ih h.tail hlast)
      · have hne : fillMask mask (d :: ds) ≠ [] := fillMask_ne_nil (h.ne_nil hch) d ds
        rw [fillMask_literal hch, List.getLast?_cons_of_ne_nil hne] at hc
        exact ih h.tail hc

/-! ## The text that is filled in -/

theorem Filled.nil (mask : List Char) : Filled mask [] [] where
  literals p hp := by simp at hp
  places := rfl
  length := Nat.zero_le _
  cut ch hch := by simp at hch

theorem Filled.place (h : Filled mask ds text) (d : Char) :
    Filled ('#' :: mask) (d :: ds) (d :: text) where
  literals p hp hne := by
    rcases List.mem_cons.mp hp with rfl | hp
    · exact absurd rfl hne
    · exact h.literals p hp hne
  places := by
    rw [List.zip_cons_cons, List.filter_cons_of_pos (by rfl), List.map_cons, h.places]
  length := Nat.succ_le_succ h.length
  cut ch hch := by
    rw [List.length_cons, List.take_succ_cons, List.getLast?_cons] at hch
    rcases hlast : (mask.take text.length).getLast? with - | c
    · rw [hlast] at hch
      exact (Option.some_inj.mp hch).symm
    · rw [hlast] at hch
      exact h.cut ch (hlast.trans hch)

theorem Filled.literal (h : Filled mask ds text) {ch : Char} (hch : ch ≠ '#')
    (hmask : mask ≠ []) (htext : text ≠ []) : Filled (ch :: mask) ds (ch :: text) where
  literals p hp hp' := by
    rcases List.mem_cons.mp hp with rfl | hp
    · rfl
    · exact h.literals p hp hp'
  places := by
    rw [List.zip_cons_cons, List.filter_cons_of_neg (by simpa using hch), h.places]
  length := Nat.succ_le_succ h.length
  cut c hc := by
    have hne : mask.take text.length ≠ [] := by
      rw [Ne, List.take_eq_nil_iff, List.length_eq_zero_iff]
      exact not_or.mpr ⟨htext, hmask⟩
    rw [List.length_cons, List.take_succ_cons, List.getLast?_cons_of_ne_nil hne] at hc
    exact h.cut c hc

/-- What is left of a filled text and its mask after the first character. -/
theorem Filled.tail {c ch : Char} (h : Filled (ch :: mask) ds (c :: text)) :
    ∃ rest, Filled mask rest text ∧ if ch = '#' then ds = c :: rest
      else ch = c ∧ ds = rest ∧ text ≠ [] := by
  have hlength : text.length ≤ mask.length := Nat.le_of_succ_le_succ h.length
  have hcut : ∀ ch' ∈ (mask.take text.length).getLast?, ch' = '#' := by
    intro ch' hch'
    refine h.cut ch' ?_
    rw [List.length_cons, List.take_succ_cons, List.getLast?_cons, Option.mem_def.mp hch']
    rfl
  refine ⟨_, ⟨fun p hp ↦ h.literals p (List.mem_cons_of_mem _ hp), rfl, hlength, hcut⟩, ?_⟩
  split
  · next hch => rw [← h.places, List.zip_cons_cons, List.filter_cons_of_pos (by simpa using hch),
      List.map_cons]
  · next hch =>
    refine ⟨(h.literals (c, ch) List.mem_cons_self hch).symm, ?_, fun hnil ↦ ?_⟩
    · rw [← h.places, List.zip_cons_cons, List.filter_cons_of_neg (by simpa using hch)]
    · subst hnil
      exact hch (h.cut ch rfl)

/-- The loop fills in the mask, with as many digits as it has places. -/
theorem filled_fillMask (h : Tight set mask) (ds : List Char) :
    Filled mask (ds.take (capacity mask)) (fillMask mask ds) := by
  induction mask generalizing ds with
  | nil =>
    rw [nil_fillMask, capacity, List.count_nil, List.take_zero]
    exact .nil []
  | cons ch mask ih =>
    rcases ds with - | ⟨d, ds⟩
    · rw [fillMask_nil, List.take_nil]
      exact .nil _
    · by_cases hch : ch = '#'
      · subst hch
        rw [capacity_place, List.take_succ_cons, fillMask_place]
        exact (ih h.tail ds).place d
      · rw [capacity_literal hch, fillMask_literal hch]
        have hmask : mask ≠ [] := h.ne_nil hch
        exact (ih h.tail (d :: ds)).literal hch hmask (fillMask_ne_nil hmask d ds)

/-- There is no other way to fill it in. -/
theorem Filled.eq_fillMask (h : Filled mask ds text) : text = fillMask mask ds := by
  induction mask generalizing ds text with
  | nil =>
    rw [nil_fillMask]
    exact List.eq_nil_of_length_eq_zero (Nat.le_zero.mp h.length)
  | cons ch mask ih =>
    rcases text with - | ⟨c, text⟩
    · have hds : ds = [] := h.places.symm
      rw [hds, fillMask_nil]
    · obtain ⟨rest, hrest, hhead⟩ := h.tail
      by_cases hch : ch = '#'
      · rw [if_pos hch] at hhead
        rw [hhead, hch, fillMask_place, ← ih hrest]
      · rw [if_neg hch] at hhead
        obtain ⟨rfl, rfl, hne⟩ := hhead
        rcases ds with - | ⟨d, ds⟩
        · exact absurd ((ih hrest).trans (fillMask_nil mask)) hne
        · rw [fillMask_literal hch, ← ih hrest]

/-! ## The masked number -/

/-- The mask filled in with the digits of a text. -/
def masked (mask : List Char) (s : String) : String := String.ofList (fillMask mask (digits s))

/-- A function that keeps of each text its first digits, as many as the mask takes, and tells two
texts apart by these only. -/
structure NormalForm (n : ℕ) (f : String → String) : Prop where
  digits (s : String) : digits (f s) = (digits s).take n
  idempotent (s : String) : f (f s) = f s
  eq_iff (s t : String) : f s = f t ↔ (Poketrader.digits s).take n = (Poketrader.digits t).take n
  ends (s : String) : f s = "" ∨ ∃ c, (f s).toList.getLast? = some c ∧ decimalDigits c = true

theorem digits_masked (h : Tight decimalDigits mask) (s : String) :
    digits (masked mask s) = (digits s).take (capacity mask) := by
  rw [digits, masked, String.toList_ofList]
  exact filter_fillMask h.literal fun d hd ↦ (List.mem_filter.mp hd).2

/-- The text written depends on the digits kept only. -/
theorem masked_eq (h : Tight decimalDigits mask) (s : String) :
    masked mask s = String.ofList (fillMask mask ((digits s).take (capacity mask))) := by
  rw [fillMask_take h, masked]

theorem normalForm_masked (h : Tight decimalDigits mask) :
    NormalForm (capacity mask) (masked mask) where
  digits := digits_masked h
  idempotent s := by
    rw [masked_eq h (masked mask s), digits_masked h, List.take_take, Nat.min_self, ← masked_eq h]
  eq_iff s t := by
    constructor
    · intro heq
      rw [← digits_masked h, ← digits_masked h, heq]
    · intro heq
      rw [masked_eq h, heq, ← masked_eq h]
  ends s := by
    rcases hlast : (masked mask s).toList.getLast? with - | c
    · rw [List.getLast?_eq_none_iff, String.toList_eq_nil_iff] at hlast
      exact .inl hlast
    · rw [masked, String.toList_ofList] at hlast
      have hc : c ∈ digits s := mem_of_getLast?_fillMask h hlast
      exact .inr ⟨c, rfl, (List.mem_filter.mp hc).2⟩

/-- The literals of the mask are no digits, and its last character is a place for one. -/
theorem tight_mask : Tight decimalDigits CadastroController.mask where
  literal := by
    have hall : (CadastroController.mask.all fun ch ↦ ch = '#' || !decimalDigits ch) = true := by
      decide
    intro ch hch hne
    have hliteral := List.all_eq_true.mp hall ch hch
    rwa [decide_eq_false hne, Bool.false_or, Bool.not_eq_true'] at hliteral
  last ch hch := (Option.some_inj.mp hch).symm

/-- **Both copies of `formattedNumber` are a normal form of the first eleven digits.** -/
theorem normalForm_formattedNumber : NormalForm 11 CadastroController.formattedNumber ∧
    NormalForm 11 PerfilController.formattedNumber :=
  ⟨normalForm_masked tight_mask, normalForm_masked tight_mask⟩

end Phone

end Poketrader
