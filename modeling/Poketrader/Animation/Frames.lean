import Mathlib.Data.Rat.Cast.Order
import Poketrader.Animation.Gcd

/-!
# The frames of an animated image

If all frames decode, the images and the delays have the same indices, and each frame is repeated as
often as the greatest common divisor goes into its delay. Every frame is then shown for its own
delay, and with fewer frames that cannot be done.

If some frame does not decode there are fewer images than delays. The last loop counts by the
delays, so it runs off the end of the images.
-/

namespace Poketrader

namespace ImageGif

variable {ι : Type*} {source : List (GifFrame ι)} {g : ℤ}

/-- The copies of a frame, as many as `g` goes into its delay. -/
def copies (g : ℤ) (frame : GifFrame ι) : List (Option ι) :=
  List.replicate (delayForImageAtIndex frame / g).toNat frame.image

/-! ## The last loop -/

/-- If all frames decode, the images have the indices of their frames. -/
theorem getElem?_filterMap_image (hdecode : ∀ frame ∈ source, frame.image.isSome = true) (i : ℕ) :
    (source.filterMap GifFrame.image)[i]? = source[i]?.bind GifFrame.image := by
  induction source generalizing i with
  | nil => rfl
  | cons frame source ih =>
    obtain ⟨hframe, hdecode⟩ := List.forall_mem_cons.mp hdecode
    obtain ⟨image, himage⟩ := Option.isSome_iff_exists.mp hframe
    rw [List.filterMap_cons_some himage]
    rcases i with - | i
    · exact himage.symm
    · exact ih hdecode i

/-- The round for a frame that decodes, with its image and its delay at the same index. -/
theorem appendFrame_eq (hg : 0 < g) {images frames : List ι} {delays : List ℤ} {i : ℕ} {image : ι}
    {delay : ℤ} (himage : images[i]? = some image) (hdelay : delays[i]? = some delay)
    (hnonneg : 0 ≤ delay) : appendFrame images delays g frames i
      = some (frames ++ List.replicate (delay / g).toNat image) := by
  have hcount : ¬delay / g < 0 := not_lt.mpr (Int.ediv_nonneg hnonneg hg.le)
  rw [appendFrame, himage, hdelay, Option.bind_some, Option.bind_some, if_neg hg.ne',
    Int.tdiv_eq_ediv_of_nonneg hnonneg, if_neg hcount]

/-- The loop up to the frame at `k`. -/
theorem exists_foldlM_appendFrame (hdecode : ∀ frame ∈ source, frame.image.isSome = true)
    (hg : 0 < g) {k : ℕ} (hk : k ≤ source.length) :
    ∃ frames, (List.range k).foldlM (appendFrame (source.filterMap GifFrame.image)
        (source.map delayForImageAtIndex) g) [] = some frames ∧
      frames.map some = (source.take k).flatMap (copies g) := by
  induction k with
  | zero => exact ⟨[], rfl, rfl⟩
  | succ k ih =>
    obtain ⟨frames, hframes, hcopies⟩ := ih (Nat.le_of_succ_le hk)
    have hsource : source[k]? = some source[k] := List.getElem?_eq_getElem hk
    obtain ⟨image, himage⟩ :=
      Option.isSome_iff_exists.mp (hdecode source[k] (List.getElem_mem hk))
    have himages : (source.filterMap GifFrame.image)[k]? = some image := by
      rw [getElem?_filterMap_image hdecode, hsource, Option.bind_some, himage]
    have hdelays : (source.map delayForImageAtIndex)[k]?
        = some (delayForImageAtIndex source[k]) := by
      rw [List.getElem?_map, hsource, Option.map_some]
    have hnonneg : 0 ≤ delayForImageAtIndex source[k] :=
      le_trans (by decide) (le_delayForImageAtIndex source[k])
    refine ⟨frames ++ List.replicate (delayForImageAtIndex source[k] / g).toNat image, ?_, ?_⟩
    · rw [List.range_succ, List.foldlM_append, hframes]
      exact (congrArg (fun step ↦ step >>= pure)
        (appendFrame_eq hg himages hdelays hnonneg)).trans (bind_pure _)
    · rw [List.take_add_one, hsource, List.map_append, hcopies, List.flatMap_append,
        List.map_replicate]
      simp [copies, himage]

/-- A fold that traps at one index, whatever came before, traps. -/
theorem foldlM_eq_none {σ : Type*} {round : σ → ℕ → Option σ} {is : List ℕ} {i : ℕ} (hi : i ∈ is)
    (h : ∀ s, round s i = none) (s : σ) : is.foldlM round s = none := by
  induction is generalizing s with
  | nil => exact absurd hi List.not_mem_nil
  | cons j is ih =>
    rw [List.foldlM_cons]
    rcases List.mem_cons.mp hi with rfl | hi
    · rw [h s]
      rfl
    · rcases round s j with - | t
      · rfl
      · exact ih hi t

/-- With a frame that does not decode, there are fewer images than frames. -/
theorem length_filterMap_image_lt (h : ∃ frame ∈ source, frame.image = none) :
    (source.filterMap GifFrame.image).length < source.length := by
  obtain ⟨frame, hframe, hnone⟩ := h
  obtain ⟨front, back, rfl⟩ := List.append_of_mem hframe
  rw [List.filterMap_append, List.filterMap_cons_none hnone, List.length_append, List.length_append,
    List.length_cons]
  have hfront := List.length_filterMap_le GifFrame.image front
  have hback := List.length_filterMap_le GifFrame.image back
  omega

/-! ## The image -/

/-- The delays are positive. -/
theorem delays_pos (source : List (GifFrame ι)) :
    ∀ x ∈ source.map delayForImageAtIndex, 0 < x := by
  intro x hx
  obtain ⟨frame, -, rfl⟩ := List.mem_map.mp hx
  exact lt_of_lt_of_le (by decide) (le_delayForImageAtIndex frame)

/-- The divisor of the delays is positive, that of no delays being one. -/
theorem exists_gcd (source : List (GifFrame ι)) :
    ∃ g, gcdForArray (source.map delayForImageAtIndex) = some g ∧ 0 < g := by
  rcases hdelays : source.map delayForImageAtIndex with - | ⟨first, rest⟩
  · exact ⟨1, rfl, Int.one_pos⟩
  · have hpos : ∀ x ∈ first :: rest, 0 < x := hdelays ▸ delays_pos source
    have hne : first :: rest ≠ [] := List.cons_ne_nil first rest
    exact ⟨_, gcdForArray_eq hne hpos, gcd_pos hne hpos⟩

/-- What is built, the loops apart. -/
theorem animatedImageWithSource_eq (hgcd : gcdForArray (source.map delayForImageAtIndex) = some g) :
    animatedImageWithSource source
      = ((List.range source.length).foldlM (appendFrame (source.filterMap GifFrame.image)
          (source.map delayForImageAtIndex) g) []).map fun frames ↦
        { frames, duration := (source.map delayForImageAtIndex).sum } := by
  simp only [animatedImageWithSource, images_eq, hgcd, Option.bind_some, ← List.sum_eq_foldl]

/-- With all frames decoded, the image has the copies of each, in order. -/
theorem exists_animation (hdecode : ∀ frame ∈ source, frame.image.isSome = true)
    (hgcd : gcdForArray (source.map delayForImageAtIndex) = some g) (hg : 0 < g) :
    ∃ animation, animatedImageWithSource source = some animation ∧
      animation.frames.map some = source.flatMap (copies g) ∧
      animation.duration = (source.map delayForImageAtIndex).sum := by
  obtain ⟨frames, hframes, hcopies⟩ := exists_foldlM_appendFrame hdecode hg (le_refl source.length)
  rw [List.take_length] at hcopies
  refine ⟨⟨frames, (source.map delayForImageAtIndex).sum⟩, ?_, hcopies, rfl⟩
  rw [animatedImageWithSource_eq hgcd, hframes, Option.map_some]

/-- With a frame that does not decode, the last loop traps. -/
theorem animatedImageWithSource_eq_none (h : ∃ frame ∈ source, frame.image = none) :
    animatedImageWithSource source = none := by
  obtain ⟨g, hgcd, -⟩ := exists_gcd source
  -- the first index beyond the images is one of the indices of the loop
  have hmem : (source.filterMap GifFrame.image).length ∈ List.range source.length :=
    List.mem_range.mpr (length_filterMap_image_lt h)
  have hround : ∀ frames, appendFrame (source.filterMap GifFrame.image)
      (source.map delayForImageAtIndex) g frames (source.filterMap GifFrame.image).length
      = none := by
    intro frames
    rw [appendFrame, List.getElem?_eq_none le_rfl, Option.bind_none]
  rw [animatedImageWithSource_eq hgcd, foldlM_eq_none hmem hround, Option.map_none]

/-- The image shows the frames that decode, and each by its own delay. -/
def Paired (source : List (GifFrame ι)) (animation : AnimatedImage ι) : Prop :=
  ∃ g, gcdForArray (source.map delayForImageAtIndex) = some g ∧ animation.frames.map some
    = (source.filter fun frame ↦ frame.image.isSome).flatMap (copies g)

/-- **A source is safe exactly if it is not damaged:** an image is built, with each frame that
decodes paired with its own delay, if and only if every frame decodes. -/
theorem paired_iff_decodes (source : List (GifFrame ι)) :
    (∃ animation, animatedImageWithSource source = some animation ∧ Paired source animation) ↔
      ∀ frame ∈ source, frame.image.isSome = true := by
  constructor
  · rintro ⟨animation, hanimation, -⟩
    by_contra hdecode
    have hlost : ∃ frame ∈ source, frame.image = none := by
      simpa using hdecode
    rw [animatedImageWithSource_eq_none hlost] at hanimation
    exact Option.some_ne_none _ hanimation.symm
  · intro hdecode
    obtain ⟨g, hgcd, hg⟩ := exists_gcd source
    obtain ⟨animation, hanimation, hcopies, -⟩ := exists_animation hdecode hgcd hg
    refine ⟨animation, hanimation, g, hgcd, ?_⟩
    rwa [List.filter_eq_self.mpr hdecode]

/-- Two frames, of which the first does not decode. -/
def damaged : List (GifFrame ℕ) := [⟨none, 100, 100⟩, ⟨some 0, 200, 200⟩]

/-- The round for the first frame takes the image of the second and the delay of the first, and that
for the second runs off the images. -/
theorem not_paired_damaged :
    appendFrame (images damaged).1 (images damaged).2 100 [] 0 = some [0] ∧
      animatedImageWithSource damaged = none ∧
      ¬∃ animation, animatedImageWithSource damaged = some animation ∧
        Paired damaged animation := by
  have hnone : animatedImageWithSource damaged = none :=
    animatedImageWithSource_eq_none ⟨_, List.mem_cons_self, rfl⟩
  refine ⟨by decide, hnone, ?_⟩
  rintro ⟨animation, hanimation, -⟩
  exact Option.some_ne_none _ (hanimation.symm.trans hnone)

/-! ## The times -/

/-- The copies are as many as the divisor goes into the delays, together. -/
theorem length_flatMap_copies (source : List (GifFrame ι)) : (source.flatMap (copies g)).length
    = (source.map fun frame ↦ (delayForImageAtIndex frame / g).toNat).sum := by
  rw [List.length_flatMap]
  simp only [copies, List.length_replicate]

/-- The divisor leaves no remainder, so the copies make up the duration. -/
theorem sum_delays (hg : 0 < g) (hdvd : ∀ frame ∈ source, g ∣ delayForImageAtIndex frame) :
    (source.map delayForImageAtIndex).sum = g * (source.flatMap (copies g)).length := by
  rw [length_flatMap_copies]
  induction source with
  | nil => simp
  | cons frame source ih =>
    obtain ⟨hframe, hdvd⟩ := List.forall_mem_cons.mp hdvd
    have hnonneg : 0 ≤ delayForImageAtIndex frame / g :=
      Int.ediv_nonneg (le_trans (by decide) (le_delayForImageAtIndex frame)) hg.le
    rw [List.map_cons, List.map_cons, List.sum_cons, List.sum_cons, ih hdvd, Nat.cast_add,
      Int.toNat_of_nonneg hnonneg, Int.mul_add, Int.mul_ediv_cancel' hframe]

/-- A list that has each number as often as asked is as long as all that together. -/
theorem sum_le_length {ks fs : List ℕ} {n : ℕ}
    (h : ∀ i (hi : i < ks.length), ks[i] ≤ fs.count (n + i)) : ks.sum ≤ fs.length := by
  induction ks generalizing n fs with
  | nil => exact Nat.zero_le _
  | cons k ks ih =>
    have hk : k ≤ fs.count n := h 0 (Nat.zero_lt_succ _)
    have hrest : ks.sum ≤ (fs.filter (· ≠ n)).length := by
      refine ih (n := n + 1) fun i hi ↦ ?_
      have hcount : (fs.filter (· ≠ n)).count (n + 1 + i) = fs.count (n + 1 + i) :=
        List.count_filter (decide_eq_true (by omega))
      rw [hcount, Nat.add_assoc, Nat.add_comm 1 i]
      exact h (i + 1) (Nat.succ_lt_succ hi)
    have hlength : fs.length = fs.count n + (fs.filter (· ≠ n)).length := by
      rw [List.length_eq_countP_add_countP (· == n) (l := fs), List.count_eq_countP,
        ← List.countP_eq_length_filter]
      simp
    rw [List.sum_cons, hlength]
    exact Nat.add_le_add hk hrest

/-- An array that shows each frame for its delay has each at least as often as the divisor goes into
its delay, however long it takes. -/
theorem le_count_of_shown {ds : List ℤ} (hds : ∀ x ∈ ds, 0 < x) {fs : List ℕ} (hfs : fs ≠ [])
    {duration : ℚ} (h : ∀ i (hi : i < ds.length), fs.count i * duration = ds[i] * fs.length)
    {i : ℕ} (hi : i < ds.length) : ds[i] / (ds : Multiset ℤ).gcd ≤ fs.count i := by
  have hlength : (0 : ℚ) < fs.length := by
    exact_mod_cast List.length_pos_iff.mpr hfs
  have hdelay : 0 < ds[i] := hds _ (List.getElem_mem hi)
  -- the counts are in the proportion of the delays
  have hcross : ∀ j (hj : j < ds.length), (fs.count i : ℤ) * ds[j] = fs.count j * ds[i] := by
    intro j hj
    have hrat : (fs.count i : ℚ) * ds[j] * fs.length = fs.count j * ds[i] * fs.length := by
      rw [mul_assoc, mul_assoc, ← h i hi, ← h j hj, mul_left_comm]
    exact_mod_cast mul_right_cancel₀ hlength.ne' hrat
  have hpos : 0 < fs.count i := by
    refine Nat.pos_of_ne_zero fun hzero ↦ ?_
    have hshown := h i hi
    rw [hzero, Nat.cast_zero, zero_mul] at hshown
    have hright : (0 : ℚ) < ds[i] * fs.length := mul_pos (by exact_mod_cast hdelay) hlength
    exact hright.ne hshown
  have hdvd : ds[i] ∣ fs.count i * (ds : Multiset ℤ).gcd := by
    have hmap := Multiset.gcd_map_mul (fs.count i : ℤ) (ds : Multiset ℤ)
    rw [Int.normalize_of_nonneg (Int.natCast_nonneg _)] at hmap
    rw [← hmap, Multiset.dvd_gcd]
    intro x hx
    obtain ⟨y, hy, rfl⟩ := Multiset.mem_map.mp hx
    obtain ⟨j, hj, rfl⟩ := List.mem_iff_getElem.mp (Multiset.mem_coe.mp hy)
    exact ⟨fs.count j, by rw [hcross j hj, mul_comm]⟩
  have hgcd : (ds : Multiset ℤ).gcd ∣ ds[i] :=
    Multiset.gcd_dvd (Multiset.mem_coe.mpr (List.getElem_mem hi))
  have hgpos : 0 < (ds : Multiset ℤ).gcd := gcd_pos (List.ne_nil_of_length_pos (by omega)) hds
  obtain ⟨k, hk⟩ := hgcd
  rw [hk, mul_comm (fs.count i : ℤ)] at hdvd
  rw [hk, Int.mul_ediv_cancel_left _ hgpos.ne']
  exact Int.le_of_dvd (by exact_mod_cast hpos) (Int.dvd_of_mul_dvd_mul_left hgpos.ne' hdvd)

/-- Three frames, one with a clamped delay and one whose unclamped delay is missing. -/
def threeFrames : List (GifFrame ℕ) := [⟨some 0, 20, 20⟩, ⟨some 1, 0, 300⟩, ⟨some 2, 120, 120⟩]

end ImageGif

end Poketrader
