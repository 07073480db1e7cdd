import Mathlib.Data.Int.GCD
import Mathlib.Tactic.Common

/-!
# Animated images

A GIF has frames with delays of their own, an animated `UIImage` shows all of its frames for the
same time. So each frame is repeated, as often as the greatest common divisor of all delays goes
into its own.

Times are whole milliseconds. Integers have no bound here, as the sum of the delays of a file is far
from that of machine integers. `none` stands for the traps: a `nil` that is unwrapped, a remainder
by zero, an index out of range, a range that ends before it begins.
-/

namespace Poketrader

/-- What the image source has to say about one frame of type `ι`. -/
structure GifFrame (ι : Type*) where
  /-- `CGImageSourceCreateImageAtIndex`: `none` if the frame cannot be decoded. -/
  image : Option ι
  unclampedDelayTime : ℤ
  delayTime : ℤ
  deriving DecidableEq

/-- The arguments of `UIImage.animatedImage(with:duration:)`. The image shows each of its frames for
the same part of the duration. -/
structure AnimatedImage (ι : Type*) where
  frames : List ι
  duration : ℤ
  deriving DecidableEq

namespace ImageGif

variable {ι : Type*}

/-- `delayForImageAtIndex`. -/
def delayForImageAtIndex (frame : GifFrame ι) : ℤ :=
  let delay := if frame.unclampedDelayTime = 0 then frame.delayTime else frame.unclampedDelayTime
  if delay < 100 then 100 else delay

/-- The comparison of optionals. -/
def lessThan {T : Type*} [LT T] [DecidableLT T] : Option T → Option T → Bool
  | some l, some r => l < r
  | none, some _ => true
  | _, none => false

/-- The loop of `gcdForPair`. -/
def gcdLoop : Option ℤ → Option ℤ → Option ℤ
  | some a, some b =>
    if _h : b = 0 then none
    else
      let rest := a.tmod b
      if rest = 0 then some b else gcdLoop (some b) (some rest)
  | _, _ => none
termination_by _ b => (b.getD 0).natAbs
decreasing_by
  -- the remainder is smaller than the divisor in absolute value
  rw [Option.getD_some, Option.getD_some, Int.natAbs_tmod]
  exact Nat.mod_lt _ (Int.natAbs_pos.mpr _h)

def gcdForPair (a b : Option ℤ) : Option ℤ :=
  if b = none ∨ a = none then
    if b ≠ none then b else if a ≠ none then a else some 0
  else
    let (a, b) := if lessThan a b then (b, a) else (a, b)
    gcdLoop a b

def gcdForArray (array : List ℤ) : Option ℤ :=
  match array with
  | [] => some 1
  | first :: _ => array.foldlM (fun gcd val ↦ gcdForPair (some val) (some gcd)) first

/-- The loop that asks for the frames, one after the other: the images and the delays. -/
def images (source : List (GifFrame ι)) : List ι × List ℤ :=
  source.foldl (fun (images, delays) frame ↦
    let images := match frame.image with
      | some image => images ++ [image]
      | none => images
    (images, delays ++ [delayForImageAtIndex frame])) ([], [])

/-- The round of the last loop for the frame at `i`. -/
def appendFrame (images : List ι) (delays : List ℤ) (gcd : ℤ) (frames : List ι) (i : ℕ) :
    Option (List ι) :=
  images[i]?.bind fun frame ↦ delays[i]?.bind fun delay ↦
    if gcd = 0 then none
    else
      let frameCount := delay.tdiv gcd
      if frameCount < 0 then none else some (frames ++ List.replicate frameCount.toNat frame)

def animatedImageWithSource (source : List (GifFrame ι)) : Option (AnimatedImage ι) :=
  let count := source.length
  let (images, delays) := images source
  let duration := delays.foldl (· + ·) 0
  (gcdForArray delays).bind fun gcd ↦
    ((List.range count).foldlM (appendFrame images delays gcd) []).map fun frames ↦
      { frames, duration }

/-! ## What the loops yield -/

/-- The clamp of `delayForImageAtIndex`. -/
theorem le_delayForImageAtIndex (frame : GifFrame ι) : 100 ≤ delayForImageAtIndex frame := by
  simp only [delayForImageAtIndex]
  split_ifs <;> omega

/-- The images are those of the frames that decode, the delays those of all frames. -/
theorem images_eq (source : List (GifFrame ι)) :
    images source = (source.filterMap GifFrame.image, source.map delayForImageAtIndex) := by
  rw [images]
  have hfold : ∀ (images : List ι) (delays : List ℤ), source.foldl (fun (images, delays) frame ↦
      (match frame.image with
        | some image => images ++ [image]
        | none => images, delays ++ [delayForImageAtIndex frame])) (images, delays)
      = (images ++ source.filterMap GifFrame.image,
        delays ++ source.map delayForImageAtIndex) := by
    induction source with
    | nil =>
      intro images delays
      rw [List.filterMap_nil, List.map_nil, List.append_nil, List.append_nil]
      rfl
    | cons frame source ih =>
      intro images delays
      rw [List.foldl_cons, ih, List.map_cons, List.append_assoc]
      rcases himage : frame.image with - | image
      · rw [List.filterMap_cons_none himage]
        rfl
      · rw [List.filterMap_cons_some himage, List.append_assoc]
        rfl
  exact hfold [] []

end ImageGif

end Poketrader
