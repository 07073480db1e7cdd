import Mathlib.Data.List.Basic

/-!
# The loading overlay

`showLoading` adds a new overlay to the view and keeps a reference to it, in place of the one to the
overlay before; nothing is ever removed from the view. So `hiddenLoading` can hide the latest
overlay only, and one that is still shown when the next is added stays shown for good.
-/

namespace Poketrader

/-- The overlay. Its animation covers the view while it is not hidden. -/
structure LoadView where
  isPlaying : Bool
  isHidden : Bool
  deriving DecidableEq

namespace LoadView

/-- As the nib has it: the archive holds one view of this class, so the cast succeeds. -/
def instantiate : LoadView := ⟨false, false⟩

def showLoading (overlay : LoadView) : LoadView := { overlay with isPlaying := true }

def hiddenLoading (overlay : LoadView) : LoadView := { overlay with isPlaying := false }

end LoadView

structure BaseViewController where
  /-- The overlays added to the view, the latest first: that is the one `loadingView` refers to. -/
  overlays : List LoadView
  deriving DecidableEq

namespace BaseViewController

/-- Before any overlay. -/
def empty : BaseViewController := ⟨[]⟩

def showLoading (vc : BaseViewController) : BaseViewController :=
  ⟨LoadView.instantiate.showLoading :: vc.overlays⟩

def hiddenLoading (vc : BaseViewController) : BaseViewController :=
  ⟨vc.overlays.modifyHead fun overlay ↦ { overlay.hiddenLoading with isHidden := true }⟩

/-- A screen that has shown its first overlay. -/
def loading : BaseViewController := empty.showLoading

/-- No overlay is visible. -/
def Clear (vc : BaseViewController) : Prop := ∀ overlay ∈ vc.overlays, overlay.isHidden = true

/-- No overlay is visible that `loadingView` no longer refers to. -/
def Reached (vc : BaseViewController) : Prop :=
  ∀ overlay ∈ vc.overlays.tail, overlay.isHidden = true

instance (vc : BaseViewController) : Decidable vc.Clear :=
  inferInstanceAs (Decidable (∀ _ ∈ _, _))

instance (vc : BaseViewController) : Decidable vc.Reached :=
  inferInstanceAs (Decidable (∀ _ ∈ _, _))

theorem Clear.reached {vc : BaseViewController} (h : vc.Clear) : vc.Reached :=
  fun overlay hmem ↦ h overlay (List.mem_of_mem_tail hmem)

/-- A new overlay hides behind it nothing that was not hidden. -/
theorem reached_showLoading_iff {vc : BaseViewController} : vc.showLoading.Reached ↔ vc.Clear :=
  Iff.rfl

theorem not_clear_showLoading (vc : BaseViewController) : ¬vc.showLoading.Clear :=
  fun h ↦ absurd (h _ List.mem_cons_self) (by decide)

theorem reached_hiddenLoading_iff {vc : BaseViewController} :
    vc.hiddenLoading.Reached ↔ vc.Reached := by
  rw [Reached, Reached, hiddenLoading, List.tail_modifyHead]

/-- Hiding the latest overlay leaves none visible exactly if no other one was. -/
theorem clear_hiddenLoading_iff {vc : BaseViewController} :
    vc.hiddenLoading.Clear ↔ vc.Reached := by
  rw [← reached_hiddenLoading_iff]
  refine ⟨Clear.reached, fun h ↦ ?_⟩
  rcases vc with ⟨_ | ⟨overlay, earlier⟩⟩
  · exact h
  · rintro other (_ | ⟨_, hmem⟩)
    · rfl
    · exact h other hmem

theorem reached_loading : loading.Reached :=
  reached_showLoading_iff.mpr fun _ hmem ↦ absurd hmem List.not_mem_nil

end BaseViewController

end Poketrader
