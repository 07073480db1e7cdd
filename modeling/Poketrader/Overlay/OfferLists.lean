import Poketrader.Views.BaseViewController
import Poketrader.Views.OffersTable

/-!
# The overlay of the offer lists

Each of the two lists shows the overlay once, before its first load, and hides it in the block that
reloads the table. A load that fails dispatches no such block. So once nothing is pending, the
overlay is gone exactly if one of the loads has succeeded.

The runs are those of the screens, with the overlay beside the screen.
-/

namespace Poketrader

namespace OffersTable

/-- A list of offers with its overlay. -/
structure Covered where
  base : BaseViewController
  table : OffersTable

/-- The overlays after an action: the block that reloads the table hides the latest. -/
def Covered.cover (s : Covered) : Act → BaseViewController
  | .runMain => s.base.hiddenLoading
  | _ => s.base

/-- An answer without an error. -/
def Act.Succeeds : Act → Prop
  | .respond _ answer => answer.err = none
  | _ => False

/-- Every load has been answered and every block has run. -/
def Covered.Quiescent (s : Covered) : Prop := s.table.unanswered = [] ∧ s.table.reloads = 0

/-- No overlay is visible, or a block is pending that will see to it. -/
def Covered.Leaving (s : Covered) : Prop := s.base.Clear ∨ 0 < s.table.reloads

section

variable (answered : Option Ofertas → QueryAnswer → Option (Option Ofertas × Bool))

/-- The screen with its overlay. -/
def covered : Machine Covered Act where
  start := ⟨.loading, viewDidLoad⟩
  step s a := (step answered s.table a).map fun table ↦ ⟨s.cover a, table⟩

variable {answered}

/-- The overlay changes nothing of the screen. -/
theorem run_covered (acts : List Act) :
    (machine answered).run acts = ((covered answered).run acts).map Covered.table := by
  refine Machine.exec_map (f := Covered.table) (fun s a ↦ ?_) acts (covered answered).start
  simp only [covered, machine, Option.map_map]
  exact Option.map_id'.symm

theorem reached_step {s t : Covered} {a : Act} (hs : s.base.Reached)
    (hstep : (covered answered).step s a = some t) : t.base.Reached := by
  obtain ⟨table, -, rfl⟩ := Option.map_eq_some_iff.mp hstep
  cases a with
  | runMain => exact BaseViewController.reached_hiddenLoading_iff.mpr hs
  | viewDidAppear => exact hs
  | respond i answer => exact hs
  | cellForRow row => exact hs
  | didSelectRow row => exact hs

/-- A successful answer sends the overlay on its way, and nothing else does. -/
theorem leaving_step_iff {decode : Document.Fields → Option OfertaElement}
    (h : Replaces decode answered) {s t : Covered} {a : Act} (hs : s.base.Reached)
    (hstep : (covered answered).step s a = some t) : t.Leaving ↔ s.Leaving ∨ a.Succeeds := by
  obtain ⟨table, htable, rfl⟩ := Option.map_eq_some_iff.mp hstep
  have hsteps : Steps answered s.table a table := steps_of_step htable
  cases hsteps with
  | viewDidAppear => exact (or_iff_left not_false).symm
  | respond i answer after hi hafter =>
    rw [h] at hafter
    by_cases herr : answer.err = none
    · rw [if_pos herr, Option.some_inj] at hafter
      subst hafter
      exact iff_of_true (Or.inr (Nat.succ_pos _)) (Or.inr herr)
    · rw [if_neg herr, Option.some_inj] at hafter
      subst hafter
      exact (or_iff_left herr).symm
  | runMain hpos =>
    -- the block was pending, and hides the only overlay there is
    have hclear : s.base.hiddenLoading.Clear := BaseViewController.clear_hiddenLoading_iff.mpr hs
    exact iff_of_true (Or.inl hclear) (Or.inl (Or.inr hpos))
  | cellForRow row hrow => exact (or_iff_left not_false).symm
  | didSelectRow row hrow => exact (or_iff_left not_false).symm

/-- The overlay of a list is gone in the end exactly if one of the loads has succeeded. -/
theorem clear_iff_of_run {decode : Document.Fields → Option OfertaElement}
    (h : Replaces decode answered) {acts : List Act} {s : Covered}
    (hrun : (covered answered).run acts = some s) (hquiet : s.Quiescent) :
    s.base.Clear ↔ ∃ a ∈ acts, a.Succeeds := by
  have hstart : ¬(covered answered).start.Leaving := by
    rintro (hclear | hpos)
    · exact BaseViewController.not_clear_showLoading _ hclear
    · exact absurd hpos (Nat.lt_irrefl 0)
  have hend : s.Leaving ↔ s.base.Clear :=
    or_iff_left fun hpos ↦ absurd hquiet.2 (Nat.ne_of_gt hpos)
  rw [← hend]
  exact Machine.run_iff_exists_mem (P := Covered.Leaving) (fun _ _ _ ↦ reached_step)
    (fun _ _ _ ↦ leaving_step_iff h) BaseViewController.reached_loading hstart hrun

end

end OffersTable

def FeedViewController.covered : Machine OffersTable.Covered OffersTable.Act :=
  OffersTable.covered FeedViewController.answered

def OfertasUsuarioViewController.covered (currentUser : Option AuthUser) :
    Machine OffersTable.Covered OffersTable.Act :=
  OffersTable.covered (OfertasUsuarioViewController.answered currentUser)

end Poketrader
