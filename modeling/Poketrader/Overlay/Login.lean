import Poketrader.Views.LoginViewController

/-!
# The overlays of the login screen

A press adds an overlay, and its end hides the latest one, whichever press that belongs to. As long
as presses do not overlap, the latest overlay is the one of the press that ends. An overlay that is
still shown when the next press begins is out of reach from then on, and a login that is answered
with neither an error nor a result has no end.

## The invariant

While no overlay is out of reach, at most one login is under way, and none is if no overlay is
visible. A run is settled as long as this is all there is: no overlay is out of reach, and one is
visible only while a login is under way.
-/

namespace Poketrader

namespace LoginViewController

/-- The presses do not overlap, and each login is answered with an error or a result. -/
def Orderly (s : LoginViewController) : Act → Prop
  | .entrarButton _ _ => s.underWay = 0
  | .respond _ authResult error => error.isSome = true ∨ authResult.isSome = true
  | .runMain => True

instance (s : LoginViewController) : ∀ a, Decidable (s.Orderly a)
  | .entrarButton _ _ => inferInstanceAs (Decidable (_ = _))
  | .respond _ _ _ => inferInstanceAs (Decidable (_ ∨ _))
  | .runMain => isTrue trivial

/-- As long as no overlay is out of reach, one login at most is under way, and it has an overlay. -/
def OneUnderWay (s : LoginViewController) : Prop :=
  s.base.Reached → s.underWay ≤ 1 ∧ (s.base.Clear → s.underWay = 0)

/-- No overlay is out of reach, and a visible one has a login under way. -/
def Settled (s : LoginViewController) : Prop :=
  s.base.Reached ∧ (s.underWay = 0 → s.base.Clear)

/-- The steps, by what they do to the overlays and to the number of logins under way. -/
inductive Moves (s : LoginViewController) : Act → LoginViewController → Prop
  | send {t : LoginViewController} (email senha : String) (hbase : t.base = s.base.showLoading)
      (hunderWay : t.underWay = s.underWay + 1) : Moves s (.entrarButton email senha) t
  | refuse {t : LoginViewController} (email senha : String)
      (hbase : t.base = s.base.showLoading.hiddenLoading) (hunderWay : t.underWay = s.underWay) :
    Moves s (.entrarButton email senha) t
  | answer {t : LoginViewController} (i : ℕ) (authResult : Option AuthUser) (error : Option String)
      (hbase : t.base = s.base) (hcalled : error.isSome = true ∨ authResult.isSome = true)
      (hunderWay : t.underWay = s.underWay) : Moves s (.respond i authResult error) t
  | ignore {t : LoginViewController} (i : ℕ) (hbase : t.base = s.base)
      (hunderWay : t.underWay + 1 = s.underWay) : Moves s (.respond i none none) t
  | report {t : LoginViewController} (hbase : t.base = s.base.hiddenLoading)
      (hunderWay : t.underWay + 1 = s.underWay) : Moves s .runMain t

theorem moves_entrarButton (s : LoginViewController) (email senha : String) :
    Moves s (.entrarButton email senha) (s.entrarButton email senha) := by
  rw [entrarButton]
  by_cases hfields : checkFields email senha
  · rw [if_pos hfields]
    refine .send email senha rfl ?_
    simp only [underWay, List.length_append, List.length_cons, List.length_nil]
    omega
  · rw [if_neg hfields]
    exact .refuse email senha rfl rfl

theorem moves_respond (s : LoginViewController) {i : ℕ} (hi : i < s.logins.length)
    (authResult : Option AuthUser) (error : Option String) :
    Moves s (.respond i authResult error) (s.respond i authResult error) := by
  have hlength : (s.logins.eraseIdx i).length + 1 = s.logins.length :=
    (congrArg (· + 1) (List.length_eraseIdx_of_lt hi)).trans (by omega)
  rcases error with _ | error
  · rcases authResult with _ | user
    · refine .ignore i rfl ?_
      simp only [underWay, respond, AuthenticationWorker.login, Option.toList_none, List.append_nil]
      omega
    · refine .answer i (some user) none rfl (Or.inr rfl) ?_
      simp only [underWay, respond, AuthenticationWorker.login, Option.toList_some,
        List.length_append, List.length_cons, List.length_nil]
      omega
  · refine .answer i authResult (some error) rfl (Or.inl rfl) ?_
    simp only [underWay, respond, AuthenticationWorker.login, Option.toList_some,
      List.length_append, List.length_cons, List.length_nil]
    omega

theorem moves_of_step {s t : LoginViewController} {a : Act} (hstep : s.step a = some t) :
    Moves s a t := by
  cases a with
  | entrarButton email senha =>
    obtain rfl := Option.some_inj.mp hstep
    exact moves_entrarButton s email senha
  | respond i authResult error =>
    obtain ⟨hi, hstep⟩ := Option.ite_none_right_eq_some.mp hstep
    obtain rfl := Option.some_inj.mp hstep
    exact moves_respond s hi authResult error
  | runMain =>
    rw [step] at hstep
    split at hstep
    · exact absurd hstep (by simp)
    · next error blocks hblocks =>
      obtain rfl := Option.some_inj.mp hstep
      have hlength : s.underWay = s.logins.length + (blocks.length + 1) := by
        rw [underWay, hblocks, List.length_cons]
      cases error with
      | none => exact .report rfl hlength.symm
      | some error => exact .report rfl hlength.symm

theorem OneUnderWay.step {s t : LoginViewController} {a : Act} (hs : s.OneUnderWay)
    (hstep : LoginViewController.step s a = some t) : t.OneUnderWay := by
  intro hreached
  cases moves_of_step hstep with
  | send email senha hbase hunderWay =>
    rw [hbase] at hreached ⊢
    have hclear : s.base.Clear := BaseViewController.reached_showLoading_iff.mp hreached
    have hidle : s.underWay = 0 := (hs hclear.reached).2 hclear
    exact ⟨by omega, fun h ↦ absurd h (BaseViewController.not_clear_showLoading _)⟩
  | refuse email senha hbase hunderWay =>
    rw [hbase, BaseViewController.reached_hiddenLoading_iff] at hreached
    have hclear : s.base.Clear := BaseViewController.reached_showLoading_iff.mp hreached
    have hidle : s.underWay = 0 := (hs hclear.reached).2 hclear
    exact ⟨by omega, fun _ ↦ by omega⟩
  | answer i authResult error hbase hcalled hunderWay =>
    rw [hbase] at hreached ⊢
    rw [hunderWay]
    exact hs hreached
  | ignore i hbase hunderWay =>
    rw [hbase] at hreached
    have hone : s.underWay ≤ 1 := (hs hreached).1
    exact ⟨by omega, fun _ ↦ by omega⟩
  | report hbase hunderWay =>
    rw [hbase, BaseViewController.reached_hiddenLoading_iff] at hreached
    have hone : s.underWay ≤ 1 := (hs hreached).1
    exact ⟨by omega, fun _ ↦ by omega⟩

/-- A run stays settled exactly as long as its steps are orderly. -/
theorem settled_step_iff {s t : LoginViewController} {a : Act} (hs : s.OneUnderWay)
    (hstep : LoginViewController.step s a = some t) : t.Settled ↔ s.Settled ∧ s.Orderly a := by
  cases moves_of_step hstep with
  | send email senha hbase hunderWay =>
    rw [Settled, hbase, BaseViewController.reached_showLoading_iff]
    constructor
    · rintro ⟨hclear, -⟩
      exact ⟨⟨hclear.reached, fun _ ↦ hclear⟩, (hs hclear.reached).2 hclear⟩
    · rintro ⟨⟨-, hsettled⟩, hidle⟩
      exact ⟨hsettled hidle, fun h ↦ by omega⟩
  | refuse email senha hbase hunderWay =>
    rw [Settled, hbase, BaseViewController.reached_hiddenLoading_iff,
      BaseViewController.clear_hiddenLoading_iff, BaseViewController.reached_showLoading_iff]
    constructor
    · rintro ⟨hclear, -⟩
      exact ⟨⟨hclear.reached, fun _ ↦ hclear⟩, (hs hclear.reached).2 hclear⟩
    · rintro ⟨⟨-, hsettled⟩, hidle⟩
      exact ⟨hsettled hidle, fun _ ↦ hsettled hidle⟩
  | answer i authResult error hbase hcalled hunderWay =>
    rw [Settled, hbase, hunderWay]
    exact (and_iff_left hcalled).symm
  | ignore i hbase hunderWay =>
    -- the login was the only one under way, so its overlay has nobody left to hide it
    refine iff_of_false ?_ fun h ↦ h.2.elim Bool.false_ne_true Bool.false_ne_true
    rintro ⟨hreached, hsettled⟩
    rw [hbase] at hreached hsettled
    have hone : s.underWay ≤ 1 := (hs hreached).1
    have hclear : s.base.Clear := hsettled (by omega)
    have hidle : s.underWay = 0 := (hs hreached).2 hclear
    omega
  | report hbase hunderWay =>
    rw [Settled, hbase, BaseViewController.reached_hiddenLoading_iff,
      BaseViewController.clear_hiddenLoading_iff]
    constructor
    · rintro ⟨hreached, -⟩
      exact ⟨⟨hreached, fun h ↦ by omega⟩, trivial⟩
    · rintro ⟨⟨hreached, -⟩, -⟩
      exact ⟨hreached, fun _ ↦ hreached⟩

/-- No overlay of the login screen is visible in the end exactly if the run was orderly. -/
theorem clear_iff_of_run {usuario : UserObject} {acts : List Act} {s : LoginViewController}
    (hrun : (machine usuario).run acts = some s) (hquiet : s.Quiescent) :
    s.base.Clear ↔ (machine usuario).Allowed Orderly (machine usuario).start acts := by
  have hstart : (machine usuario).start.base.Clear :=
    BaseViewController.clear_hiddenLoading_iff.mpr BaseViewController.reached_loading
  have hsettledStart : (machine usuario).start.Settled := ⟨hstart.reached, fun _ ↦ hstart⟩
  have honeStart : (machine usuario).start.OneUnderWay := fun _ ↦ ⟨Nat.zero_le _, fun _ ↦ rfl⟩
  have hidle : s.underWay = 0 := by
    rw [underWay, hquiet.logins, hquiet.blocks]
    rfl
  rw [← Machine.run_iff_allowed (I := OneUnderWay) (fun _ _ _ hs hstep ↦ hs.step hstep)
    (fun _ _ _ ↦ settled_step_iff) honeStart hsettledStart hrun]
  exact ⟨fun hclear ↦ ⟨hclear.reached, fun _ ↦ hclear⟩, fun h ↦ h.2 hidle⟩

end LoginViewController

end Poketrader
