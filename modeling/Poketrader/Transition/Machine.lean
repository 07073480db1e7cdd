import Mathlib.Data.List.Basic
import Mathlib.Tactic.Common

/-!
# Machines with partial steps

A machine is a start state and a step function that answers `none` where an action is not
enabled. A run is the list of actions taken. Nothing here knows what the states are: the screens,
the callbacks and the document store of the application are all instances.

## Two ways to restrict a run

Many properties hold only of runs that avoid some bad scheduling. The restriction is put on the
single step, as a predicate of the state before it and the action taken, and `Allowed` asks it of
every step of the run. `Always` asks a property of every state visited.

Three rules connect them. `always_iff_allowed` is for a property that a bad step breaks and a later
step may repair, and `always_iff_allowed_of_invariant` for one that needs more than itself to be
kept; `iff_allowed` is for a property of a growing record, which once broken stays broken. All give
an equivalence, so the restriction is not only sufficient. `iff_exists_mem` is the dual of the last:
a property that, once established, stays.
-/

/-- A machine with deterministic, partial steps. -/
structure Machine (σ α : Type*) where
  /-- The state in which every run starts. -/
  start : σ
  /-- One step, or `none` where the action is not enabled. -/
  step : σ → α → Option σ

namespace Machine

variable {σ α : Type*} (M : Machine σ α)

/-- The state reached by taking the actions in order, if all of them are enabled. -/
def exec : σ → List α → Option σ
  | s, [] => some s
  | s, a :: as => (M.step s a).bind fun t ↦ exec t as

/-- A run from the start state. -/
def run (as : List α) : Option σ := M.exec M.start as

/-- Every step taken from `s` along the actions is one that `G` allows. -/
def Allowed (G : σ → α → Prop) : σ → List α → Prop
  | _, [] => True
  | s, a :: as => ∀ t, M.step s a = some t → G s a ∧ Allowed G t as

/-- Every state visited from `s` along the actions satisfies `P`, the first one included. -/
def Always (P : σ → Prop) : σ → List α → Prop
  | s, [] => P s
  | s, a :: as => P s ∧ ∀ t, M.step s a = some t → Always P t as

variable {M}

@[simp] theorem exec_nil (s : σ) : M.exec s [] = some s := rfl

@[simp] theorem exec_cons (s : σ) (a : α) (as : List α) :
    M.exec s (a :: as) = (M.step s a).bind fun t ↦ M.exec t as := rfl

theorem exec_cons_eq_some {s t : σ} {a : α} {as : List α} :
    M.exec s (a :: as) = some t ↔ ∃ u, M.step s a = some u ∧ M.exec u as = some t := by
  rw [exec_cons, Option.bind_eq_some_iff]

/-- A run is allowed under two conditions if it is under each. -/
theorem Allowed.and {G H : σ → α → Prop} {as : List α} {s : σ} (hG : M.Allowed G s as)
    (hH : M.Allowed H s as) : M.Allowed (fun s a ↦ G s a ∧ H s a) s as := by
  induction as generalizing s with
  | nil => trivial
  | cons a as ih =>
    intro t ht
    obtain ⟨hGa, hGas⟩ := hG t ht
    obtain ⟨hHa, hHas⟩ := hH t ht
    exact ⟨⟨hGa, hHa⟩, ih hGas hHas⟩

theorem allowed_cons {G : σ → α → Prop} {s t : σ} {a : α} {as : List α}
    (h : M.step s a = some t) : M.Allowed G s (a :: as) ↔ G s a ∧ M.Allowed G t as := by
  refine ⟨fun hG ↦ hG t h, fun hG u hu ↦ ?_⟩
  obtain rfl : t = u := Option.some_inj.mp (h.symm.trans hu)
  exact hG

instance decidableAllowed {G : σ → α → Prop} [∀ s a, Decidable (G s a)] :
    ∀ (as : List α) (s : σ), Decidable (M.Allowed G s as)
  | [], _ => isTrue trivial
  | a :: as, s =>
    match h : M.step s a with
    | none => isTrue fun t ht ↦ absurd (h.symm.trans ht) (by simp)
    | some t =>
      have := decidableAllowed (G := G) as t
      decidable_of_iff (G s a ∧ M.Allowed G t as) (allowed_cons h).symm

/-! ## Refinement -/

/-- A machine whose steps are the images of another's has the images of its runs. -/
theorem exec_map {τ : Type*} {N : Machine τ α} {f : σ → τ}
    (h : ∀ s a, N.step (f s) a = (M.step s a).map f) (as : List α) (s : σ) :
    N.exec (f s) as = (M.exec s as).map f := by
  induction as generalizing s with
  | nil => rfl
  | cons a as ih =>
    rw [exec_cons, exec_cons, h]
    cases M.step s a with
    | none => rfl
    | some t => exact ih t

/-! ## Invariants -/

/-- What the start of a run satisfies, and every allowed step preserves, its end satisfies. -/
theorem invariant_of_allowed {G : σ → α → Prop} {I : σ → Prop}
    (hstep : ∀ s a t, I s → G s a → M.step s a = some t → I t) :
    ∀ {as : List α} {s t : σ}, I s → M.Allowed G s as → M.exec s as = some t → I t := by
  intro as
  induction as with
  | nil =>
    intro s t hs _ ht
    rw [exec_nil, Option.some_inj] at ht
    exact ht ▸ hs
  | cons a as ih =>
    intro s t hs hG ht
    obtain ⟨u, hu, hut⟩ := exec_cons_eq_some.mp ht
    obtain ⟨hGa, hGas⟩ := hG u hu
    exact ih (hstep s a u hs hGa hu) hGas hut

/-- The unrestricted form: every step preserves `I`. -/
theorem invariant {I : σ → Prop} (hstep : ∀ s a t, I s → M.step s a = some t → I t)
    {as : List α} {s t : σ} (hs : I s) (ht : M.exec s as = some t) : I t := by
  induction as generalizing s with
  | nil =>
    rw [exec_nil, Option.some_inj] at ht
    exact ht ▸ hs
  | cons a as ih =>
    obtain ⟨u, hu, hut⟩ := exec_cons_eq_some.mp ht
    exact ih (hstep s a u hs hu) hut

/-- What holds in every state visited holds in the last one. -/
theorem Always.of_exec {P : σ → Prop} {as : List α} {s t : σ} (h : M.Always P s as)
    (ht : M.exec s as = some t) : P t := by
  induction as generalizing s with
  | nil =>
    rw [exec_nil, Option.some_inj] at ht
    exact ht ▸ h
  | cons a as ih =>
    obtain ⟨u, hu, hut⟩ := exec_cons_eq_some.mp ht
    exact ih (h.2 u hu) hut

/-- What holds in every state visited holds in the first one. -/
theorem Always.head {P : σ → Prop} {as : List α} {s : σ} (h : M.Always P s as) : P s := by
  rcases as with - | ⟨a, as⟩
  · exact h
  · exact h.1

/-! ## Exact restrictions -/

/-- A property that a step breaks exactly when `G` forbids it holds all along a run exactly when
`G` allows the whole run. The auxiliary invariant `I` is one that every step preserves. -/
theorem always_iff_allowed {G : σ → α → Prop} {I P : σ → Prop}
    (hI : ∀ s a t, I s → M.step s a = some t → I t)
    (hP : ∀ s a t, I s → P s → M.step s a = some t → (P t ↔ G s a)) :
    ∀ {as : List α} {s : σ}, I s → P s → (M.Always P s as ↔ M.Allowed G s as) := by
  intro as
  induction as with
  | nil => exact fun _ hPs ↦ ⟨fun _ ↦ trivial, fun _ ↦ hPs⟩
  | cons a as ih =>
    intro s hIs hPs
    -- both sides ask for the state after the first step, and for the rest of the run from there
    have hcons : ∀ t, M.step s a = some t →
        (M.Always P t as ↔ G s a ∧ M.Allowed G t as) := by
      intro t ht
      constructor
      · intro h
        exact ⟨(hP s a t hIs hPs ht).mp h.head, (ih (hI s a t hIs ht) h.head).mp h⟩
      · rintro ⟨hGa, hGas⟩
        have hPt : P t := (hP s a t hIs hPs ht).mpr hGa
        exact (ih (hI s a t hIs ht) hPt).mpr hGas
    exact ⟨fun h t ht ↦ (hcons t ht).mp (h.2 t ht),
      fun h ↦ ⟨hPs, fun t ht ↦ (hcons t ht).mpr (h t ht)⟩⟩

/-- A property that an invariant of the allowed steps implies, and that every other step breaks: it
holds all along a run exactly when `G` allows the whole run. -/
theorem always_iff_allowed_of_invariant {G : σ → α → Prop} {I P : σ → Prop}
    (hI : ∀ s a t, I s → G s a → M.step s a = some t → I t) (hP : ∀ s, I s → P s)
    (hG : ∀ s a t, M.step s a = some t → P t → G s a) :
    ∀ {as : List α} {s : σ}, I s → (M.Always P s as ↔ M.Allowed G s as) := by
  intro as
  induction as with
  | nil => exact fun hIs ↦ ⟨fun _ ↦ trivial, fun _ ↦ hP _ hIs⟩
  | cons a as ih =>
    intro s hIs
    constructor
    · rintro ⟨-, hrest⟩ t ht
      have hGa : G s a := hG s a t ht (hrest t ht).head
      exact ⟨hGa, (ih (hI s a t hIs hGa ht)).mp (hrest t ht)⟩
    · intro hallowed
      refine ⟨hP s hIs, fun t ht ↦ ?_⟩
      obtain ⟨hGa, hGas⟩ := hallowed t ht
      exact (ih (hI s a t hIs hGa ht)).mpr hGas

/-- A property of a growing record, which each step either extends well, exactly when `G` allows
it, or spoils for good: at the end of a run it holds exactly when `G` allows the whole run. -/
theorem iff_allowed {G : σ → α → Prop} {I P : σ → Prop}
    (hI : ∀ s a t, I s → M.step s a = some t → I t)
    (hP : ∀ s a t, I s → M.step s a = some t → (P t ↔ P s ∧ G s a)) :
    ∀ {as : List α} {s t : σ}, I s → M.exec s as = some t →
      (P t ↔ P s ∧ M.Allowed G s as) := by
  intro as
  induction as with
  | nil =>
    intro s t _ ht
    rw [exec_nil, Option.some_inj] at ht
    subst ht
    exact ⟨fun h ↦ ⟨h, trivial⟩, And.left⟩
  | cons a as ih =>
    intro s t hIs ht
    obtain ⟨u, hu, hut⟩ := exec_cons_eq_some.mp ht
    rw [ih (hI s a u hIs hu) hut, hP s a u hIs hu, and_assoc]
    refine and_congr_right fun _ ↦ ⟨?_, fun h ↦ h u hu⟩
    rintro h v hv
    obtain rfl : u = v := Option.some_inj.mp (hu.symm.trans hv)
    exact h

/-- A property that the actions `G` picks establish for good, and no other action changes: at the
end of a run it holds exactly when it held before or the run takes such an action. -/
theorem iff_exists_mem {G : α → Prop} {I P : σ → Prop}
    (hI : ∀ s a t, I s → M.step s a = some t → I t)
    (hP : ∀ s a t, I s → M.step s a = some t → (P t ↔ P s ∨ G a)) :
    ∀ {as : List α} {s t : σ}, I s → M.exec s as = some t → (P t ↔ P s ∨ ∃ a ∈ as, G a) := by
  intro as
  induction as with
  | nil =>
    intro s t _ ht
    rw [exec_nil, Option.some_inj] at ht
    simp [ht]
  | cons a as ih =>
    intro s t hIs ht
    obtain ⟨u, hu, hut⟩ := exec_cons_eq_some.mp ht
    rw [ih (hI s a u hIs hu) hut, hP s a u hIs hu, List.exists_mem_cons_iff, or_assoc]

/-- A property of the start that only bad steps spoil: a run keeps it exactly if it is allowed. -/
theorem run_iff_allowed {G : σ → α → Prop} {I P : σ → Prop}
    (hI : ∀ s a t, I s → M.step s a = some t → I t)
    (hP : ∀ s a t, I s → M.step s a = some t → (P t ↔ P s ∧ G s a))
    (hIstart : I M.start) (hPstart : P M.start) {as : List α} {t : σ} (hrun : M.run as = some t) :
    P t ↔ M.Allowed G M.start as := by
  rw [iff_allowed hI hP hIstart hrun, and_iff_right hPstart]

/-- A property the start lacks: a run reaches it exactly if one of its actions establishes it. -/
theorem run_iff_exists_mem {G : α → Prop} {I P : σ → Prop}
    (hI : ∀ s a t, I s → M.step s a = some t → I t)
    (hP : ∀ s a t, I s → M.step s a = some t → (P t ↔ P s ∨ G a))
    (hIstart : I M.start) (hPstart : ¬P M.start) {as : List α} {t : σ} (hrun : M.run as = some t) :
    P t ↔ ∃ a ∈ as, G a := by
  rw [iff_exists_mem hI hP hIstart hrun, or_iff_right hPstart]

end Machine
