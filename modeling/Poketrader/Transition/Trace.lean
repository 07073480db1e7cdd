import Mathlib.Data.List.Perm.Basic
import Poketrader.Transition.Machine

/-!
# Traces and simulation

One step of a machine may be no step of another, or one, or several. `trace` collects, along a run,
the actions that its steps amount to on the other side, and `exec_trace_of_allowed` is forward
simulation: a relation kept by every allowed step relates the end of the run to the end of the
traced run.

## Records and relations

More rules turn a fact about one step into one about a run. `trace_invariant` is for a fact about
the state and all that has been traced so far. A part of the state that each step extends by what it
is traced to ends up extended by the whole trace (`eq_append_trace_of_exec`, and `perm_of_exec`
where the order may be lost), and a preorder that each step respects relates the two ends
(`rel_of_exec`). What holds at the end and did not at the start has come about somewhere on the way
(`of_exec_or_exists_prefix`).
-/

namespace Machine

variable {σ τ α β : Type*} {M : Machine σ α} {N : Machine τ β}

/-- A weaker restriction allows more. -/
theorem Allowed.mono {G H : σ → α → Prop} (h : ∀ s a, G s a → H s a) {as : List α} {s : σ}
    (hG : M.Allowed G s as) : M.Allowed H s as := by
  induction as generalizing s with
  | nil => trivial
  | cons a as ih =>
    intro t ht
    obtain ⟨hGa, hGas⟩ := hG t ht
    exact ⟨h s a hGa, ih hGas⟩

/-- Actions that are allowed in every state. -/
theorem allowed_of_forall_mem {G : σ → α → Prop} {as : List α} (h : ∀ a ∈ as, ∀ s, G s a) (s : σ) :
    M.Allowed G s as := by
  induction as generalizing s with
  | nil => trivial
  | cons a as ih =>
    exact fun t _ ↦ ⟨h a List.mem_cons_self s, ih (fun b hb ↦ h b (List.mem_cons_of_mem _ hb)) t⟩

/-- A run of one step. -/
theorem exec_of_step {s t : σ} {a : α} (h : M.step s a = some t) : M.exec s [a] = some t :=
  exec_cons_eq_some.mpr ⟨t, h, rfl⟩

theorem allowed_singleton {G : σ → α → Prop} {s : σ} {a : α} (h : G s a) : M.Allowed G s [a] :=
  fun _ _ ↦ ⟨h, trivial⟩

/-- A run in two parts. -/
theorem exec_append (as bs : List α) (s : σ) :
    M.exec s (as ++ bs) = (M.exec s as).bind fun t ↦ M.exec t bs := by
  induction as generalizing s with
  | nil => rfl
  | cons a as ih =>
    rw [List.cons_append, exec_cons, exec_cons, Option.bind_assoc]
    exact congrArg _ (funext ih)

theorem exec_append_of_exec {as : List α} {s t : σ} (h : M.exec s as = some t) (bs : List α) :
    M.exec s (as ++ bs) = M.exec t bs := by
  rw [exec_append, h, Option.bind_some]

theorem run_append {as bs : List α} {s t : σ} (has : M.run as = some s)
    (hbs : M.exec s bs = some t) : M.run (as ++ bs) = some t := by
  rw [run, exec_append_of_exec has, hbs]

/-- A run in two parts is allowed if its parts are. -/
theorem allowed_append {G : σ → α → Prop} {as : List α} {s t : σ} (h : M.exec s as = some t)
    (has : M.Allowed G s as) {bs : List α} (hbs : M.Allowed G t bs) :
    M.Allowed G s (as ++ bs) := by
  induction as generalizing s with
  | nil =>
    obtain rfl := Option.some_inj.mp h
    exact hbs
  | cons a as ih =>
    obtain ⟨u, hu, hut⟩ := exec_cons_eq_some.mp h
    obtain ⟨hGa, hGas⟩ := has u hu
    exact (allowed_cons hu).mpr ⟨hGa, ih hut hGas⟩

variable (M)

/-- What the steps taken from `s` along the actions amount to, in order. -/
def trace (f : σ → α → List β) : σ → List α → List β
  | _, [] => []
  | s, a :: as => f s a ++ (M.step s a).elim [] fun t ↦ trace f t as

variable {M} {f : σ → α → List β}

@[simp] theorem trace_nil (s : σ) : M.trace f s [] = [] := rfl

theorem trace_cons {s t : σ} {a : α} (h : M.step s a = some t) (as : List α) :
    M.trace f s (a :: as) = f s a ++ M.trace f t as := by
  rw [trace, h, Option.elim_some]

theorem trace_congr {g : σ → α → List β} (h : ∀ s a, f s a = g s a) (as : List α) (s : σ) :
    M.trace f s as = M.trace g s as := by
  rw [show f = g from funext₂ h]

/-- Selecting from a trace is selecting at each step. -/
theorem filterMap_trace {γ : Type*} (g : β → Option γ) (as : List α) (s : σ) :
    (M.trace f s as).filterMap g = M.trace (fun s a ↦ (f s a).filterMap g) s as := by
  induction as generalizing s with
  | nil => rfl
  | cons a as ih =>
    rw [trace, trace, List.filterMap_append]
    cases M.step s a with
    | none => rfl
    | some t => rw [Option.elim_some, Option.elim_some, ih t]

/-- **Forward simulation.** If every allowed step is matched from related states by the actions it
is traced to, an allowed run is matched by its trace. -/
theorem exec_trace_of_allowed {G : σ → α → Prop} {R : σ → τ → Prop}
    (hstep : ∀ s a t m, R s m → G s a → M.step s a = some t →
      ∃ m', N.exec m (f s a) = some m' ∧ R t m') :
    ∀ {as : List α} {s t : σ} {m : τ}, R s m → M.Allowed G s as → M.exec s as = some t →
      ∃ m', N.exec m (M.trace f s as) = some m' ∧ R t m' := by
  intro as
  induction as with
  | nil =>
    intro s t m hR _ ht
    obtain rfl := Option.some_inj.mp ht
    exact ⟨m, rfl, hR⟩
  | cons a as ih =>
    intro s t m hR hG ht
    obtain ⟨u, hu, hut⟩ := exec_cons_eq_some.mp ht
    obtain ⟨hGa, hGas⟩ := hG u hu
    obtain ⟨n, hn, hRn⟩ := hstep s a u m hR hGa hu
    obtain ⟨m', hm', hRm'⟩ := ih hRn hGas hut
    refine ⟨m', ?_, hRm'⟩
    rw [trace_cons hu, exec_append_of_exec hn, hm']

/-- The traced run is allowed, if each allowed step is traced to an allowed one. -/
theorem allowed_trace {G : σ → α → Prop} {H : τ → β → Prop} {R : σ → τ → Prop}
    (hstep : ∀ s a t m, R s m → G s a → M.step s a = some t →
      N.Allowed H m (f s a) ∧ ∃ m', N.exec m (f s a) = some m' ∧ R t m') :
    ∀ {as : List α} {s t : σ} {m : τ}, R s m → M.Allowed G s as → M.exec s as = some t →
      N.Allowed H m (M.trace f s as) := by
  intro as
  induction as with
  | nil => exact fun _ _ _ ↦ trivial
  | cons a as ih =>
    intro s t m hR hG ht
    obtain ⟨u, hu, hut⟩ := exec_cons_eq_some.mp ht
    obtain ⟨hGa, hGas⟩ := hG u hu
    obtain ⟨hH, n, hn, hRn⟩ := hstep s a u m hR hGa hu
    rw [trace_cons hu]
    exact allowed_append hn hH (ih hRn hGas hut)

/-- What every allowed step is traced to satisfies, the whole trace satisfies. -/
theorem forall_mem_trace {G : σ → α → Prop} {I : σ → Prop} {Q : β → Prop}
    (hI : ∀ s a t, I s → G s a → M.step s a = some t → I t)
    (hQ : ∀ s a t, I s → G s a → M.step s a = some t → ∀ b ∈ f s a, Q b) :
    ∀ {as : List α} {s t : σ}, I s → M.Allowed G s as → M.exec s as = some t →
      ∀ b ∈ M.trace f s as, Q b := by
  intro as
  induction as with
  | nil => exact fun _ _ _ b hb ↦ absurd hb List.not_mem_nil
  | cons a as ih =>
    intro s t hs hG ht b hb
    obtain ⟨u, hu, hut⟩ := exec_cons_eq_some.mp ht
    obtain ⟨hGa, hGas⟩ := hG u hu
    rw [trace_cons hu, List.mem_append] at hb
    rcases hb with hb | hb
    · exact hQ s a u hs hGa hu b hb
    · exact ih (hI s a u hs hGa hu) hGas hut b hb

/-- What every allowed step keeps true of the state and of what has been traced before it. -/
theorem trace_invariant {G : σ → α → Prop} {I : σ → List β → Prop}
    (hI : ∀ s l a t, I s l → G s a → M.step s a = some t → I t (l ++ f s a)) :
    ∀ {as : List α} {s t : σ} {l : List β}, I s l → M.Allowed G s as → M.exec s as = some t →
      I t (l ++ M.trace f s as) := by
  intro as
  induction as with
  | nil =>
    intro s t l hs _ ht
    obtain rfl := Option.some_inj.mp ht
    rwa [trace_nil, List.append_nil]
  | cons a as ih =>
    intro s t l hs hG ht
    obtain ⟨u, hu, hut⟩ := exec_cons_eq_some.mp ht
    obtain ⟨hGa, hGas⟩ := hG u hu
    rw [trace_cons hu, ← List.append_assoc]
    exact ih (hI s l a u hs hGa hu) hGas hut

/-- A record that each step extends by what the step is traced to. -/
theorem eq_append_trace_of_exec {g : σ → List β}
    (hstep : ∀ s a t, M.step s a = some t → g t = g s ++ f s a) :
    ∀ {as : List α} {s t : σ}, M.exec s as = some t → g t = g s ++ M.trace f s as := by
  intro as
  induction as with
  | nil =>
    intro s t ht
    obtain rfl := Option.some_inj.mp ht
    rw [trace_nil, List.append_nil]
  | cons a as ih =>
    intro s t ht
    obtain ⟨u, hu, hut⟩ := exec_cons_eq_some.mp ht
    rw [ih hut, hstep s a u hu, trace_cons hu, List.append_assoc]

/-- The same, where the order may be lost. -/
theorem perm_of_exec {g : σ → List β}
    (hstep : ∀ s a t, M.step s a = some t → (g t).Perm (g s ++ f s a)) :
    ∀ {as : List α} {s t : σ}, M.exec s as = some t → (g t).Perm (g s ++ M.trace f s as) := by
  intro as
  induction as with
  | nil =>
    intro s t ht
    obtain rfl := Option.some_inj.mp ht
    rw [trace_nil, List.append_nil]
  | cons a as ih =>
    intro s t ht
    obtain ⟨u, hu, hut⟩ := exec_cons_eq_some.mp ht
    rw [trace_cons hu, ← List.append_assoc]
    exact (ih hut).trans ((hstep s a u hu).append_right _)

/-- **Since the first state.** If only states with `Q` can bring `I` about, where `I` holds it has
held from the first state on, or there was one with `Q` on the way. -/
theorem of_exec_or_exists_prefix {I Q : σ → Prop}
    (hstep : ∀ s a t, M.step s a = some t → I t → I s ∨ Q s) :
    ∀ {as : List α} {s t : σ}, M.exec s as = some t → I t →
      I s ∨ ∃ bs u, bs <+: as ∧ M.exec s bs = some u ∧ Q u := by
  intro as
  induction as with
  | nil =>
    intro s t ht hI
    obtain rfl := Option.some_inj.mp ht
    exact .inl hI
  | cons a as ih =>
    intro s t ht hI
    obtain ⟨u, hu, hut⟩ := exec_cons_eq_some.mp ht
    rcases ih hut hI with hIu | ⟨bs, v, hprefix, hv, hQ⟩
    · rcases hstep s a u hu hIu with hIs | hQ
      · exact .inl hIs
      · exact .inr ⟨[], s, List.nil_prefix, rfl, hQ⟩
    · exact .inr ⟨a :: bs, v, List.cons_prefix_cons.mpr ⟨rfl, hprefix⟩,
        exec_cons_eq_some.mpr ⟨u, hu, hv⟩, hQ⟩

/-- A reflexive and transitive relation that each step respects relates the ends of a run. -/
theorem rel_of_exec {r : σ → σ → Prop} (hrefl : ∀ s, r s s)
    (htrans : ∀ {s t u}, r s t → r t u → r s u)
    (hstep : ∀ s a t, M.step s a = some t → r s t) :
    ∀ {as : List α} {s t : σ}, M.exec s as = some t → r s t := by
  intro as
  induction as with
  | nil =>
    intro s t ht
    obtain rfl := Option.some_inj.mp ht
    exact hrefl s
  | cons a as ih =>
    intro s t ht
    obtain ⟨u, hu, hut⟩ := exec_cons_eq_some.mp ht
    exact htrans (hstep s a u hu) (ih hut)

end Machine
