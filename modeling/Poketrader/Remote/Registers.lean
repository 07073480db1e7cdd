import Mathlib.Logic.Function.Basic
import Mathlib.Tactic.Common

/-!
# Registers behind a network

One register for each key, written and read from afar. A write is on its way until it is stored or
rejected, in any order. A question is on its way until the register is read, and so is what was read
then, until it arrives: by that time the register may hold something else. Whoever has asked can
give up, and is then answered no more.

Nothing here computes. What can be said of all values at rest and on their way is what was said of
each value when it was written, and that is `Carries`, together with what was known of each question
when it was asked.
-/

namespace Remote

structure Registers (K V ι : Type*) where
  values : K → Option V
  /-- The writes on their way. -/
  writes : List (K × V)
  /-- The questions on their way, each with who asks. -/
  queries : List (ι × K)
  /-- What has been read, on its way back. -/
  answers : List (ι × K × Option V)

/-- What the other end does. -/
inductive Event where
  | store (n : ℕ)
  | reject (n : ℕ)
  /-- The register of the `n`-th question is read. -/
  | evaluate (n : ℕ)
  /-- The `n`-th question fails. -/
  | fail (n : ℕ)

namespace Registers

variable {K V ι : Type*}

def empty : Registers K V ι := ⟨fun _ ↦ none, [], [], []⟩

section

variable (r : Registers K V ι)

def write (k : K) (v : V) : Registers K V ι := { r with writes := r.writes ++ [(k, v)] }

def ask (who : ι) (k : K) : Registers K V ι := { r with queries := r.queries ++ [(who, k)] }

/-- `who` gives up. -/
def forget [DecidableEq ι] (who : ι) : Registers K V ι :=
  { r with
    queries := r.queries.filter fun q ↦ q.1 ≠ who
    answers := r.answers.filter fun a ↦ a.1 ≠ who }

def event [DecidableEq K] : Event → Option (Registers K V ι)
  | .store n => (r.writes[n]?).map fun (k, v) ↦
      { r with values := Function.update r.values k (some v), writes := r.writes.eraseIdx n }
  | .reject n => (r.writes[n]?).map fun _ ↦ { r with writes := r.writes.eraseIdx n }
  | .evaluate n => (r.queries[n]?).map fun (who, k) ↦
      { r with
        queries := r.queries.eraseIdx n
        answers := r.answers ++ [(who, k, r.values k)] }
  | .fail n => (r.queries[n]?).map fun (who, k) ↦
      { r with queries := r.queries.eraseIdx n, answers := r.answers ++ [(who, k, none)] }

/-- The `n`-th answer arrives: whose it is, what was read, and the rest. -/
def arrive (n : ℕ) : Option (ι × Option V × Registers K V ι) :=
  (r.answers[n]?).map fun (who, _, v) ↦ (who, v, { r with answers := r.answers.eraseIdx n })

/-- Something that `who` has asked has not been answered. -/
def Waits (who : ι) : Prop :=
  (∃ q ∈ r.queries, q.1 = who) ∨ ∃ a ∈ r.answers, a.1 = who

/-- Every value satisfies `W` of its key, and every question `A` of who has asked it. -/
structure Carries (W : K → V → Prop) (A : ι → K → Prop) : Prop where
  values : ∀ k v, r.values k = some v → W k v
  writes : ∀ w ∈ r.writes, W w.1 w.2
  queries : ∀ q ∈ r.queries, A q.1 q.2
  answers : ∀ a ∈ r.answers, A a.1 a.2.1 ∧ ∀ v, a.2.2 = some v → W a.2.1 v

end

variable {r r' : Registers K V ι} {W W' : K → V → Prop} {A A' : ι → K → Prop}

theorem not_waits_forget [DecidableEq ι] (r : Registers K V ι) (who : ι) :
    ¬(r.forget who).Waits who := by
  rintro (⟨q, hq, heq⟩ | ⟨a, ha, heq⟩)
  · exact of_decide_eq_true (List.mem_filter.mp hq).2 heq
  · exact of_decide_eq_true (List.mem_filter.mp ha).2 heq

/-- Giving up does not make anybody wait. -/
theorem Waits.of_forget [DecidableEq ι] {who other : ι} (h : (r.forget who).Waits other) :
    r.Waits other := by
  rcases h with ⟨q, hq, heq⟩ | ⟨a, ha, heq⟩
  · exact .inl ⟨q, (List.mem_filter.mp hq).1, heq⟩
  · exact .inr ⟨a, (List.mem_filter.mp ha).1, heq⟩

namespace Carries

theorem empty : Carries (Registers.empty : Registers K V ι) W A where
  values _ v h := absurd h.symm (Option.some_ne_none v)
  writes _ h := absurd h List.not_mem_nil
  queries _ h := absurd h List.not_mem_nil
  answers _ h := absurd h List.not_mem_nil

/-- What is said of the values may be weakened, and of the questions of those who wait. -/
theorem imp (h : r.Carries W A) (hW : ∀ k v, W k v → W' k v)
    (hA : ∀ who k, r.Waits who → A who k → A' who k) : r.Carries W' A' where
  values k v hk := hW k v (h.values k v hk)
  writes w hw := hW _ _ (h.writes w hw)
  queries q hq := hA _ _ (.inl ⟨q, hq, rfl⟩) (h.queries q hq)
  answers a ha := ⟨hA _ _ (.inr ⟨a, ha, rfl⟩) (h.answers a ha).1,
    fun v hv ↦ hW _ v ((h.answers a ha).2 v hv)⟩

theorem write (h : r.Carries W A) {k : K} {v : V} (hv : W k v) : (r.write k v).Carries W A where
  values := h.values
  writes w hw := by
    rcases List.mem_append.mp hw with hw | hw
    · exact h.writes w hw
    · rw [List.mem_singleton.mp hw]
      exact hv
  queries := h.queries
  answers := h.answers

theorem ask (h : r.Carries W A) {who : ι} {k : K} (hk : A who k) : (r.ask who k).Carries W A where
  values := h.values
  writes := h.writes
  queries q hq := by
    rcases List.mem_append.mp hq with hq | hq
    · exact h.queries q hq
    · rw [List.mem_singleton.mp hq]
      exact hk
  answers := h.answers

theorem forget [DecidableEq ι] (h : r.Carries W A) (who : ι) : (r.forget who).Carries W A where
  values := h.values
  writes := h.writes
  queries q hq := h.queries q ((List.mem_filter.mp hq).1)
  answers a ha := h.answers a ((List.mem_filter.mp ha).1)

/-- An answer that fits its question. -/
theorem answer (h : r.Carries W A) {n : ℕ} {who : ι} {k : K} (hq : r.queries[n]? = some (who, k))
    {v : Option V} (hv : ∀ w, v = some w → W k w) :
    ({ r with queries := r.queries.eraseIdx n, answers := r.answers ++ [(who, k, v)] } :
      Registers K V ι).Carries W A where
  values := h.values
  writes := h.writes
  queries q hq := h.queries q (List.mem_of_mem_eraseIdx hq)
  answers a ha := by
    rcases List.mem_append.mp ha with ha | ha
    · exact h.answers a ha
    · rw [List.mem_singleton.mp ha]
      exact ⟨h.queries _ (List.mem_of_getElem? hq), hv⟩

theorem event [DecidableEq K] (h : r.Carries W A) {e : Event} (he : r.event e = some r') :
    r'.Carries W A := by
  cases e with
  | store n =>
    obtain ⟨⟨k, v⟩, hw, rfl⟩ := Option.map_eq_some_iff.mp he
    refine ⟨fun j u hu ↦ ?_, fun w hw ↦ h.writes w (List.mem_of_mem_eraseIdx hw), h.queries,
      h.answers⟩
    change Function.update r.values k (some v) j = some u at hu
    by_cases hj : j = k
    · subst hj
      rw [Function.update_self] at hu
      rw [← Option.some_inj.mp hu]
      exact h.writes _ (List.mem_of_getElem? hw)
    · rw [Function.update_of_ne hj] at hu
      exact h.values j u hu
  | reject n =>
    obtain ⟨w, hw, rfl⟩ := Option.map_eq_some_iff.mp he
    exact ⟨h.values, fun w hw ↦ h.writes w (List.mem_of_mem_eraseIdx hw), h.queries, h.answers⟩
  | evaluate n =>
    obtain ⟨⟨who, k⟩, hq, rfl⟩ := Option.map_eq_some_iff.mp he
    exact h.answer hq fun w hw ↦ h.values k w hw
  | fail n =>
    obtain ⟨⟨who, k⟩, hq, rfl⟩ := Option.map_eq_some_iff.mp he
    exact h.answer hq fun w hw ↦ absurd hw.symm (Option.some_ne_none w)

/-- What arrives is an answer to a question of whom it arrives at. -/
theorem arrive (h : r.Carries W A) {n : ℕ} {who : ι} {v : Option V}
    (ha : r.arrive n = some (who, v, r')) :
    r'.Carries W A ∧ ∃ k, A who k ∧ ∀ w, v = some w → W k w := by
  obtain ⟨⟨who', k, v'⟩, hget, heq⟩ := Option.map_eq_some_iff.mp ha
  obtain ⟨rfl, rfl, rfl⟩ : who' = who ∧ v' = v ∧ _ = r' := by
    simpa only [Prod.mk.injEq] using heq
  obtain ⟨hwho, hv⟩ := h.answers _ (List.mem_of_getElem? hget)
  exact ⟨⟨h.values, h.writes, h.queries, fun a ha ↦ h.answers a (List.mem_of_mem_eraseIdx ha)⟩,
    k, hwho, hv⟩

/-- What may be asked of whom is a matter of who waits. -/
theorem iff_waits {p : ι → Prop} :
    r.Carries (fun _ _ ↦ True) (fun who _ ↦ p who) ↔ ∀ who, r.Waits who → p who := by
  refine ⟨fun h who hwaits ↦ ?_, fun h ↦ ⟨fun _ _ _ ↦ trivial, fun _ _ ↦ trivial, ?_, ?_⟩⟩
  · rcases hwaits with ⟨q, hq, rfl⟩ | ⟨a, ha, rfl⟩
    · exact h.queries q hq
    · exact (h.answers a ha).1
  · exact fun q hq ↦ h _ (.inl ⟨q, hq, rfl⟩)
  · exact fun a ha ↦ ⟨h _ (.inr ⟨a, ha, rfl⟩), fun _ _ ↦ trivial⟩

end Carries

end Registers

end Remote
