import Mathlib.Order.Basic
import Poketrader.Transition.Trace

/-!
# Registries of owned entries

A registry knows, for each key, what has become of it. A key is reserved by somebody, who may then
publish an entry under it, amend the content of the entry and withdraw it. Nobody else may do any
of this, and a withdrawn key is never used again.

## Phases are ordered

The phases of a key are its history in four stages, so they are ordered by what can still come: an
action only moves a key up. Who reserved it and what was published under it never change, which is
part of the order, so all of this is one monotonicity statement about runs. What does change is the
content, and `content_of_exec` computes it from the amendments.
-/

namespace Registry

/-- What has become of a key: `U` are the owners, `O` what is published for good, `C` the content
that can be amended. -/
inductive Phase (U O C : Type*) where
  | free
  /-- Drawn by somebody, with nothing published under it yet. -/
  | reserved (who : U)
  | live (who : U) (origin : O) (content : C)
  /-- Published once, and withdrawn. -/
  | gone (who : U) (origin : O)

/-- An action, by its author, on a key. -/
inductive Act (K U O A : Type*) where
  | reserve (who : U) (k : K)
  | publish (who : U) (k : K) (origin : O)
  | amend (who : U) (k : K) (a : A)
  | withdraw (who : U) (k : K)

section

variable {K U O C A : Type*}

namespace Act

def who : Act K U O A → U
  | .reserve who _ | .publish who _ _ | .amend who _ _ | .withdraw who _ => who

def key : Act K U O A → K
  | .reserve _ k | .publish _ k _ | .amend _ k _ | .withdraw _ k => k

end Act

namespace Phase

/-- Whose key it is. -/
def owner : Phase U O C → Option U
  | .free => none
  | .reserved who | .live who _ _ | .gone who _ => some who

/-- Something has been published under the key, and by whom. -/
def Published (who : U) (origin : O) : Phase U O C → Prop
  | .free | .reserved _ => False
  | .live u o _ | .gone u o => u = who ∧ o = origin

/-- What can still become of a key. -/
protected def LE : Phase U O C → Phase U O C → Prop
  | .free, _ => True
  | .reserved who, p => p.owner = some who
  | .live who origin _, p => p.Published who origin
  | .gone who origin, .gone u o => u = who ∧ o = origin
  | .gone _ _, _ => False

theorem Published.owner_eq {p : Phase U O C} {who : U} {origin : O} (h : p.Published who origin) :
    p.owner = some who := by
  rcases p with - | u | ⟨u, o, c⟩ | ⟨u, o⟩
  · exact h.elim
  · exact h.elim
  · exact congrArg some h.1
  · exact congrArg some h.1

/-- What has been published stays so. -/
theorem Published.mono {p q : Phase U O C} {who : U} {origin : O} (h : p.Published who origin)
    (hle : p.LE q) : q.Published who origin := by
  rcases p with - | u | ⟨u, o, c⟩ | ⟨u, o⟩
  · exact h.elim
  · exact h.elim
  · obtain ⟨rfl, rfl⟩ := h
    exact hle
  · obtain ⟨rfl, rfl⟩ := h
    rcases q with - | u' | ⟨u', o', c'⟩ | ⟨u', o'⟩
    exacts [hle.elim, hle.elim, hle.elim, hle]

/-- So does the owner. -/
theorem owner_mono {p q : Phase U O C} {who : U} (h : p.owner = some who) (hle : p.LE q) :
    q.owner = some who := by
  rcases p with - | u | ⟨u, o, c⟩ | ⟨u, o⟩
  · exact absurd h.symm (Option.some_ne_none who)
  · exact hle.trans h
  · exact (Published.owner_eq hle).trans h
  · exact ((Published.mono (p := .gone u o) ⟨rfl, rfl⟩ hle).owner_eq).trans h

instance : Preorder (Phase U O C) where
  le := Phase.LE
  le_refl p := by
    rcases p with - | u | ⟨u, o, c⟩ | ⟨u, o⟩
    exacts [trivial, rfl, ⟨rfl, rfl⟩, ⟨rfl, rfl⟩]
  le_trans p q r hpq hqr := by
    rcases p with - | u | ⟨u, o, c⟩ | ⟨u, o⟩
    · trivial
    · exact owner_mono hpq hqr
    · exact Published.mono hpq hqr
    · rcases q with - | u' | ⟨u', o', c'⟩ | ⟨u', o'⟩
      · exact hpq.elim
      · exact hpq.elim
      · exact hpq.elim
      · obtain ⟨rfl, rfl⟩ := hpq
        exact hqr

/-- A live key stays live or goes, with what was published under it. -/
theorem live_le {p : Phase U O C} {who : U} {origin : O} {content : C}
    (h : Phase.live who origin content ≤ p) :
    (∃ content', p = .live who origin content') ∨ p = .gone who origin := by
  have hpub : p.Published who origin := h
  rcases p with - | u | ⟨u, o, c⟩ | ⟨u, o⟩
  · exact hpub.elim
  · exact hpub.elim
  · obtain ⟨rfl, rfl⟩ := hpub
    exact .inl ⟨c, rfl⟩
  · obtain ⟨rfl, rfl⟩ := hpub
    exact .inr rfl

/-- A withdrawn key stays withdrawn. -/
theorem gone_le {p : Phase U O C} {who : U} {origin : O} (h : Phase.gone who origin ≤ p) :
    p = .gone who origin := by
  rcases p with - | u | ⟨u, o, c⟩ | ⟨u, o⟩
  · exact False.elim h
  · exact False.elim h
  · exact False.elim h
  · obtain ⟨rfl, rfl⟩ : u = who ∧ o = origin := h
    rfl

section

variable (init : O → C) (amended : C → A → C) [DecidableEq U]

/-- What an action makes of the key it is about; `none` where it is not its author's to take. -/
def next : Phase U O C → Act K U O A → Option (Phase U O C)
  | .free, .reserve who _ => some (.reserved who)
  | .reserved u, .publish who _ origin =>
    if who = u then some (.live u origin (init origin)) else none
  | .live u origin content, .amend who _ a =>
    if who = u then some (.live u origin (amended content a)) else none
  | .live u origin _, .withdraw who _ => if who = u then some (.gone u origin) else none
  | _, _ => none

/-- The actions that are possible, case by case. -/
inductive Next : Phase U O C → Act K U O A → Phase U O C → Prop
  | reserve (who : U) (k : K) : Next .free (.reserve who k) (.reserved who)
  | publish (who : U) (k : K) (origin : O) :
    Next (.reserved who) (.publish who k origin) (.live who origin (init origin))
  | amend (who : U) (k : K) (a : A) (origin : O) (content : C) :
    Next (.live who origin content) (.amend who k a) (.live who origin (amended content a))
  | withdraw (who : U) (k : K) (origin : O) (content : C) :
    Next (.live who origin content) (.withdraw who k) (.gone who origin)

variable {init amended} {p q : Phase U O C} {a : Act K U O A}

theorem next_eq_some_iff : p.next init amended a = some q ↔ Next init amended p a q := by
  constructor
  · intro h
    rcases p with - | u | ⟨u, o, c⟩ | ⟨u, o⟩ <;>
      rcases a with ⟨who, k⟩ | ⟨who, k, origin⟩ | ⟨who, k, a⟩ | ⟨who, k⟩ <;>
      simp only [next, reduceCtorEq, Option.ite_none_right_eq_some, Option.some_inj] at h
    · exact h ▸ .reserve who k
    · obtain ⟨rfl, rfl⟩ := h
      exact .publish who k origin
    · obtain ⟨rfl, rfl⟩ := h
      exact .amend who k a o c
    · obtain ⟨rfl, rfl⟩ := h
      exact .withdraw who k o c
  · rintro (⟨who, k⟩ | ⟨who, k, origin⟩ | ⟨who, k, a, origin, content⟩ | ⟨who, k, origin, content⟩)
    exacts [rfl, if_pos rfl, if_pos rfl, if_pos rfl]

omit [DecidableEq U] in
theorem Next.le (h : Next init amended p a q) : p ≤ q := by
  rcases h with ⟨who, k⟩ | ⟨who, k, origin⟩ | ⟨who, k, a, origin, content⟩ |
    ⟨who, k, origin, content⟩
  exacts [trivial, rfl, ⟨rfl, rfl⟩, ⟨rfl, rfl⟩]

omit [DecidableEq U] in
/-- A key that has an owner is changed by its owner only. -/
theorem Next.who_eq (h : Next init amended p a q) {u : U} (hu : p.owner = some u) :
    a.who = u := by
  rcases h with ⟨who, k⟩ | ⟨who, k, origin⟩ | ⟨who, k, a, origin, content⟩ |
    ⟨who, k, origin, content⟩
  · exact absurd hu.symm (Option.some_ne_none u)
  · exact Option.some_inj.mp hu
  · exact Option.some_inj.mp hu
  · exact Option.some_inj.mp hu

end

end Phase

end

/-! ## Runs -/

section

variable {K U O C A : Type*} [DecidableEq K] [DecidableEq U]

/-- All keys, each in its phase. -/
def machine (init : O → C) (amended : C → A → C) : Machine (K → Phase U O C) (Act K U O A) where
  start _ := .free
  step m a := ((m a.key).next init amended a).map (Function.update m a.key)

variable {init : O → C} {amended : C → A → C} {m m' : K → Phase U O C} {a : Act K U O A}
  {acts : List (Act K U O A)} {k : K} {u : U}

theorem step_eq_some_iff : (machine init amended).step m a = some m' ↔
    ∃ q, Phase.Next init amended (m a.key) a q ∧ m' = Function.update m a.key q := by
  constructor
  · intro h
    obtain ⟨q, hq, rfl⟩ := Option.map_eq_some_iff.mp h
    exact ⟨q, Phase.next_eq_some_iff.mp hq, rfl⟩
  · rintro ⟨q, hq, rfl⟩
    exact Option.map_eq_some_iff.mpr ⟨q, Phase.next_eq_some_iff.mpr hq, rfl⟩

/-- The phases only move up. -/
theorem le_of_exec (h : (machine init amended).exec m acts = some m') : m ≤ m' := by
  refine Machine.rel_of_exec le_refl le_trans (fun s a t hstep ↦ ?_) h
  obtain ⟨q, hq, rfl⟩ := step_eq_some_iff.mp hstep
  exact le_update_iff.mpr ⟨hq.le, fun _ _ ↦ le_rfl⟩

/-- **Only its owner changes a key.** The phase of an owned key stays the same in a run without
actions of its owner on it. -/
theorem phase_eq_of_exec (hu : (m k).owner = some u)
    (hsilent : ∀ a ∈ acts, a.key = k → a.who ≠ u)
    (h : (machine init amended).exec m acts = some m') : m' k = m k := by
  induction acts generalizing m with
  | nil => rw [Option.some_inj.mp h]
  | cons a acts ih =>
    obtain ⟨n, hn, hexec⟩ := Machine.exec_cons_eq_some.mp h
    obtain ⟨q, hq, rfl⟩ := step_eq_some_iff.mp hn
    have hne : k ≠ a.key := by
      rintro rfl
      exact hsilent a List.mem_cons_self rfl (hq.who_eq hu)
    have hkeep : Function.update m a.key q k = m k := Function.update_of_ne hne _ _
    rw [ih (hkeep ▸ hu) (fun b hb ↦ hsilent b (List.mem_cons_of_mem _ hb)) hexec, hkeep]

/-- The amendments of a key, in order. -/
def amendments (k : K) (acts : List (Act K U O A)) : List A :=
  acts.filterMap fun
    | .amend _ j a => if j = k then some a else none
    | _ => none

omit [DecidableEq U] in
theorem amendments_cons_of_ne {a : Act K U O A} (h : a.key ≠ k) (acts : List (Act K U O A)) :
    amendments k (a :: acts) = amendments k acts := by
  rcases a with ⟨who, j⟩ | ⟨who, j, o⟩ | ⟨who, j, a⟩ | ⟨who, j⟩
  · rfl
  · rfl
  · have hj : ¬j = k := h
    simp only [amendments, List.filterMap_cons, if_neg hj]
  · rfl

omit [DecidableEq U] in
theorem amendments_eq_nil (h : ∀ who a, .amend who k a ∉ acts) :
    amendments (O := O) k acts = [] := by
  refine List.filterMap_eq_nil_iff.mpr fun act hact ↦ ?_
  rcases act with ⟨who, j⟩ | ⟨who, j, o⟩ | ⟨who, j, a⟩ | ⟨who, j⟩
  · rfl
  · rfl
  · refine if_neg ?_
    rintro rfl
    exact h who a hact
  · rfl

/-- **The content of a live key** is what its amendments have made of it. -/
theorem content_of_exec {origin : O} {content content' : C}
    (h : (machine init amended).exec m acts = some m')
    (hk : m k = .live u origin content) (hk' : m' k = .live u origin content') :
    content' = (amendments k acts).foldl amended content := by
  induction acts generalizing m content with
  | nil =>
    obtain rfl := Option.some_inj.mp h
    obtain ⟨-, -, rfl⟩ := Phase.live.inj (hk.symm.trans hk')
    rfl
  | cons a acts ih =>
    obtain ⟨n, hn, hexec⟩ := Machine.exec_cons_eq_some.mp h
    obtain ⟨q, hq, rfl⟩ := step_eq_some_iff.mp hn
    by_cases hkey : a.key = k
    · subst hkey
      have hkeep : Function.update m a.key q a.key = q := Function.update_self ..
      rw [hk] at hq
      rcases hq with - | - | ⟨_, j, a, _, _⟩ | ⟨_, j, _, _⟩
      · rw [ih hexec hkeep]
        simp only [amendments, Act.key, List.filterMap_cons, if_true, List.foldl_cons]
      · -- a withdrawn key is not live at the end
        have hgone : m' j = .gone u origin := by
          refine Phase.gone_le ?_
          have hle : Function.update m j (.gone u origin) j ≤ m' j := le_of_exec hexec j
          rwa [Function.update_self] at hle
        exact absurd (hgone.symm.trans hk') (by simp)
    · have hkeep : Function.update m a.key q k = m k := Function.update_of_ne (Ne.symm hkey) _ _
      rw [ih hexec (hkeep.trans hk), amendments_cons_of_ne hkey]

/-- The same from before the publication: an unpublished key has no amendments. -/
theorem content_of_exec_of_unpublished {origin : O} {content : C}
    (h : (machine init amended).exec m acts = some m')
    (hk : ∀ who o, ¬(m k).Published who o) (hk' : m' k = .live u origin content) :
    content = (amendments k acts).foldl amended (init origin) := by
  induction acts generalizing m with
  | nil =>
    obtain rfl := Option.some_inj.mp h
    exact absurd (show (m k).Published u origin from hk' ▸ ⟨rfl, rfl⟩) (hk u origin)
  | cons a acts ih =>
    obtain ⟨n, hn, hexec⟩ := Machine.exec_cons_eq_some.mp h
    obtain ⟨q, hq, rfl⟩ := step_eq_some_iff.mp hn
    by_cases hkey : a.key = k
    · subst hkey
      have hkeep : Function.update m a.key q a.key = q := Function.update_self ..
      have hle : q ≤ m' a.key := hkeep ▸ le_of_exec hexec a.key
      generalize hp : m a.key = p at hq hk
      rcases hq with ⟨who, j⟩ | ⟨who, j, o⟩ | ⟨who, j, a, o, c⟩ | ⟨who, j, o, c⟩
      · exact ih hexec fun _ _ hpub ↦ (hkeep ▸ hpub : (Phase.reserved who).Published _ _).elim
      · -- from the publication on, the key is live
        have hlive : m' j = .live u origin content := hk'
        obtain ⟨rfl, rfl⟩ : u = who ∧ origin = o := by
          have hpub : (m' j).Published who o := hle
          rw [hlive] at hpub
          exact hpub
        change content = (amendments j acts).foldl amended (init origin)
        exact content_of_exec hexec hkeep hlive
      · exact absurd ⟨rfl, rfl⟩ (hk who o)
      · exact absurd ⟨rfl, rfl⟩ (hk who o)
    · have hkeep : Function.update m a.key q k = m k := Function.update_of_ne (Ne.symm hkey) _ _
      rw [amendments_cons_of_ne hkey]
      exact ih hexec fun who o hpub ↦ hk who o (hkeep ▸ hpub)

/-- What is published has been published by an action. -/
theorem publish_mem_of_exec {origin : O} (h : (machine init amended).exec m acts = some m')
    (hk' : (m' k).Published u origin) :
    (m k).Published u origin ∨ .publish u k origin ∈ acts := by
  induction acts generalizing m with
  | nil => exact .inl (Option.some_inj.mp h ▸ hk')
  | cons a acts ih =>
    obtain ⟨n, hn, hexec⟩ := Machine.exec_cons_eq_some.mp h
    obtain ⟨q, hq, rfl⟩ := step_eq_some_iff.mp hn
    rcases ih hexec with hpub | hmem
    · by_cases hkey : a.key = k
      · subst hkey
        rw [Function.update_self] at hpub
        generalize m a.key = p at hq
        rcases hq with ⟨who, j⟩ | ⟨who, j, o⟩ | ⟨who, j, a, o, c⟩ | ⟨who, j, o, c⟩
        · exact hpub.elim
        · obtain ⟨rfl, rfl⟩ := hpub
          exact .inr List.mem_cons_self
        · exact .inl hpub
        · exact .inl hpub
      · rw [Function.update_of_ne (Ne.symm hkey)] at hpub
        exact .inl hpub
    · exact .inr (List.mem_cons_of_mem _ hmem)

end

end Registry
