import Mathlib.Data.List.Basic
import Mathlib.Data.List.Infix
import Mathlib.Tactic.Common

/-!
# Chains of pages

A list that a server hands out page by page, each page naming the key of the page after it. The
keys are distinct, so a key determines its page, and a client that asks for the key it was last
given gets the pages in order.

A client holds the items collected and the key to ask for next. It is in step with the chain when
both belong to one number of pages. `reads_first` and `Reads.append` say that an answer to the
right key keeps it in step; nothing is said of an answer to another key.
-/

namespace Pagination

/-- A page: the key it is served under, and its items. -/
structure Page (κ α : Type*) where
  key : κ
  items : List α

/-- A non-empty chain of pages under distinct keys. -/
structure Chain (κ α : Type*) where
  first : Page κ α
  rest : List (Page κ α)
  /-- A key names one page. -/
  keys_nodup : ((first :: rest).map Page.key).Nodup

namespace Chain

variable {κ α : Type*} (C : Chain κ α)

def pages : List (Page κ α) := C.first :: C.rest

/-- The whole list. -/
def items : List α := C.pages.flatMap Page.items

/-- The items of the first `n` pages. -/
def loaded (n : ℕ) : List α := (C.pages.take n).flatMap Page.items

/-- The key of page `n`, which is what page `n - 1` names as its next. -/
def keyAt (n : ℕ) : Option κ := (C.pages[n]?).map Page.key

/-- The answer to a key: the items of its page, and the key of the page that follows. -/
def serveFrom [DecidableEq κ] : List (Page κ α) → κ → Option (List α × Option κ)
  | [], _ => none
  | p :: ps, k => if p.key = k then some (p.items, (ps[0]?).map Page.key) else serveFrom ps k

def serve [DecidableEq κ] (k : κ) : Option (List α × Option κ) := serveFrom C.pages k

/-- The items of the pages `ns`, in their order, as often as they are listed. -/
def collected (ns : List ℕ) : List α := ns.flatMap fun n ↦ (C.pages[n]?).elim [] Page.items

/-- The client holds the first `n` pages and knows the key of page `n`. -/
structure Reads (n : ℕ) (xs : List α) (next : Option κ) : Prop where
  items_eq : xs = C.loaded n
  next_eq : next = C.keyAt n

variable {C}

theorem loaded_isPrefix (n : ℕ) : C.loaded n <+: C.items := by
  have htake := List.take_prefix n C.pages
  exact htake.flatMap Page.items

theorem loaded_succ {n : ℕ} {p : Page κ α} (h : C.pages[n]? = some p) :
    C.loaded (n + 1) = C.loaded n ++ p.items := by
  rw [loaded, loaded, List.take_add_one, h, Option.toList_some, List.flatMap_append,
    List.flatMap_singleton]

theorem Reads.isPrefix {n : ℕ} {xs : List α} {next : Option κ} (h : C.Reads n xs next) :
    xs <+: C.items := h.items_eq ▸ loaded_isPrefix n

/-- What is collected are items of the chain. -/
theorem mem_items_of_mem_collected {ns : List ℕ} {x : α} (h : x ∈ C.collected ns) :
    x ∈ C.items := by
  obtain ⟨n, -, hx⟩ := List.mem_flatMap.mp h
  rcases hp : C.pages[n]? with - | p
  · rw [hp] at hx
    exact absurd hx List.not_mem_nil
  · rw [hp] at hx
    exact List.mem_flatMap.mpr ⟨p, List.mem_of_getElem? hp, hx⟩

/-- There is no page after the last. -/
theorem keyAt_length : C.keyAt C.pages.length = none := by
  rw [keyAt, List.getElem?_eq_none (Nat.le_refl _)]
  rfl

/-- A client in step that has as many items as there are has all of them. -/
theorem Reads.eq_items {n : ℕ} {xs : List α} {next : Option κ} (h : C.Reads n xs next)
    (hlen : C.items.length ≤ xs.length) : xs = C.items :=
  h.isPrefix.eq_of_length_le hlen

theorem serveFrom_eq_some [DecidableEq κ] {ps : List (Page κ α)} {k : κ} {xs : List α}
    {next : Option κ} (h : serveFrom ps k = some (xs, next)) :
    ∃ n p, ps[n]? = some p ∧ p.key = k ∧ xs = p.items ∧ next = (ps[n + 1]?).map Page.key := by
  induction ps with
  | nil => exact absurd h (by simp [serveFrom])
  | cons p ps ih =>
    rw [serveFrom] at h
    split at h
    · next hk =>
      obtain ⟨rfl, rfl⟩ := Prod.mk.inj (Option.some_inj.mp h)
      exact ⟨0, p, rfl, hk, rfl, rfl⟩
    · obtain ⟨n, q, hq, hrest⟩ := ih h
      exact ⟨n + 1, q, hq, hrest⟩

variable [DecidableEq κ]

/-- An answer is one of the pages, whatever key was asked for. -/
theorem exists_collected_of_serve {k : κ} {xs : List α} {next : Option κ}
    (h : C.serve k = some (xs, next)) : ∃ n, xs = C.collected [n] ∧ next = C.keyAt (n + 1) := by
  obtain ⟨n, p, hp, -, rfl, hnext⟩ := serveFrom_eq_some h
  refine ⟨n, ?_, hnext⟩
  rw [collected, List.flatMap_singleton, hp, Option.elim_some]

/-- The answer to the key of page `n` is page `n`, since no other page has that key. -/
theorem serve_eq_some_of_keyAt {n : ℕ} {k : κ} {xs : List α} {next : Option κ}
    (h : C.serve k = some (xs, next)) (hk : C.keyAt n = some k) :
    ∃ p, C.pages[n]? = some p ∧ xs = p.items ∧ next = C.keyAt (n + 1) := by
  obtain ⟨m, p, hm, hpk, hxs, hnext⟩ := serveFrom_eq_some h
  have hmk : C.keyAt m = some k := by rw [keyAt, hm, Option.map_some, hpk]
  have hlen : m < (C.pages.map Page.key).length := by
    rw [List.length_map]
    exact (List.getElem?_eq_some_iff.mp hm).1
  have hmn : m = n := by
    refine (List.getElem?_inj hlen C.keys_nodup).mp ?_
    rw [List.getElem?_map, List.getElem?_map]
    exact hmk.trans hk.symm
  subst hmn
  exact ⟨p, hm, hxs, hnext⟩

/-- The answer to the first key puts a client in step. -/
theorem reads_first {xs : List α} {next : Option κ} (h : C.serve C.first.key = some (xs, next)) :
    C.Reads 1 xs next := by
  obtain ⟨p, hp, hxs, hnext⟩ := serve_eq_some_of_keyAt (n := 0) h rfl
  exact ⟨by rw [loaded_succ hp, hxs]; rfl, hnext⟩

/-- The answer to the key a client was given keeps it in step. -/
theorem Reads.append {n : ℕ} {xs ys : List α} {k : κ} {next : Option κ}
    (h : C.Reads n xs (some k)) (hserve : C.serve k = some (ys, next)) :
    C.Reads (n + 1) (xs ++ ys) next := by
  obtain ⟨p, hp, rfl, hnext⟩ := serve_eq_some_of_keyAt hserve h.next_eq.symm
  exact ⟨by rw [loaded_succ hp, h.items_eq], hnext⟩

end Chain

end Pagination
