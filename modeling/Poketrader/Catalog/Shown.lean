import Poketrader.Catalog.InfiniteScroll

/-!
# Loaded Pokemon and the rows of the table

The block that reads the rows again is put on the main queue when a later page is requested, and the
answer to that request puts nothing on it. So an answer is shown only if it comes before that block
has run, or if another one is still to come. The first page is different: its answer dispatches the
block that attaches the table.

What is followed below is that a table with no block under way shows what has been loaded. The
states without a request under way are among these.
-/

open Foundation

namespace Poketrader

namespace SelecionarPokemonVC

/-- With no block under way the table shows a row for every Pokemon loaded. -/
def Shown (vc : SelecionarPokemonVC) : Prop :=
  vc.globalBlocks = 0 → vc.mainBlocks = [] → vc.rows = vc.controller.numberOfRows

/-- The answer leaves as many Pokemon as there are: a later page without results or, where the first
page was asked for once more, a page of just that length. -/
def AddsNoRow (vc : SelecionarPokemonVC) (url : Option String) (answer : TaskAnswer) : Prop :=
  match url with
  | some _ => vc.controller.pokemonList = none ∨
      ((PokemonWork.page answer).map PokemonList.results).getD [] = []
  | none => ((PokemonWork.page answer).map fun list ↦ list.results.length).getD 0
      = vc.controller.numberOfRows

instance (vc : SelecionarPokemonVC) (url : Option String) (answer : TaskAnswer) :
    Decidable (AddsNoRow vc url answer) :=
  match url with
  | some _ => inferInstanceAs (Decidable (_ ∨ _))
  | none => inferInstanceAs (Decidable (_ = _))

/-- An answer for `loadMoreData` comes while a block is under way, or adds no row. -/
def InTime (vc : SelecionarPokemonVC) : Act → Prop
  | .respond i answer => ∀ request ∈ vc.requests[i]?, request.caller = .loadMoreData →
      vc.globalBlocks = 0 → vc.mainBlocks = [] → AddsNoRow vc request.url answer
  | _ => True

instance (vc : SelecionarPokemonVC) : ∀ a, Decidable (InTime vc a)
  | .respond _ _ => inferInstanceAs (Decidable (∀ request ∈ _, _))
  | .scroll | .runGlobal | .runMain | .cellForRow _ | .didSelectRow _ => isTrue trivial

/-- Reloads are dispatched from an attached table only, and `viewDidLoad` asks for the first
page. -/
structure Attached (vc : SelecionarPokemonVC) : Prop where
  globalBlocks : 0 < vc.globalBlocks → vc.attached = true
  mainBlocks : MainBlock.reload ∈ vc.mainBlocks → vc.attached = true
  viewDidLoad : ∀ request ∈ vc.requests, request.caller = .viewDidLoad → request.url = none

variable {P : Platform} {vc vc' : SelecionarPokemonVC}

theorem attached_viewDidLoad : Attached (viewDidLoad P) where
  globalBlocks h := by
    rw [viewDidLoad, send_globalBlocks] at h
    exact absurd h (Nat.lt_irrefl 0)
  mainBlocks h := by
    rw [viewDidLoad, send_mainBlocks] at h
    exact absurd h List.not_mem_nil
  viewDidLoad request hrequest _ := by
    rcases mem_send_requests hrequest with h | rfl
    · exact absurd h List.not_mem_nil
    · rfl

theorem Attached.step {a : Act} (h : Attached vc) (hstep : (machine P).step vc a = some vc') :
    Attached vc' := by
  cases steps_of_step hstep with
  | scroll hattached =>
    refine ⟨fun _ ↦ ?_, fun _ ↦ ?_, fun request hrequest ↦ ?_⟩
    · rwa [scrollViewDidScroll_attached]
    · rwa [scrollViewDidScroll_attached]
    · rw [scrollViewDidScroll_requests] at hrequest
      exact h.viewDidLoad request hrequest
  | runGlobal hpos =>
    refine ⟨fun _ ↦ ?_, fun _ ↦ ?_, fun request hrequest hcaller ↦ ?_⟩
    · rw [loadBlock_attached]
      exact h.globalBlocks hpos
    · rw [loadBlock_attached]
      exact h.globalBlocks hpos
    · rcases mem_loadBlock_requests hrequest with hrequest | rfl
      · exact h.viewDidLoad request hrequest hcaller
      · exact absurd hcaller (by simp)
  | runMain block mainBlocks hblocks =>
    have hreload : block = .reload → vc.attached = true :=
      fun hblock ↦ h.mainBlocks (by simp [hblocks, hblock])
    have hattached := (mainBlock_rows { vc with mainBlocks } hreload).1
    refine ⟨fun _ ↦ hattached, fun _ ↦ hattached, fun request hrequest ↦ ?_⟩
    rw [mainBlock_requests] at hrequest
    exact h.viewDidLoad request hrequest
  | respond i answer request hrequest =>
    refine ⟨fun hpos ↦ ?_, fun hmem ↦ ?_, fun r hr ↦ ?_⟩
    · rw [answered_globalBlocks] at hpos
      rw [answered_attached]
      exact h.globalBlocks hpos
    · rw [answered_mainBlocks, List.mem_append] at hmem
      rw [answered_attached]
      rcases hmem with hmem | hmem
      · exact h.mainBlocks hmem
      · split at hmem
        · exact absurd (List.mem_singleton.mp hmem) (by decide)
        · exact absurd hmem List.not_mem_nil
    · rw [answered_requests] at hr
      exact h.viewDidLoad r (List.mem_of_mem_eraseIdx hr)
  | cellForRow _ _ => exact h
  | didSelectRow _ _ => exact h

/-! ## What an answer does to the number of rows -/

/-- An answer leaves the number of rows alone exactly if it adds none. -/
theorem numberOfRows_answered_iff (vc : SelecionarPokemonVC) (url : Option String)
    (answer : TaskAnswer) :
    vc.controller.numberOfRows = (vc.controller.getTwentyPokemons url
      (PokemonWork.getTwentyPokemons answer)).1.numberOfRows ↔ AddsNoRow vc url answer := by
  cases url with
  | none =>
    rw [SelecionarPokemonController.getTwentyPokemons_first]
    exact eq_comm
  | some url =>
    rw [SelecionarPokemonController.getTwentyPokemons_next]
    simp only [AddsNoRow, SelecionarPokemonController.numberOfRows, Option.map_map]
    cases vc.controller.pokemonList with
    | none => exact iff_of_true rfl (Or.inl rfl)
    | some list =>
      simp only [Option.map_some, Option.getD_some, Function.comp_def, List.length_append,
        reduceCtorEq, false_or]
      rw [← List.length_eq_zero_iff]
      omega

/-- One step: a table with no block under way goes on showing what is loaded exactly if the step is
in time. -/
theorem shown_step_iff {a : Act} (hI : Attached vc) (hP : Shown vc)
    (hstep : (machine P).step vc a = some vc') : Shown vc' ↔ InTime vc a := by
  cases steps_of_step hstep with
  | scroll hattached =>
    refine iff_of_true (fun hglobal hmain ↦ ?_) trivial
    have hle := le_scrollViewDidScroll_globalBlocks vc
    rw [scrollViewDidScroll_rows, scrollViewDidScroll_controller]
    rw [scrollViewDidScroll_mainBlocks] at hmain
    exact hP (by omega) hmain
  | runGlobal hpos =>
    refine iff_of_true (fun _ hmain ↦ ?_) trivial
    rw [loadBlock_mainBlocks] at hmain
    exact absurd hmain (List.append_ne_nil_of_right_ne_nil _ (List.cons_ne_nil _ _))
  | runMain block mainBlocks hblocks =>
    have hreload : block = .reload → vc.attached = true :=
      fun hblock ↦ hI.mainBlocks (by simp [hblocks, hblock])
    refine iff_of_true (fun _ _ ↦ ?_) trivial
    rw [mainBlock_controller]
    exact (mainBlock_rows { vc with mainBlocks } hreload).2
  | respond i answer request hrequest =>
    simp only [Shown, answered_globalBlocks, answered_mainBlocks, answered_rows,
      answered_controller, InTime, hrequest, Option.mem_some_iff, forall_eq']
    have hmem : request ∈ vc.requests := List.mem_of_getElem? hrequest
    cases hcaller : request.caller with
    | viewDidLoad =>
      -- the answer dispatches the block that attaches the table
      have hurl := hI.viewDidLoad request hmem hcaller
      refine iff_of_true (fun _ hmain ↦ ?_) fun h ↦ absurd h (by decide)
      rw [if_pos ⟨rfl, hurl⟩] at hmain
      exact absurd hmain (List.append_ne_nil_of_right_ne_nil _ (List.cons_ne_nil _ _))
    | loadMoreData =>
      simp only [reduceCtorEq, false_and, if_false, List.append_nil, true_implies]
      refine forall_congr' fun hglobal ↦ forall_congr' fun hmain ↦ ?_
      rw [hP hglobal hmain]
      exact numberOfRows_answered_iff vc request.url answer
  | cellForRow _ _ => exact iff_of_true hP trivial
  | didSelectRow _ _ => exact iff_of_true hP trivial

/-- The table shows what is loaded whenever no block is under way, all along a run, exactly if every
answer for a later page comes while one is, or adds no row. -/
theorem always_shown_iff (acts : List Act) :
    (machine P).Always Shown (machine P).start acts
      ↔ (machine P).Allowed InTime (machine P).start acts := by
  refine Machine.always_iff_allowed (I := Attached) (fun _ _ _ h hstep ↦ h.step hstep)
    (fun _ _ _ hI hP hstep ↦ shown_step_iff hI hP hstep) attached_viewDidLoad fun _ _ ↦ ?_
  have hcontroller : (machine P).start.controller = initial.controller := send_controller _
  have hrows : (machine P).start.rows = 0 := send_rows _
  rw [hrows, hcontroller]
  rfl

/-- **Loaded Pokemon are shown.** In a run whose answers for later pages all come while a block is
under way, or add no row, the table has a row for every Pokemon loaded in every state without
requests and blocks under way. -/
theorem rows_eq_numberOfRows (P : Platform) {acts : List Act} {vc : SelecionarPokemonVC}
    (hrun : (machine P).run acts = some vc)
    (htime : (machine P).Allowed InTime (machine P).start acts)
    (_ : vc.requests = []) (hglobal : vc.globalBlocks = 0) (hmain : vc.mainBlocks = []) :
    vc.rows = vc.controller.numberOfRows :=
  ((always_shown_iff acts).mpr htime).of_exec hrun hglobal hmain

/-- The second page comes before the reload block runs. -/
def promptActs : List Act :=
  [.respond 0 firstAnswer, .runMain, .scroll, .runGlobal, .respond 0 secondAnswer, .runMain]

theorem rows_eq_numberOfRows_promptActs :
    ∃ vc, (machine .ascii).run promptActs = some vc ∧ vc.rows = 3 ∧
      vc.rows = vc.controller.numberOfRows := by
  have hrun : (machine .ascii).run promptActs
      = some (((machine .ascii).run promptActs).getD initial) := by rfl
  exact ⟨_, hrun, by decide,
    rows_eq_numberOfRows .ascii hrun (by decide) (by decide) (by decide) (by decide)⟩

/-- The reload block runs before the second page comes. -/
def lateActs : List Act :=
  [.respond 0 firstAnswer, .runMain, .scroll, .runGlobal, .runMain, .respond 0 secondAnswer]

/-- Nothing is under way any more, and the table has two rows for three Pokemon. -/
theorem lateActs_hidden :
    ∃ vc, (machine .ascii).run lateActs = some vc ∧ vc.requests = [] ∧ vc.globalBlocks = 0 ∧
      vc.mainBlocks = [] ∧ vc.rows = 2 ∧ vc.controller.numberOfRows = 3 :=
  ⟨((machine .ascii).run lateActs).getD initial, by rfl, by decide, by decide, by decide,
    by decide, by decide⟩

end SelecionarPokemonVC

end Poketrader
