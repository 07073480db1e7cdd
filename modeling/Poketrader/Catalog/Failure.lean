import Poketrader.Catalog.InfiniteScroll

/-!
# Failing pages

A page that cannot be had comes from the worker without an error text, and the controller takes an
answer without an error text for a good one. So a failed request for a later page erases the URL of
that page, after which the next load asks for the first page again; and a failed request for the
first page erases the list. Neither is reported as a failure to anyone.
-/

open Foundation Document

namespace Poketrader

/-- The transport failed, there is no data, or the data is no page. -/
def Fails (answer : TaskAnswer) : Prop :=
  answer.error.isSome = true ∨ answer.data = none ∨
    ∃ data, answer.data = some data ∧ data.decode PokemonList.decode = none

theorem Fails.page_eq_none {answer : TaskAnswer} (h : Fails answer) :
    PokemonWork.page answer = none := by
  obtain herror | hdata | ⟨data, hdata, hdecode⟩ := h
  · exact PokemonWork.page_of_error herror
  · rw [PokemonWork.page, hdata]
    rfl
  · rw [PokemonWork.page, hdata]
    exact hdecode

namespace SelecionarPokemonVC

variable {P : Platform} {vc : SelecionarPokemonVC} {request : PageRequest} {answer : TaskAnswer}

/-- What the completion of a request is told. -/
def told (vc : SelecionarPokemonVC) (request : PageRequest) (answer : TaskAnswer) :
    Option (Bool × String) :=
  (vc.controller.getTwentyPokemons request.url (PokemonWork.getTwentyPokemons answer)).2

/-- The URL the next load block asks for. -/
def nextLoad (P : Platform) (vc : SelecionarPokemonVC) : Option String :=
  PokemonWork.getTwentyPokemonsURL P vc.controller.nextURL

/-- A failed page leaves the list intact and is reported, and the next load asks for it again. -/
structure LeavesIntact (P : Platform) (vc : SelecionarPokemonVC) (request : PageRequest)
    (answer : TaskAnswer) : Prop where
  results_eq : (vc.answered request answer).controller.pokemonList.map PokemonList.results
    = vc.controller.pokemonList.map PokemonList.results
  next_eq : (vc.answered request answer).controller.nextURL = vc.controller.nextURL
  count_eq : (vc.answered request answer).controller.numberOfPokemonsInDatabase
    = vc.controller.numberOfPokemonsInDatabase
  told_false : ∃ message, vc.told request answer = some (false, message)
  asks_again : (vc.answered request answer).nextLoad P
    = PokemonWork.getTwentyPokemonsURL P request.url

/-! ## What a failure does -/

theorem told_ne_false (message : String) : vc.told request answer ≠ some (false, message) := by
  rw [told, SelecionarPokemonController.getTwentyPokemons_told]
  split <;> simp

/-- A failed request for the first page. -/
theorem answered_controller_of_first (h : Fails answer) (hurl : request.url = none) :
    (vc.answered request answer).controller = { pokemonList := none } := by
  rw [answered_controller, hurl, SelecionarPokemonController.getTwentyPokemons_first,
    h.page_eq_none]

/-- A failed request for a later page. -/
theorem answered_controller_of_next {url : String} (h : Fails answer)
    (hurl : request.url = some url) :
    (vc.answered request answer).controller
      = { pokemonList := vc.controller.pokemonList.map fun list ↦ { list with next := none } } := by
  rw [answered_controller, hurl, SelecionarPokemonController.getTwentyPokemons_next,
    h.page_eq_none]
  simp only [Option.map_none, Option.getD_none, List.append_nil, Option.bind_none]

/-- After any failure the next load asks for the first page. -/
theorem nextLoad_of_fails (h : Fails answer) :
    (vc.answered request answer).nextLoad P = PokemonWork.getTwentyPokemonsURL P none := by
  have hnext : (vc.answered request answer).controller.nextURL = none := by
    cases hurl : request.url with
    | none => rw [answered_controller_of_first h hurl]; rfl
    | some url =>
      rw [answered_controller_of_next h hurl, SelecionarPokemonController.nextURL]
      cases vc.controller.pokemonList <;> rfl
  rw [nextLoad, hnext]

/-- A failure keeps the rows exactly if it was that of a later page, or there were none. -/
theorem numberOfRows_of_fails (h : Fails answer) :
    (vc.answered request answer).controller.numberOfRows = vc.controller.numberOfRows
      ↔ request.url.isSome = true ∨ vc.controller.numberOfRows = 0 := by
  cases hurl : request.url with
  | none =>
    rw [answered_controller_of_first h hurl]
    simp [SelecionarPokemonController.numberOfRows, eq_comm]
  | some url =>
    rw [answered_controller_of_next h hurl]
    simp [SelecionarPokemonController.numberOfRows, Option.map_map, Function.comp_def]

/-- **Failing pages.** Whatever the state of the screen and whichever page was asked for, a failure
does not leave the list intact: its completion is not told. The next load asks for the first page,
and the rows are kept exactly if it was a later page that failed. -/
theorem not_leavesIntact_of_fails (P : Platform) (vc : SelecionarPokemonVC)
    (request : PageRequest) (answer : TaskAnswer) (h : Fails answer) :
    ¬LeavesIntact P vc request answer ∧
      (vc.answered request answer).nextLoad P = PokemonWork.getTwentyPokemonsURL P none ∧
      ((vc.answered request answer).controller.numberOfRows = vc.controller.numberOfRows
        ↔ request.url.isSome = true ∨ vc.controller.numberOfRows = 0) := by
  refine ⟨fun hintact ↦ ?_, nextLoad_of_fails h, numberOfRows_of_fails h⟩
  obtain ⟨message, htold⟩ := hintact.told_false
  exact told_ne_false message htold

/-- No data at all. -/
def noAnswer : TaskAnswer where
  data := none
  error := some "offline"
  data_eq_none _ := rfl

theorem not_leavesIntact_of_fails_noAnswer :
    ¬LeavesIntact .ascii (((machine .ascii).run patientActs).getD initial)
        { url := some "https://pokeapi.co/?offset=3", caller := .loadMoreData } noAnswer :=
  (not_leavesIntact_of_fails .ascii _ _ _ (Or.inl rfl)).1

/-- The second page is loaded, the third fails, and the first is asked for in its place. -/
def failingActs : List Act :=
  patientActs ++ [.runMain, .respond 0 noAnswer, .scroll, .runGlobal]

/-- The failure of the third page is told to nobody and loses its URL; the answer to the next load
then takes back the second page. -/
theorem failingActs_lose_rows : ∃ vc vc',
    (machine .ascii).run failingActs = some vc ∧
    vc.controller.numberOfRows = 3 ∧ vc.controller.nextURL = none ∧
    vc.requests = [{ url := none, caller := .loadMoreData }] ∧
    (machine .ascii).step vc (.respond 0 firstAnswer) = some vc' ∧
    vc'.controller.numberOfRows = 2 ∧
    ¬LeavesIntact .ascii (((machine .ascii).run patientActs).getD initial)
      { url := some "https://pokeapi.co/?offset=3", caller := .loadMoreData } noAnswer := by
  refine ⟨((machine .ascii).run failingActs).getD initial, _, rfl, by decide, by decide, by decide,
    rfl, by decide, fun hintact ↦ ?_⟩
  exact absurd hintact.next_eq (by decide)

end SelecionarPokemonVC

end Poketrader
