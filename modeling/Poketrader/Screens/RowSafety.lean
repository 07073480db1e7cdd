import Poketrader.Catalog.InfiniteScroll
import Poketrader.Offers.Store
import Poketrader.Views.OffersTable

/-!
# Rows and subscripts

UIKit asks for the cell of any row below the number it was last told, and every such request
subscripts the array of a controller. On all three list screens an answer replaces that array long
before the table hears of it. If the new array is shorter than the table believes, the next cell
traps.

The condition is exact: the subscripts are safe all along a run just if no answer brings fewer
items than the rows read at the last reload. Pages after the first are appended, so on the Pokemon
list only the answers to first-page requests count.
-/

open Document Foundation

namespace Poketrader

/-! ## The offer lists -/

namespace OffersTable

/-- No row the table may use traps. -/
def Safe (s : OffersTable) : Prop :=
  ∀ row < s.rows, (Ofertas.getOferta s.ofertas row).isSome = true

/-- A successful answer brings at least as many offers as the table has rows. -/
def BringsEnough (decode : Fields → Option OfertaElement) (s : OffersTable) : Act → Prop
  | .respond _ answer => answer.err = none →
      s.rows ≤ (appendDecoded decode (answer.documents.getD [])).length
  | _ => True

variable {decode : Fields → Option OfertaElement}
  {answered : Option Ofertas → QueryAnswer → Option (Option Ofertas × Bool)}

/-- One step leaves the rows safe exactly if it brings enough. Only an answer changes the array. -/
theorem safe_step_iff (hanswered : Replaces decode answered) {s t : OffersTable} {a : Act}
    (hs : Safe s) (ht : (machine answered).step s a = some t) :
    Safe t ↔ BringsEnough decode s a := by
  cases steps_of_step ht with
  | respond i answer after _ hafter =>
    rw [hanswered] at hafter
    split at hafter
    · next herr =>
      obtain rfl := Option.some_inj.mp hafter
      exact Table.inRange_some.trans ⟨fun h _ ↦ h, fun h ↦ h herr⟩
    · next herr =>
      obtain rfl := Option.some_inj.mp hafter
      exact iff_of_true hs fun h ↦ absurd h herr
  | runMain => exact iff_of_true Table.inRange_count trivial
  | viewDidAppear | cellForRow | didSelectRow => exact iff_of_true hs trivial

theorem always_safe_iff (hanswered : Replaces decode answered) (acts : List Act) :
    (machine answered).Always Safe (machine answered).start acts
      ↔ (machine answered).Allowed (BringsEnough decode) (machine answered).start acts :=
  Machine.always_iff_allowed (fun _ _ _ _ _ ↦ trivial) (fun _ _ _ _ ↦ safe_step_iff hanswered)
    trivial Table.inRange_none

end OffersTable

/-! ## The Pokemon list -/

namespace SelecionarPokemonVC

variable {P : Platform}

def Safe (P : Platform) (vc : SelecionarPokemonVC) : Prop :=
  ∀ row < vc.rows, (vc.controller.getNomePokemon P row).isSome = true

/-- A first page brings at least as many results as the table has rows. -/
def BringsEnough (vc : SelecionarPokemonVC) : Act → Prop
  | .respond i answer => ∀ request ∈ vc.requests[i]?, request.url = none →
      ∀ list ∈ PokemonWork.page answer, vc.rows ≤ list.results.length
  | _ => True

theorem safe_iff {vc : SelecionarPokemonVC} :
    Safe P vc ↔ Table.InRange (vc.controller.pokemonList.map PokemonList.results) vc.rows := by
  rw [Safe, Table.InRange]
  cases hlist : vc.controller.pokemonList with
  | none => simp only [SelecionarPokemonController.getNomePokemon, hlist]; rfl
  | some list =>
    simp only [SelecionarPokemonController.getNomePokemon, hlist, Option.map_some, Table.subscript,
      Option.isSome_map]

theorem safe_of_eq {vc vc' : SelecionarPokemonVC} (h : Safe P vc)
    (hc : vc'.controller = vc.controller) (hr : vc'.rows = vc.rows) : Safe P vc' := by
  rw [Safe, hc, hr]
  exact h

theorem numberOfRows_eq_count (controller : SelecionarPokemonController) :
    controller.numberOfRows = Table.count (controller.pokemonList.map PokemonList.results) := by
  rw [SelecionarPokemonController.numberOfRows, Table.count, Option.map_map]
  rfl

theorem safe_reloadData (vc : SelecionarPokemonVC) : Safe P vc.reloadData := by
  rw [safe_iff, reloadData]
  cases vc.attached with
  | false => exact fun _ hrow ↦ absurd hrow (Nat.not_lt_zero _)
  | true =>
    simp only [if_true, numberOfRows_eq_count]
    exact Table.inRange_count

theorem safe_answered_iff {vc : SelecionarPokemonVC} (h : Safe P vc) (request : PageRequest)
    (answer : TaskAnswer) : Safe P (vc.answered request answer) ↔
      (request.url = none → ∀ list ∈ PokemonWork.page answer, vc.rows ≤ list.results.length) := by
  rw [safe_iff, answered_controller, answered_rows]
  cases hurl : request.url with
  | none =>
    rw [SelecionarPokemonController.getTwentyPokemons_first]
    cases PokemonWork.page answer with
    | none => exact iff_of_true Table.inRange_none fun _ _ hlist ↦ absurd hlist (by simp)
    | some list =>
      refine Table.inRange_some.trans ⟨fun hle _ list' hlist ↦ ?_, fun hle ↦ hle rfl list rfl⟩
      exact Option.some_inj.mp hlist ▸ hle
  | some url =>
    rw [SelecionarPokemonController.getTwentyPokemons_next]
    refine iff_of_true ?_ fun hnone ↦ absurd hnone (by simp)
    have happend := (safe_iff.mp h).append
      (((PokemonWork.page answer).map PokemonList.results).getD [])
    rwa [Option.map_map] at happend ⊢

theorem safe_step_iff {vc vc' : SelecionarPokemonVC} {a : Act} (h : Safe P vc)
    (hstep : (machine P).step vc a = some vc') : Safe P vc' ↔ BringsEnough vc a := by
  cases steps_of_step hstep with
  | scroll =>
    exact iff_of_true (safe_of_eq h scrollViewDidScroll_controller scrollViewDidScroll_rows) trivial
  | runGlobal => exact iff_of_true (safe_of_eq h loadBlock_controller loadBlock_rows) trivial
  | runMain block mainBlocks _ =>
    refine iff_of_true ?_ trivial
    cases block with
    | attach => exact safe_reloadData _
    | reload => exact safe_reloadData { vc with mainBlocks }
  | respond i answer request hrequest =>
    have hrest : Safe P { vc with requests := vc.requests.eraseIdx i } := h
    refine (safe_answered_iff hrest request answer).trans ?_
    simp only [BringsEnough, hrequest, Option.mem_some_iff, forall_eq']
  | cellForRow => exact iff_of_true h trivial
  | didSelectRow => exact iff_of_true h trivial

theorem always_safe_iff (acts : List Act) :
    (machine P).Always (Safe P) (machine P).start acts
      ↔ (machine P).Allowed BringsEnough (machine P).start acts := by
  refine Machine.always_iff_allowed (fun _ _ _ _ _ ↦ trivial) (fun _ _ _ _ ↦ safe_step_iff)
    trivial fun row hrow ↦ ?_
  rw [machine, viewDidLoad, send_rows] at hrow
  exact absurd hrow (Nat.not_lt_zero row)

end SelecionarPokemonVC

/-- **Row safety.** On each of the three list screens, the subscripts of all rows the table may use
are in range all along a run exactly if every answer that replaces the array brings at least as
many items as the table has rows. -/
theorem rows_in_range_iff (P : Platform) (currentUser : Option AuthUser) :
    (∀ acts, FeedViewController.machine.Always OffersTable.Safe .viewDidLoad acts
      ↔ FeedViewController.machine.Allowed (OffersTable.BringsEnough decodeOffer)
        .viewDidLoad acts) ∧
    (∀ acts, (OfertasUsuarioViewController.machine currentUser).Always OffersTable.Safe
        .viewDidLoad acts
      ↔ (OfertasUsuarioViewController.machine currentUser).Allowed
        (OffersTable.BringsEnough (decodeOwnOffer currentUser)) .viewDidLoad acts) ∧
    (∀ acts, (SelecionarPokemonVC.machine P).Always (SelecionarPokemonVC.Safe P)
        (SelecionarPokemonVC.viewDidLoad P) acts
      ↔ (SelecionarPokemonVC.machine P).Allowed SelecionarPokemonVC.BringsEnough
        (SelecionarPokemonVC.viewDidLoad P) acts) :=
  ⟨OffersTable.always_safe_iff OffersTable.replaces_feed,
    OffersTable.always_safe_iff (OffersTable.replaces_ofertasUsuario currentUser),
    SelecionarPokemonVC.always_safe_iff⟩

/-- One offer is shown and none is left when the screen appears again. -/
def shrinkingActs : List OffersTable.Act :=
  [.respond 0 (.ofDocuments [("key-1", (Offer.ofSave sampleUser sampleArguments).fields "key-1")]),
    .runMain, .viewDidAppear, .respond 0 (.ofDocuments [])]

/-- A load block waits on the global queue while the last page comes in. It then finds no next page
and asks for the first one. -/
def startingOverActs : List SelecionarPokemonVC.Act :=
  [.respond 0 SelecionarPokemonVC.firstAnswer, .runMain, .scroll, .runGlobal, .runMain, .scroll,
    .respond 0 (SelecionarPokemonVC.answerOf
      (SelecionarPokemonVC.pageBody .null [⟨"venusaur", "/3/"⟩])),
    .runGlobal, .runMain, .respond 0 SelecionarPokemonVC.firstAnswer]

/-- The last answer leaves the array shorter than the table, and the last row traps. -/
theorem shrinkingActs_trap :
    (∃ s, FeedViewController.machine.run shrinkingActs = some s ∧ 0 < s.rows ∧
      Ofertas.getOferta s.ofertas 0 = none ∧ ¬OffersTable.Safe s) ∧
    (∃ s, (OfertasUsuarioViewController.machine (some sampleUser)).run shrinkingActs = some s ∧
      0 < s.rows ∧ Ofertas.getOferta s.ofertas 0 = none ∧ ¬OffersTable.Safe s) ∧
    ∃ vc, (SelecionarPokemonVC.machine .ascii).run startingOverActs = some vc ∧ 2 < vc.rows ∧
      vc.controller.getNomePokemon .ascii 2 = none ∧ ¬SelecionarPokemonVC.Safe .ascii vc := by
  refine ⟨⟨(FeedViewController.machine.run shrinkingActs).getD .viewDidLoad, by rfl, by decide,
    by decide, fun h ↦ absurd (h 0 (by decide)) (by decide)⟩,
    ⟨((OfertasUsuarioViewController.machine (some sampleUser)).run shrinkingActs).getD .viewDidLoad,
      by rfl, by decide, by decide, fun h ↦ absurd (h 0 (by decide)) (by decide)⟩,
    ⟨((SelecionarPokemonVC.machine .ascii).run startingOverActs).getD SelecionarPokemonVC.initial,
      by rfl, by decide, by decide, fun h ↦ absurd (h 2 (by decide)) (by decide)⟩⟩

end Poketrader
