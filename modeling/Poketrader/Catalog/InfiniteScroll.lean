import Poketrader.Pagination.Chain
import Poketrader.Views.SelecionarPokemonVC

/-!
# Infinite scroll

The catalog is a chain of pages and the Pokemon list is its client. As long as a load block finds
no request unanswered, the client is in step with the chain: the results are the first pages of the
catalog, in order, and the request in flight is for the page after them.

`isLoading` is there to keep the loads apart, but it is reset by a block on the main queue that
does not wait for the answer. A second load block may then run while the page of the first is still
on its way; it asks for the same page, and both answers are appended.
-/

open Foundation Document Pagination

namespace Poketrader

/-- The catalog of PokeAPI. -/
structure Catalog where
  chain : Chain String Result
  first_key : chain.first.key = PokemonWork.urlString

/-- All entries, in order. -/
def Catalog.items (C : Catalog) : List Result := C.chain.items

/-- An answer is a good one to a request for a URL. What it says of the previous page is left
open. -/
def Catalog.Answers (C : Catalog) (url : String) (answer : TaskAnswer) : Prop :=
  ∃ list ∈ PokemonWork.page answer,
    list.count = C.items.length ∧ C.chain.serve url = some (list.results, list.next)

namespace SelecionarPokemonVC

/-- Every request answered is answered from the catalog. -/
def Served (C : Catalog) (vc : SelecionarPokemonVC) : Act → Prop
  | .respond i answer =>
    ∀ request ∈ vc.requests[i]?, C.Answers (request.url.getD PokemonWork.urlString) answer
  | _ => True

/-- A load block runs only when no request is unanswered. -/
def OneAtATime (vc : SelecionarPokemonVC) : Act → Prop
  | .runGlobal => vc.requests = []
  | _ => True

instance (C : Catalog) (url : String) (answer : TaskAnswer) : Decidable (C.Answers url answer) :=
  inferInstanceAs (Decidable (∃ list ∈ PokemonWork.page answer, _ ∧ _))

instance (C : Catalog) (vc : SelecionarPokemonVC) : ∀ a, Decidable (Served C vc a)
  | .respond _ _ => inferInstanceAs (Decidable (∀ request ∈ _, C.Answers _ _))
  | .scroll | .runGlobal | .runMain | .cellForRow _ | .didSelectRow _ => isTrue trivial

instance (vc : SelecionarPokemonVC) : ∀ a, Decidable (OneAtATime vc a)
  | .runGlobal => inferInstanceAs (Decidable (vc.requests = []))
  | .scroll | .runMain | .respond _ _ | .cellForRow _ | .didSelectRow _ => isTrue trivial

/-- The screen is in step with the catalog. -/
structure InStep (C : Catalog) (vc : SelecionarPokemonVC) : Prop where
  loaded : ∀ list, vc.controller.pokemonList = some list →
    list.count = C.items.length ∧ ∃ n, C.chain.Reads n list.results list.next
  requested : ∀ request ∈ vc.requests,
    request.url = none ∨ request.url = vc.controller.nextURL
  single : vc.requests.length ≤ 1

variable {P : Platform} {C : Catalog} {vc : SelecionarPokemonVC}

theorem InStep.of_eq {vc' : SelecionarPokemonVC} (h : InStep C vc)
    (hc : vc'.controller = vc.controller) (hr : vc'.requests = vc.requests) : InStep C vc' where
  loaded := hc ▸ h.loaded
  requested := hc ▸ hr ▸ h.requested
  single := hr ▸ h.single

theorem inStep_viewDidLoad : InStep C (viewDidLoad P) where
  loaded list h := by
    rw [viewDidLoad, send_controller] at h
    exact absurd h (by simp [initial])
  requested request h := by
    obtain h | rfl := mem_send_requests h
    · exact absurd h (by simp [initial])
    · exact Or.inl rfl
  single := send_requests_length_le _

/-- A load block that finds no request unanswered asks for the next page. -/
theorem InStep.loadBlock (h : InStep C vc) (hnone : vc.requests = []) :
    InStep C (vc.loadBlock P) where
  loaded := by
    rw [loadBlock_controller]
    exact h.loaded
  requested request hrequest := by
    obtain hrequest | rfl := mem_loadBlock_requests hrequest
    · exact absurd hrequest (by simp [hnone])
    · rw [loadBlock_controller]
      exact Or.inr rfl
  single := by
    have hle : (vc.loadBlock P).requests.length ≤ vc.requests.length + 1 :=
      loadBlock_requests_length_le
    rwa [hnone] at hle

/-- The answer to the only request in flight. -/
theorem InStep.answered {request : PageRequest} {answer : TaskAnswer} (h : InStep C vc)
    (honly : vc.requests = [request])
    (hanswer : C.Answers (request.url.getD PokemonWork.urlString) answer) :
    InStep C (SelecionarPokemonVC.answered { vc with requests := [] } request answer) := by
  obtain ⟨page, hpage, hcount, hserve⟩ := hanswer
  rw [Option.mem_def] at hpage
  refine ⟨fun list hlist ↦ ?_, fun r hr ↦ ?_, ?_⟩
  · rw [answered_controller] at hlist
    cases hurl : request.url with
    | none =>
      rw [hurl, SelecionarPokemonController.getTwentyPokemons_first, hpage] at hlist
      obtain rfl := Option.some_inj.mp hlist
      rw [hurl, Option.getD_none, ← C.first_key] at hserve
      exact ⟨hcount, 1, Chain.reads_first hserve⟩
    | some url =>
      rw [hurl, SelecionarPokemonController.getTwentyPokemons_next, hpage] at hlist
      obtain ⟨old, hold, rfl⟩ := Option.map_eq_some_iff.mp hlist
      obtain ⟨hcountOld, n, hreads⟩ := h.loaded old hold
      rw [hurl, Option.getD_some] at hserve
      -- the request in flight is for the page after those held
      have hnext : old.next = some url := by
        have hreq := h.requested request (honly ▸ List.mem_singleton_self request)
        rw [hurl, SelecionarPokemonController.nextURL, hold, Option.bind_some] at hreq
        exact (hreq.resolve_left (by simp)).symm
      rw [hnext] at hreads
      exact ⟨hcountOld, n + 1, hreads.append hserve⟩
  · rw [answered_requests] at hr
    exact absurd hr (by simp)
  · rw [answered_requests]
    exact Nat.zero_le 1

theorem InStep.step {vc' : SelecionarPokemonVC} {a : Act} (h : InStep C vc)
    (hserved : Served C vc a) (hone : OneAtATime vc a)
    (hstep : (machine P).step vc a = some vc') : InStep C vc' := by
  cases steps_of_step hstep with
  | scroll => exact h.of_eq scrollViewDidScroll_controller scrollViewDidScroll_requests
  | runGlobal => exact h.loadBlock hone
  | runMain block _ _ => exact h.of_eq (mainBlock_controller block) (mainBlock_requests block)
  | respond i answer request hrequest =>
    have hanswer := hserved request hrequest
    obtain ⟨hi, rfl⟩ := List.getElem?_eq_some_iff.mp hrequest
    have hlen := h.single
    obtain rfl : i = 0 := by omega
    obtain ⟨r, hr⟩ := List.length_eq_one_iff.mp (Nat.le_antisymm hlen hi)
    simp only [hr] at hanswer ⊢
    exact h.answered hr hanswer
  | cellForRow => exact h
  | didSelectRow => exact h

/-- **Infinite scroll.** In a run served from the catalog, all of whose load blocks find no request
unanswered, the results are at every moment a prefix of the catalog, and all of it once there are
as many rows as Pokemon in the database. -/
theorem results_prefix_catalog {acts : List Act} (hrun : (machine P).run acts = some vc)
    (hserved : (machine P).Allowed (Served C) (machine P).start acts)
    (hone : (machine P).Allowed OneAtATime (machine P).start acts) :
    ∀ list, vc.controller.pokemonList = some list →
      list.results <+: C.items ∧
        (vc.controller.numberOfPokemonsInDatabase ≤ vc.controller.numberOfRows →
          list.results = C.items) := by
  have hin : InStep C vc :=
    Machine.invariant_of_allowed (fun _ _ _ h hG hstep ↦ h.step hG.1 hG.2 hstep)
      inStep_viewDidLoad (hserved.and hone) hrun
  intro list hlist
  obtain ⟨hcount, n, hreads⟩ := hin.loaded list hlist
  refine ⟨hreads.isPrefix, fun hall ↦ hreads.eq_items ?_⟩
  rw [SelecionarPokemonController.numberOfPokemonsInDatabase,
    SelecionarPokemonController.numberOfRows, hlist, Option.map_some, Option.map_some,
    Option.getD_some, Option.getD_some, hcount] at hall
  exact Int.ofNat_le.mp hall

/-! ## A catalog of three pages -/

def sampleCatalog : Catalog where
  chain :=
    { first := ⟨PokemonWork.urlString, [⟨"bulbasaur", "/1/"⟩, ⟨"ivysaur", "/2/"⟩]⟩
      rest := [⟨"https://pokeapi.co/?offset=2", [⟨"venusaur", "/3/"⟩]⟩,
        ⟨"https://pokeapi.co/?offset=3", [⟨"charmander", "/4/"⟩]⟩]
      keys_nodup := by decide }
  first_key := rfl

/-- The body of a page. -/
def pageBody (next : Json) (results : List Result) : Json :=
  .object [("count", .number 4), ("next", next), ("previous", .null),
    ("results", .array (results.map fun result ↦
      .object [("name", .string result.name), ("url", .string result.url)]))]

def answerOf (body : Json) : TaskAnswer where
  data := some (.json body)
  error := none
  data_eq_none := by simp

def firstAnswer : TaskAnswer :=
  answerOf (pageBody (.string "https://pokeapi.co/?offset=2")
    [⟨"bulbasaur", "/1/"⟩, ⟨"ivysaur", "/2/"⟩])

def secondAnswer : TaskAnswer :=
  answerOf (pageBody (.string "https://pokeapi.co/?offset=3") [⟨"venusaur", "/3/"⟩])

/-- One page after the other. -/
def patientActs : List Act :=
  [.respond 0 firstAnswer, .runMain, .scroll, .runGlobal, .runMain, .scroll,
    .respond 0 secondAnswer, .runGlobal]

theorem results_prefix_catalog_patientActs :
    ∃ vc list, (machine .ascii).run patientActs = some vc ∧
      vc.controller.pokemonList = some list ∧ list.results <+: sampleCatalog.items := by
  have hrun : (machine .ascii).run patientActs
      = some (((machine .ascii).run patientActs).getD initial) := by rfl
  refine ⟨_, _, hrun, rfl, ?_⟩
  exact (results_prefix_catalog hrun (C := sampleCatalog) (by decide) (by decide) _ rfl).1

/-- The second load block runs before the page of the first has come. -/
def overlappingActs : List Act :=
  [.respond 0 firstAnswer, .runMain, .scroll, .runGlobal, .runMain, .scroll, .runGlobal,
    .respond 0 secondAnswer, .respond 0 secondAnswer]

/-- Every request was served from the catalog and answered once, yet the third page is missing and
the second is there twice; by its count the list is complete. -/
theorem overlappingActs_duplicate : ∃ vc list,
    (machine .ascii).run overlappingActs = some vc ∧
    (machine .ascii).Allowed (Served sampleCatalog) (machine .ascii).start overlappingActs ∧
    vc.requests = [] ∧ vc.controller.pokemonList = some list ∧
    list.results.map Result.name = ["bulbasaur", "ivysaur", "venusaur", "venusaur"] ∧
    ¬list.results <+: sampleCatalog.items ∧
    vc.controller.numberOfPokemonsInDatabase ≤ vc.controller.numberOfRows ∧
    list.results ≠ sampleCatalog.items := by
  refine ⟨((machine .ascii).run overlappingActs).getD initial, _, rfl, by decide, by decide, rfl,
    by decide, by decide, by decide, by decide⟩

end SelecionarPokemonVC

end Poketrader
