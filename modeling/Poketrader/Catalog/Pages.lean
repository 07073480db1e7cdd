import Poketrader.Catalog.Failure
import Poketrader.Foundation.Lowercasing

/-!
# Whole pages

What is left of the list when loads overlap, overtake each other or fail. It may repeat pages, miss
pages and begin again; but it is never torn: it is the first page and then whole pages, one after
the other, and every request is for a page of the catalog. So whatever is shown in a row is an entry
of the catalog, and a tap on the row hands over the name that the entry has there, whose first
letter the row shows capitalized.
-/

open Foundation Document Pagination

namespace Poketrader

/-- To fail is to bring no page. -/
theorem fails_iff {answer : TaskAnswer} : Fails answer ↔ PokemonWork.page answer = none := by
  refine ⟨Fails.page_eq_none, fun h ↦ .inr ?_⟩
  rcases hdata : answer.data with - | data
  · exact .inl rfl
  · rw [PokemonWork.page, hdata] at h
    exact .inr ⟨data, rfl, h⟩

instance (answer : TaskAnswer) : Decidable (Fails answer) := decidable_of_iff _ fails_iff.symm

namespace SelecionarPokemonVC

variable {P : Platform} {C : Catalog} {vc vc' : SelecionarPokemonVC} {a : Act}

/-- Every request answered is answered from the catalog, or fails. -/
def Answered (C : Catalog) (vc : SelecionarPokemonVC) : Act → Prop
  | .respond i answer => Served C vc (.respond i answer) ∨ Fails answer
  | .scroll | .runGlobal | .runMain | .cellForRow _ | .didSelectRow _ => True

instance (C : Catalog) (vc : SelecionarPokemonVC) : ∀ a, Decidable (Answered C vc a)
  | .respond i answer =>
    inferInstanceAs (Decidable (Served C vc (.respond i answer) ∨ Fails answer))
  | .scroll | .runGlobal | .runMain | .cellForRow _ | .didSelectRow _ => isTrue trivial

/-- The list is the first page and then some pages, and names one of them, or none, as the next. -/
structure Pieced (C : Catalog) (list : PokemonList) : Prop where
  results : ∃ ns, list.results = C.chain.collected (0 :: ns)
  next : ∃ n, list.next = C.chain.keyAt n
  count : list.count = C.items.length

/-- The list is in pieces, and the requests are for pages of the catalog. -/
structure InPieces (C : Catalog) (vc : SelecionarPokemonVC) : Prop where
  loaded : ∀ list, vc.controller.pokemonList = some list → Pieced C list
  requested : ∀ request ∈ vc.requests, ∃ n, request.url = C.chain.keyAt n

namespace InPieces

theorem of_eq (h : InPieces C vc) (hc : vc'.controller = vc.controller)
    (hr : vc'.requests = vc.requests) : InPieces C vc' where
  loaded := hc ▸ h.loaded
  requested := hr ▸ h.requested

theorem viewDidLoad : InPieces C (viewDidLoad P) where
  loaded list h := by
    rw [SelecionarPokemonVC.viewDidLoad, send_controller] at h
    exact absurd h (by simp [initial])
  requested request h := by
    rcases mem_send_requests h with h | rfl
    · exact absurd h (by simp [initial])
    · exact ⟨_, Chain.keyAt_length.symm⟩

/-- A load block asks for the page the list names, or for the first. -/
theorem loadBlock (h : InPieces C vc) : InPieces C (vc.loadBlock P) where
  loaded := by
    rw [loadBlock_controller]
    exact h.loaded
  requested request hrequest := by
    rcases mem_loadBlock_requests hrequest with hrequest | rfl
    · exact h.requested request hrequest
    · rcases hlist : vc.controller.pokemonList with - | list
      · refine ⟨_, Eq.trans ?_ Chain.keyAt_length.symm⟩
        rw [SelecionarPokemonController.nextURL, hlist]
        rfl
      · obtain ⟨n, hn⟩ := (h.loaded list hlist).next
        refine ⟨n, Eq.trans ?_ hn⟩
        rw [SelecionarPokemonController.nextURL, hlist, Option.bind_some]

/-- The first page, or a page behind those there are. -/
theorem answered_served (h : InPieces C vc) {request : PageRequest} {answer : TaskAnswer}
    (hanswer : C.Answers (request.url.getD PokemonWork.urlString) answer) {list : PokemonList}
    (hlist : (vc.answered request answer).controller.pokemonList = some list) : Pieced C list := by
  obtain ⟨page, hpage, hcount, hserve⟩ := hanswer
  rw [Option.mem_def] at hpage
  rw [answered_controller] at hlist
  rcases hurl : request.url with - | url
  · rw [hurl, SelecionarPokemonController.getTwentyPokemons_first, hpage] at hlist
    obtain rfl := Option.some_inj.mp hlist
    rw [hurl, Option.getD_none, ← C.first_key] at hserve
    obtain ⟨hresults, hnext⟩ := Chain.reads_first hserve
    exact ⟨⟨[], hresults⟩, ⟨1, hnext⟩, hcount⟩
  · rw [hurl, SelecionarPokemonController.getTwentyPokemons_next, hpage] at hlist
    obtain ⟨old, hold, rfl⟩ := Option.map_eq_some_iff.mp hlist
    obtain ⟨⟨ns, hns⟩, -, hcountOld⟩ := h.loaded old hold
    obtain ⟨n, hresults, hnext⟩ := Chain.exists_collected_of_serve hserve
    refine ⟨⟨ns ++ [n], ?_⟩, ⟨n + 1, hnext⟩, hcountOld⟩
    rw [← List.cons_append, Chain.collected, List.flatMap_append]
    exact congrArg₂ _ hns hresults

/-- Nothing, or what there was, without a page to ask for next. -/
theorem answered_fails (h : InPieces C vc) {request : PageRequest} {answer : TaskAnswer}
    (hfails : Fails answer) {list : PokemonList}
    (hlist : (vc.answered request answer).controller.pokemonList = some list) : Pieced C list := by
  rcases hurl : request.url with - | url
  · rw [answered_controller_of_first hfails hurl] at hlist
    exact absurd hlist.symm (Option.some_ne_none list)
  · rw [answered_controller, hurl, SelecionarPokemonController.getTwentyPokemons_next,
      hfails.page_eq_none] at hlist
    obtain ⟨old, hold, rfl⟩ := Option.map_eq_some_iff.mp hlist
    obtain ⟨⟨ns, hns⟩, -, hcount⟩ := h.loaded old hold
    exact ⟨⟨ns, (List.append_nil _).trans hns⟩, ⟨_, Chain.keyAt_length.symm⟩, hcount⟩

theorem step (h : InPieces C vc) (hanswered : Answered C vc a)
    (hstep : (machine P).step vc a = some vc') : InPieces C vc' := by
  cases steps_of_step hstep with
  | scroll => exact h.of_eq scrollViewDidScroll_controller scrollViewDidScroll_requests
  | runGlobal => exact h.loadBlock
  | runMain block _ _ => exact h.of_eq (mainBlock_controller block) (mainBlock_requests block)
  | respond i answer request hrequest =>
    have hrest : InPieces C { vc with requests := vc.requests.eraseIdx i } :=
      ⟨h.loaded, fun r hr ↦ h.requested r (List.mem_of_mem_eraseIdx hr)⟩
    refine ⟨fun list hlist ↦ ?_, fun r hr ↦ ?_⟩
    · rcases hanswered with hserved | hfails
      · exact hrest.answered_served (hserved request hrequest) hlist
      · exact hrest.answered_fails hfails hlist
    · rw [answered_requests] at hr
      exact hrest.requested r hr
  | cellForRow => exact h
  | didSelectRow => exact h

end InPieces

theorem inPieces_of_run {acts : List Act} (hrun : (machine P).run acts = some vc)
    (hanswered : (machine P).Allowed (Answered C) (machine P).start acts) : InPieces C vc :=
  Machine.invariant_of_allowed (fun _ _ _ h hG hstep ↦ h.step hG hstep) .viewDidLoad hanswered hrun

/-- **Pages are never torn.** In every run whose requests are answered from the catalog or fail, in
whatever order and however the loads overlap, the list is the first page followed by whole pages of
the catalog, every request on its way is for a page of it, and so every row is one of its
entries. -/
theorem results_pages_of_run {acts : List Act} (hrun : (machine P).run acts = some vc)
    (hanswered : (machine P).Allowed (Answered C) (machine P).start acts) :
    (∀ request ∈ vc.requests, ∃ n, request.url = C.chain.keyAt n) ∧
      ∀ list, vc.controller.pokemonList = some list →
        (∃ ns, list.results = C.chain.collected (0 :: ns)) ∧ ∀ r ∈ list.results, r ∈ C.items := by
  have h : InPieces C vc := inPieces_of_run hrun hanswered
  refine ⟨h.requested, fun list hlist ↦ ?_⟩
  obtain ⟨ns, hns⟩ := (h.loaded list hlist).results
  exact ⟨⟨ns, hns⟩, fun r hr ↦ Chain.mem_items_of_mem_collected (hns ▸ hr)⟩

/-- The page after the first is asked for twice, and fails the second time. -/
def patchyActs : List Act :=
  [.respond 0 firstAnswer, .runMain, .scroll, .runGlobal, .runMain, .scroll, .runGlobal,
    .respond 0 secondAnswer, .respond 0 noAnswer]

theorem results_pages_patchyActs : ∃ vc list, (machine .ascii).run patchyActs = some vc ∧
    vc.controller.pokemonList = some list ∧ ∀ r ∈ list.results, r ∈ sampleCatalog.items := by
  have hrun : (machine .ascii).run patchyActs
      = some (((machine .ascii).run patchyActs).getD initial) := by rfl
  refine ⟨_, _, hrun, rfl, ?_⟩
  exact ((results_pages_of_run hrun (C := sampleCatalog) (by decide)).2 _ rfl).2

/-! ## The tap -/

/-- What `didSelectRowAt` hands to its delegate. `none` is the trap of the subscript. -/
def didSelectRowAt (P : Platform) (vc : SelecionarPokemonVC) (row : ℕ) : Option String :=
  (vc.controller.getNomePokemon P row).map fun pokemonName ↦
    (pokemonName.map P.lowercased).getD ""

/-- The names of the catalog are in lower case, with digits and hyphens. -/
def Named (C : Catalog) : Prop := ∀ r ∈ C.items, IsName r.name

instance (C : Catalog) : Decidable (Named C) :=
  inferInstanceAs (Decidable (∀ r ∈ C.items, IsName r.name))

/-- The entry in the row, as the catalog has it; nothing, if the list has been lost. -/
theorem InPieces.didSelectRowAt (h : InPieces C vc) (hP : P.MapsASCII) (hC : Named C) {row : ℕ}
    {nome : String} (hnome : didSelectRowAt P vc row = some nome) :
    (vc.controller.pokemonList = none ∧ nome = "") ∨
      ∃ list r, vc.controller.pokemonList = some list ∧ list.results[row]? = some r ∧
        r ∈ C.items ∧ nome = r.name := by
  obtain ⟨pokemonName, hget, rfl⟩ := Option.map_eq_some_iff.mp hnome
  rcases hlist : vc.controller.pokemonList with - | list
  · rw [SelecionarPokemonController.getNomePokemon, hlist] at hget
    rw [← Option.some_inj.mp hget]
    exact .inl ⟨rfl, rfl⟩
  · rw [SelecionarPokemonController.getNomePokemon, hlist] at hget
    obtain ⟨r, hr, rfl⟩ := Option.map_eq_some_iff.mp hget
    obtain ⟨ns, hns⟩ := (h.loaded list hlist).results
    have hmem : r ∈ C.items := Chain.mem_items_of_mem_collected (hns ▸ List.mem_of_getElem? hr)
    exact .inr ⟨list, r, rfl, hr, hmem, lowercased_capitalizingFirstLetter hP (hC r hmem)⟩

/-- **A tap hands over an entry of the catalog.** In every run whose requests are answered from the
catalog or fail, what is handed over is the name of the entry in the row, as the catalog has it. The
exception is a list that has been lost, which hands over nothing. -/
theorem didSelectRowAt_of_run (hP : P.MapsASCII) (hC : Named C) {acts : List Act}
    (hrun : (machine P).run acts = some vc)
    (hanswered : (machine P).Allowed (Answered C) (machine P).start acts) {row : ℕ} {nome : String}
    (hnome : didSelectRowAt P vc row = some nome) :
    (vc.controller.pokemonList = none ∧ nome = "") ∨
      ∃ list r, vc.controller.pokemonList = some list ∧ list.results[row]? = some r ∧
        r ∈ C.items ∧ nome = r.name :=
  (inPieces_of_run hrun hanswered).didSelectRowAt hP hC hnome

theorem run_patchyActs : (machine .scalarwise).run patchyActs
    = some (((machine .scalarwise).run patchyActs).getD initial) := by rfl

theorem named_sampleCatalog : Named sampleCatalog := by decide

theorem didSelectRowAt_patchyActs : ∃ vc nome, (machine .scalarwise).run patchyActs = some vc ∧
    didSelectRowAt .scalarwise vc 2 = some nome ∧ ∃ r ∈ sampleCatalog.items, nome = r.name := by
  have htap := didSelectRowAt_of_run scalarwise_mapsASCII named_sampleCatalog run_patchyActs
    (by decide) (show didSelectRowAt .scalarwise _ 2 = some _ from rfl)
  rcases htap with ⟨hlost, -⟩ | ⟨_, r, -, -, hr, hname⟩
  · exact absurd hlost (by decide)
  · exact ⟨_, _, run_patchyActs, rfl, r, hr, hname⟩

end SelecionarPokemonVC

end Poketrader
