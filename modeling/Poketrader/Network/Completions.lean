import Poketrader.Controller.OfertasController
import Poketrader.Controller.SelecionarPokemonController
import Poketrader.Network.PokemonWork

/-!
# What the callers of the loaders are told

Five loaders of the workers and three operations of the controllers that wrap them, each with a
completion. A completion reports a failure by an error text or, where it has a flag, by the flag.
Each of the operations has outcomes on which its completion is called once and reports what came of
the request, and each has others; the feed reports a failure even where its offers have come.

A call is taken together with the outcome of its request, which is not looked at where no request
is sent.
-/

open Foundation Document

namespace Poketrader

/-- A call of a loader, with the outcome of the request it sends. -/
inductive LoaderCall where
  | getPokemon (nome : String) (response : AFResponse)
  | getPokemonURLSession (nome : String) (answer : TaskAnswer)
  | getTwentyPokemons (urlNext : Option String) (answer : TaskAnswer)
  | loadOffers (answer : QueryAnswer)
  | loadOffersForIUD (currentUser : Option AuthUser) (answer : QueryAnswer)
  /-- `SelecionarPokemonController.getTwentyPokemons` -/
  | controllerGetTwentyPokemons (controller : SelecionarPokemonController) (url : Option String)
      (answer : TaskAnswer)
  /-- `FeedController.loadOfertas` -/
  | feedLoadOfertas (controller : FeedController) (answer : QueryAnswer)
  /-- `OfertasUsuarioController.loadOfertas` -/
  | usuarioLoadOfertas (controller : OfertasUsuarioController) (currentUser : Option AuthUser)
      (answer : QueryAnswer)

namespace LoaderCall

/-- A completion with an error text reports a failure. -/
def reports {α : Type} (called : α × Option String) : Bool := called.2.isSome

variable (P : Platform)

/-- The calls of the completion, each as whether it reports a failure. -/
def completions : LoaderCall → List Bool
  | getPokemon nome response =>
    match PokemonWork.getPokemonURL P nome with
    | some _ => [reports (PokemonWork.getPokemon response)]
    | none => []
  | getPokemonURLSession nome answer =>
    match PokemonWork.getPokemonURL P nome with
    | some _ => (PokemonWork.getPokemonURLSession answer).toList.map reports
    | none => []
  | getTwentyPokemons urlNext answer =>
    match PokemonWork.getTwentyPokemonsURL P urlNext with
    | some _ => [reports (PokemonWork.getTwentyPokemons answer)]
    | none => []
  | loadOffers answer => (Poketrader.loadOffers answer).toList.map reports
  | loadOffersForIUD currentUser answer =>
    (Poketrader.loadOffersForIUD currentUser answer).toList.map reports
  | controllerGetTwentyPokemons controller url answer =>
    match PokemonWork.getTwentyPokemonsURL P url with
    | some _ =>
      let told := (controller.getTwentyPokemons url (PokemonWork.getTwentyPokemons answer)).2
      told.toList.map fun (result, _) ↦ !result
    | none => []
  | feedLoadOfertas controller answer =>
    match Poketrader.loadOffers answer with
    | some called => (controller.loadOfertas called).toList.map fun (_, told) ↦ reports told
    | none => []
  | usuarioLoadOfertas controller currentUser answer =>
    match Poketrader.loadOffersForIUD currentUser answer with
    | some called =>
      let (_, result, _) := controller.loadOfertas called
      [!result]
    | none => []

/-- A query that brings documents. -/
def bringsDocuments (answer : QueryAnswer) : Bool :=
  answer.err.isNone && answer.documents.isSome

/-- The call obtains valid data: what it asks for makes a URL, and the outcome is what is asked
for. -/
def obtains : LoaderCall → Bool
  | getPokemon nome response =>
    (PokemonWork.getPokemonURL P nome).isSome && (PokemonWork.pokeData response).isSome
  | getPokemonURLSession nome answer =>
    (PokemonWork.getPokemonURL P nome).isSome && answer.error.isNone
      && (answer.data.bind (Data.decode PokeData.decode)).isSome
  | getTwentyPokemons urlNext answer =>
    (PokemonWork.getTwentyPokemonsURL P urlNext).isSome && (PokemonWork.page answer).isSome
  | controllerGetTwentyPokemons _ url answer =>
    (PokemonWork.getTwentyPokemonsURL P url).isSome && (PokemonWork.page answer).isSome
  | loadOffers answer | loadOffersForIUD _ answer | feedLoadOfertas _ answer
  | usuarioLoadOfertas _ _ answer => bringsDocuments answer

/-- The completion is called once, and reports a failure exactly if no valid data was obtained. -/
def Truthful (call : LoaderCall) : Prop := call.completions P = [!call.obtains P]

instance (call : LoaderCall) : Decidable (Truthful P call) :=
  inferInstanceAs (Decidable (_ = [_]))

/-- The outcomes on which an operation does so. -/
def Handled : LoaderCall → Prop
  | getPokemon nome _ => P.validURL (PokemonWork.urlString ++ nome) = true
  | getPokemonURLSession nome answer =>
    P.validURL (PokemonWork.urlString ++ nome) = true ∧
      (answer.error.isSome = true ∨ answer.data.isSome = true)
  | getTwentyPokemons urlNext answer =>
    P.validURL (urlNext.getD PokemonWork.urlString) = true ∧
      (PokemonWork.page answer).isSome = true
  | loadOffers answer | loadOffersForIUD _ answer | usuarioLoadOfertas _ _ answer =>
    answer.err = none ∧ answer.documents.isSome = true
  | controllerGetTwentyPokemons _ url answer =>
    url = none ∧ P.validURL PokemonWork.urlString = true ∧
      (PokemonWork.page answer).isSome = true
  -- a success passes an error text too, so only a query with neither answer is reported rightly
  | feedLoadOfertas _ answer => answer.err = none ∧ answer.documents = none

/-! ## What each loader calls -/

variable {P}

theorem getTwentyPokemonsURL_eq (urlNext : Option String) :
    PokemonWork.getTwentyPokemonsURL P urlNext = P.URL (urlNext.getD PokemonWork.urlString) := by
  cases urlNext <;> rfl

/-- `getPokemon` reports a failure exactly if the response is no good. -/
theorem reports_getPokemon (response : AFResponse) :
    reports (PokemonWork.getPokemon response) = !(PokemonWork.pokeData response).isSome := by
  cases h : PokemonWork.pokeData response with
  | none => rw [PokemonWork.getPokemon_of_none h]; rfl
  | some data => rw [PokemonWork.getPokemon_of_some h]; rfl

/-- The completion of a query is called exactly if there was no error, and reports none. -/
theorem loadOffers_reports (answer : QueryAnswer) :
    (Poketrader.loadOffers answer).toList.map reports = if answer.err = none then [false] else [] := by
  rw [Poketrader.loadOffers]
  cases answer.err <;> rfl

theorem loadOffersForIUD_reports (currentUser : Option AuthUser) (answer : QueryAnswer) :
    (Poketrader.loadOffersForIUD currentUser answer).toList.map reports
      = if answer.err = none then [false] else [] := by
  rw [Poketrader.loadOffersForIUD]
  cases answer.err <;> rfl

/-- What is called where there was no error, and reports none, is truthful exactly if the query
brings documents. -/
theorem query_truthful_iff (answer : QueryAnswer) :
    (if answer.err = none then [false] else []) = [!bringsDocuments answer] ↔
      answer.err = none ∧ answer.documents.isSome = true := by
  rw [bringsDocuments]
  cases answer.err <;> cases answer.documents <;> simp

/-! ## Truthful calls -/

theorem getPokemon_truthful_iff (nome : String) (response : AFResponse) :
    Truthful P (.getPokemon nome response) ↔ Handled P (.getPokemon nome response) := by
  simp only [Truthful, completions, obtains, Handled, PokemonWork.getPokemonURL]
  by_cases hurl : P.validURL (PokemonWork.urlString ++ nome) = true
  · simp [P.URL_of_validURL hurl, hurl, reports_getPokemon]
  · simp [P.URL_of_not_validURL hurl, hurl]

theorem getPokemonURLSession_truthful_iff (nome : String) (answer : TaskAnswer) :
    Truthful P (.getPokemonURLSession nome answer)
      ↔ Handled P (.getPokemonURLSession nome answer) := by
  simp only [Truthful, completions, obtains, Handled, PokemonWork.getPokemonURL]
  by_cases hurl : P.validURL (PokemonWork.urlString ++ nome) = true
  · simp only [P.URL_of_validURL hurl, hurl, PokemonWork.getPokemonURLSession]
    rcases answer.error with _ | error
    · rcases answer.data with _ | data
      · simp
      · cases h : data.decode PokeData.decode <;> simp [reports, h]
    · simp [reports]
  · simp [P.URL_of_not_validURL hurl, hurl]

theorem getTwentyPokemons_truthful_iff (urlNext : Option String) (answer : TaskAnswer) :
    Truthful P (.getTwentyPokemons urlNext answer)
      ↔ Handled P (.getTwentyPokemons urlNext answer) := by
  simp only [Truthful, completions, obtains, Handled, getTwentyPokemonsURL_eq,
    PokemonWork.getTwentyPokemons_eq]
  by_cases hurl : P.validURL (urlNext.getD PokemonWork.urlString) = true
  · simp [P.URL_of_validURL hurl, hurl, reports]
  · simp [P.URL_of_not_validURL hurl, hurl]

theorem controllerGetTwentyPokemons_truthful_iff (controller : SelecionarPokemonController)
    (url : Option String) (answer : TaskAnswer) :
    Truthful P (.controllerGetTwentyPokemons controller url answer)
      ↔ Handled P (.controllerGetTwentyPokemons controller url answer) := by
  simp only [Truthful, completions, obtains, Handled, getTwentyPokemonsURL_eq,
    SelecionarPokemonController.getTwentyPokemons_told]
  rcases url with _ | url
  · by_cases hurl : P.validURL PokemonWork.urlString = true
    · simp [P.URL_of_validURL hurl, hurl]
    · simp [P.URL_of_not_validURL hurl, hurl]
  · -- nothing is called when a later page has come
    cases P.URL ((some url).getD PokemonWork.urlString) <;> simp

theorem feedLoadOfertas_truthful_iff (controller : FeedController) (answer : QueryAnswer) :
    Truthful P (.feedLoadOfertas controller answer)
      ↔ Handled P (.feedLoadOfertas controller answer) := by
  simp only [Truthful, completions, obtains, Handled, Poketrader.loadOffers, bringsDocuments]
  rcases answer.err with _ | err
  · cases answer.documents <;> simp [FeedController.loadOfertas, reports]
  · simp

theorem usuarioLoadOfertas_truthful_iff (controller : OfertasUsuarioController)
    (currentUser : Option AuthUser) (answer : QueryAnswer) :
    Truthful P (.usuarioLoadOfertas controller currentUser answer)
      ↔ Handled P (.usuarioLoadOfertas controller currentUser answer) := by
  simp only [Truthful, completions, obtains, Handled, ← query_truthful_iff answer,
    Poketrader.loadOffersForIUD]
  cases answer.err <;> rfl

/-- **The loaders call back once and truthfully** exactly on the outcomes they handle. -/
theorem truthful_iff_handled (P : Platform) (call : LoaderCall) :
    Truthful P call ↔ Handled P call := by
  cases call with
  | getPokemon nome response => exact getPokemon_truthful_iff nome response
  | getPokemonURLSession nome answer => exact getPokemonURLSession_truthful_iff nome answer
  | getTwentyPokemons urlNext answer => exact getTwentyPokemons_truthful_iff urlNext answer
  | loadOffers answer =>
    simp only [Truthful, completions, obtains, Handled, loadOffers_reports, query_truthful_iff]
  | loadOffersForIUD currentUser answer =>
    simp only [Truthful, completions, obtains, Handled, loadOffersForIUD_reports,
      query_truthful_iff]
  | controllerGetTwentyPokemons controller url answer =>
    exact controllerGetTwentyPokemons_truthful_iff controller url answer
  | feedLoadOfertas controller answer => exact feedLoadOfertas_truthful_iff controller answer
  | usuarioLoadOfertas controller currentUser answer =>
    exact usuarioLoadOfertas_truthful_iff controller currentUser answer

/-- One call of each loader that goes wrong. -/
def mishandled : List LoaderCall :=
  [.getPokemon "mr mime" ⟨none, none⟩,
    .getPokemonURLSession "pikachu" ⟨none, none, fun _ ↦ rfl⟩,
    .getTwentyPokemons none ⟨none, some "timed out", fun _ ↦ rfl⟩,
    .loadOffers ⟨none, some "offline"⟩,
    .loadOffersForIUD none ⟨none, some "offline"⟩,
    .controllerGetTwentyPokemons ⟨none⟩ none ⟨none, some "timed out", fun _ ↦ rfl⟩,
    .feedLoadOfertas ⟨none⟩ (.ofDocuments []),
    .usuarioLoadOfertas ⟨none⟩ none ⟨none, some "offline"⟩]

/-- What the completions are told: nothing, or the opposite of what happened. -/
theorem mishandled_completions :
    mishandled.map (completions .ascii) = [[], [], [false], [], [], [false], [true], []] ∧
      mishandled.map (obtains .ascii) = [false, false, false, false, false, false, true, false] ∧
      ∀ call ∈ mishandled, ¬Truthful .ascii call :=
  ⟨by decide, by decide, by decide⟩

end LoaderCall

end Poketrader
