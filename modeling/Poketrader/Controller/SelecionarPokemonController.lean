import Poketrader.Network.PokemonWork

/-!
# The controller of the Pokemon list

It keeps the pages loaded so far as one `PokemonList`: the results of all of them, the `next` of
the last one and the count of the first.
-/

open Foundation

namespace Poketrader

structure SelecionarPokemonController where
  pokemonList : Option PokemonList
  deriving DecidableEq

namespace SelecionarPokemonController

variable (controller : SelecionarPokemonController)

def numberOfRows : ℕ := (controller.pokemonList.map fun list ↦ list.results.length).getD 0

def numberOfPokemonsInDatabase : ℤ := (controller.pokemonList.map PokemonList.count).getD 0

/-- The outer `none` is the trap of the subscript. -/
def getNomePokemon (P : Platform) (posicao : ℕ) : Option (Option String) :=
  match controller.pokemonList with
  | none => some none
  | some list => (list.results[posicao]?).map fun result ↦
      some (P.capitalizingFirstLetter result.name)

def nextURL : Option String := controller.pokemonList.bind PokemonList.next

/-- The two branches of `getTwentyPokemons` once the worker has called back: the controller
afterwards, and what its own completion is called with, if it is called. -/
def getTwentyPokemons (url : Option String) (called : Option PokemonList × Option String) :
    SelecionarPokemonController × Option (Bool × String) :=
  let (pokemonList, erro) := called
  match url with
  | some _ =>
    match erro with
    | none =>
      let results := (pokemonList.map PokemonList.results).getD []
      ({ pokemonList := controller.pokemonList.map fun list ↦
          { list with
            results := results.foldl (fun acc result ↦ acc ++ [result]) list.results
            next := pokemonList.bind PokemonList.next } }, none)
    | some _ => (controller, some (false, "deu ruim ao pegar os próximos 151 pokemons"))
  | none =>
    match erro with
    | none => ({ pokemonList }, some (true, ""))
    | some _ => (controller, some (false, "deu ruim ao pegar os primeiros 20 pokemons"))

/-! ## What an answer does -/

theorem foldl_concat {α : Type*} (xs acc : List α) :
    xs.foldl (fun acc x ↦ acc ++ [x]) acc = acc ++ xs := by
  induction xs generalizing acc with
  | nil => rw [List.foldl_nil, List.append_nil]
  | cons x xs ih => rw [List.foldl_cons, ih, List.append_assoc, List.singleton_append]

variable {controller}

/-- The answer to a request for the first page replaces the list by what it brings, even if that
is nothing. -/
theorem getTwentyPokemons_first (answer : TaskAnswer) :
    controller.getTwentyPokemons none (PokemonWork.getTwentyPokemons answer)
      = ({ pokemonList := PokemonWork.page answer }, some (true, "")) := by
  rw [PokemonWork.getTwentyPokemons_eq]
  rfl

/-- The answer to a request for a later page. Its results are appended and its `next` is taken
over; where it is no page, both are those of an empty last page. -/
theorem getTwentyPokemons_next (url : String) (answer : TaskAnswer) :
    controller.getTwentyPokemons (some url) (PokemonWork.getTwentyPokemons answer)
      = ({ pokemonList := controller.pokemonList.map fun list ↦
            { list with
              results := list.results
                ++ ((PokemonWork.page answer).map PokemonList.results).getD []
              next := (PokemonWork.page answer).bind PokemonList.next } }, none) := by
  rw [PokemonWork.getTwentyPokemons_eq]
  simp only [getTwentyPokemons, foldl_concat]

/-- No answer is ever reported as a failure. -/
theorem getTwentyPokemons_told (url : Option String) (answer : TaskAnswer) :
    (controller.getTwentyPokemons url (PokemonWork.getTwentyPokemons answer)).2
      = if url = none then some (true, "") else none := by
  cases url with
  | none => rw [getTwentyPokemons_first, if_pos rfl]
  | some url => rw [getTwentyPokemons_next, if_neg (by simp)]

end SelecionarPokemonController

end Poketrader
