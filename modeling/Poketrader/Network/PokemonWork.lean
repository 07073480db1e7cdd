import Poketrader.Foundation.Platform
import Poketrader.Model.Pokemon

/-!
# The Pokemon worker

Requests to PokeAPI. A request has two halves: the URL that is asked for, if the text makes one,
and what the completion is called with once the request is answered. Where there is no URL nothing
is sent and nothing is ever called.

## How a failure is encoded

A single Pokemon that cannot be had comes with an error text. A page that cannot be had comes
without: the completion of `getTwentyPokemons` gets neither a page nor an error, whether the
transport failed, the body was missing or the body was no page.
-/

open Foundation Document

namespace Poketrader

/-- What a data task is answered with. A task that failed has no data. -/
structure TaskAnswer where
  data : Option Data
  error : Option String
  data_eq_none : error.isSome = true → data = none

/-- What `responseJSON` is answered with. -/
structure AFResponse where
  statusCode : Option ℤ
  data : Option Data

namespace PokemonWork

variable (P : Platform)

def urlString : String := "https://pokeapi.co/api/v2/pokemon/"

/-! ## One Pokemon -/

/-- The URL `getPokemon` asks for. -/
def getPokemonURL (nome : String) : Option String := P.URL (urlString ++ nome)

/-- What the completion of `getPokemon` is called with. -/
def getPokemon (response : AFResponse) : Option Pokemon × Option String :=
  if response.statusCode = some 200 then
    match (response.data.getD Data.empty).decode PokeData.decode with
    | some pokemonData =>
      (some (Pokemon.init (pokemonData.artwork.getD "") pokemonData), none)
    | none => (none, some "deu ruim")
  else (none, some "deu ruim")

/-- The Pokemon in a response, if it is a good one. -/
def pokeData (response : AFResponse) : Option PokeData :=
  if response.statusCode = some 200 then (response.data.getD Data.empty).decode PokeData.decode
  else none

theorem getPokemon_of_some {response : AFResponse} {data : PokeData}
    (h : pokeData response = some data) :
    getPokemon response = (some (Pokemon.init (data.artwork.getD "") data), none) := by
  obtain ⟨hstatus, hdecode⟩ := Option.ite_none_right_eq_some.mp h
  rw [getPokemon, if_pos hstatus, hdecode]

theorem getPokemon_of_none {response : AFResponse} (h : pokeData response = none) :
    getPokemon response = (none, some "deu ruim") := by
  rw [getPokemon]
  split
  · next hstatus =>
    rw [pokeData, if_pos hstatus] at h
    rw [h]
  · rfl

/-- What the completion of `getPokemonURLSession` is called with, if it is called. The URL asked for
is that of `getPokemon`. -/
def getPokemonURLSession (answer : TaskAnswer) : Option (Option Pokemon × Option String) :=
  if answer.error.isSome then some (none, some "deu ruim")
  else
    -- without an error and without data nothing is called
    answer.data.map fun data ↦
      match data.decode PokeData.decode with
      | some pokemonData => (some (Pokemon.init "" pokemonData), none)
      | none => (none, some "deu ruim")

/-! ## One page of the catalog -/

/-- The URL `getTwentyPokemons` asks for. -/
def getTwentyPokemonsURL (urlNext : Option String) : Option String :=
  match urlNext with
  | some _urlNext => P.URL _urlNext
  | none => P.URL urlString

/-- The page in an answer. -/
def page (answer : TaskAnswer) : Option PokemonList :=
  (answer.data.getD Data.empty).decode PokemonList.decode

/-- What the completion of `getTwentyPokemons` is called with. -/
def getTwentyPokemons (answer : TaskAnswer) : Option PokemonList × Option String :=
  match page answer with
  | some numberOfPokemons => (some numberOfPokemons, none)
  | none => (none, none)

theorem getTwentyPokemons_eq (answer : TaskAnswer) :
    getTwentyPokemons answer = (page answer, none) := by
  rw [getTwentyPokemons]
  cases page answer <;> rfl

/-- A task that failed brings no page. -/
theorem page_of_error {answer : TaskAnswer} (h : answer.error.isSome = true) :
    page answer = none := by
  rw [page, answer.data_eq_none h]
  rfl

end PokemonWork

end Poketrader
