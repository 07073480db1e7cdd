import Poketrader.Document.Json

/-!
# What PokeAPI answers

The structures a PokeAPI body decodes into, with the decoders their `Codable` conformances stand
for. Every member of `PokeData` is optional down to the path of the artwork, so a body without any
artwork still decodes; of `PokemonList` the count and the results are required.
-/

open Document

namespace Poketrader

/-! ## A single Pokemon -/

structure DreamWorld where
  imagePath : Option String
  deriving DecidableEq

structure OfficialArtwork where
  imagePath : Option String
  deriving DecidableEq

structure Other where
  dreamWorld : Option DreamWorld
  officialArtwork : Option OfficialArtwork
  deriving DecidableEq

structure Sprites where
  other : Option Other
  deriving DecidableEq

structure StatInfo where
  name : Option String
  deriving DecidableEq

structure StatElement where
  baseValue : Option ℤ
  statInfo : Option StatInfo
  deriving DecidableEq

structure PokeData where
  id : Option ℤ
  name : Option String
  sprites : Option Sprites
  stats : Option (List StatElement)
  deriving DecidableEq

def DreamWorld.decode (j : Json) : Option DreamWorld := do
  let imagePath ← j.optional Json.text "front_default"
  return { imagePath }

def OfficialArtwork.decode (j : Json) : Option OfficialArtwork := do
  let imagePath ← j.optional Json.text "front_default"
  return { imagePath }

def Other.decode (j : Json) : Option Other := do
  let dreamWorld ← j.optional DreamWorld.decode "dream_world"
  let officialArtwork ← j.optional OfficialArtwork.decode "official-artwork"
  return { dreamWorld, officialArtwork }

def Sprites.decode (j : Json) : Option Sprites := do
  let other ← j.optional Other.decode "other"
  return { other }

def StatInfo.decode (j : Json) : Option StatInfo := do
  let name ← j.optional Json.text "name"
  return { name }

def StatElement.decode (j : Json) : Option StatElement := do
  let baseValue ← j.optional Json.int "base_stat"
  let statInfo ← j.optional StatInfo.decode "stat"
  return { baseValue, statInfo }

def PokeData.decode (j : Json) : Option PokeData := do
  let id ← j.optional Json.int "id"
  let name ← j.optional Json.text "name"
  let sprites ← j.optional Sprites.decode "sprites"
  let stats ← j.optional (Json.list StatElement.decode) "stats"
  return { id, name, sprites, stats }

/-- The path of the official artwork: `sprites?.other?.officialArtwork?.imagePath`. -/
def PokeData.artwork (data : PokeData) : Option String :=
  data.sprites.bind fun sprites ↦ sprites.other.bind fun other ↦
    other.officialArtwork.bind fun artwork ↦ artwork.imagePath

structure Stat where
  name : Option String
  value : Option ℤ
  deriving DecidableEq

/-- A Pokemon as the screens use it; `sprite` is the URL of its picture. -/
structure Pokemon where
  id : Option ℤ
  name : Option String
  sprite : Option String
  stats : Option (List Stat)
  deriving DecidableEq

/-- The statistics that have a name. -/
def Pokemon.statsOf (dataStats : List StatElement) : List Stat :=
  dataStats.filterMap fun stat ↦
    (stat.statInfo.bind StatInfo.name).map fun statName ↦
      { name := some statName, value := stat.baseValue }

/-- `Pokemon.init(sprt:data:)`. -/
def Pokemon.init (sprt : String) (data : PokeData) : Pokemon where
  id := data.id
  name := data.name
  sprite := some sprt
  stats := some (Pokemon.statsOf (data.stats.getD []))

/-! ## A page of the catalog -/

/-- One entry of the catalog. -/
structure Result where
  name : String
  url : String
  deriving DecidableEq

structure PokemonList where
  count : ℤ
  next : Option String
  previous : Option String
  results : List Result
  deriving DecidableEq

def Result.decode (j : Json) : Option Result := do
  let name ← j.required Json.text "name"
  let url ← j.required Json.text "url"
  return { name, url }

def PokemonList.decode (j : Json) : Option PokemonList := do
  let count ← j.required Json.int "count"
  let next ← j.optional Json.text "next"
  let previous ← j.optional Json.text "previous"
  let results ← j.required (Json.list Result.decode) "results"
  return { count, next, previous, results }

end Poketrader
