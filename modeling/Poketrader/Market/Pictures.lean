import Poketrader.Catalog.Pages
import Poketrader.Market.Drafts
import Poketrader.Market.Safety
import Poketrader.Offers.Artwork

/-!
# Names and pictures

From the row that is tapped in the list to the document that is stored. A tap hands over a name of
the catalog, the answer to the request for it gives the form its picture, and its name as well if
the picture has a URL. In between answers may be late, lists may be lost and sessions may change;
yet the name in a stored offer is one of the catalog, and its picture is of the Pokemon it names.
-/

open Document Foundation

namespace Poketrader

namespace Market

variable {P : Platform} {C : Catalog} {artwork : String → Option String} {s : State} {k : String}
  {data : Fields}

/-- Where PokeAPI has artwork it is a URL, and it has none at the URL of the list. No URL is
empty. -/
structure Serves (P : Platform) (artwork : String → Option String) : Prop where
  validURL : ∀ url picture, artwork url = some picture → P.validURL picture = true
  list : artwork PokemonWork.urlString = none
  empty : P.validURL "" = false

/-- The name has been tapped in some list of Pokemon, loaded from the catalog in some way. -/
def Tapped (P : Platform) (C : Catalog) (nome : String) : Prop :=
  ∃ acts vc row, (SelecionarPokemonVC.machine P).run acts = some vc ∧
    (SelecionarPokemonVC.machine P).Allowed (SelecionarPokemonVC.Answered C)
      (SelecionarPokemonVC.machine P).start acts ∧
    SelecionarPokemonVC.didSelectRowAt P vc row = some nome

/-- The names handed to the form are tapped, and a good answer is what PokeAPI has. -/
def Picked (P : Platform) (C : Catalog) (artwork : String → Option String) (_ : State) :
    Act → Prop
  | .input _ (.sendDataToCadastroVC nomePokemon response) => Tapped P C nomePokemon ∧
      ∀ d, PokemonWork.pokeData response = some d →
        d.artwork = artwork (PokemonWork.urlString ++ nomePokemon)
  | _ => True

/-- A name of the catalog, if there is one, and the picture of that Pokemon, if there is one. -/
structure Pictured (C : Catalog) (artwork : String → Option String) (name : Option String)
    (url : String) : Prop where
  entry : ∀ n, name = some n → ∃ r ∈ C.items, n = r.name
  picture : url = "" ∨ ∃ n, name = some n ∧ artwork (PokemonWork.urlString ++ n) = some url

/-- What a document says of its Pokemon. -/
def StoresPictured (C : Catalog) (artwork : String → Option String) (data : Fields) : Prop :=
  ∃ name url, data.string "name" = some (name.getD "No name") ∧ data.string "url" = some url ∧
    Pictured C artwork name url

theorem StoresPictured.update (h : StoresPictured C artwork data) {new : Fields}
    (hname : new "name" = none) (hurl : new "url" = none) :
    StoresPictured C artwork (data.update new) := by
  obtain ⟨name, url, heq, heq', hpictured⟩ := h
  refine ⟨name, url, ?_, ?_, hpictured⟩
  · rw [Fields.string, Fields.update_of_eq_none hname]
    exact heq
  · rw [Fields.string, Fields.update_of_eq_none hurl]
    exact heq'

/-- What is asked of forms and offers. -/
def pictures (C : Catalog) (artwork : String → Option String) : Demand where
  draft _ vc := Pictured C artwork vc.namePokemon vc.controller.pokemonURLImage
  stored := StoresPictured C artwork
  opened _ := ⟨fun n h ↦ absurd h.symm (Option.some_ne_none n), .inl rfl⟩
  save {user vc} h := ⟨vc.namePokemon, vc.controller.pokemonURLImage,
    by simp [SaveArguments.data, AddPokemonViewController.arguments],
    by simp [SaveArguments.data, AddPokemonViewController.arguments], h⟩
  identify h _ := h.update rfl rfl
  edit h _ := h.update rfl rfl

/-- A good answer replaces the picture, and the name if the picture has a URL. -/
theorem sendDataToCadastroVC_eq {vc : AddPokemonViewController} (nomePokemon : String)
    {response : AFResponse} {d : PokeData} (h : PokemonWork.pokeData response = some d) :
    (vc.sendDataToCadastroVC P nomePokemon response).controller.pokemonURLImage
        = d.artwork.getD "" ∧
      (vc.sendDataToCadastroVC P nomePokemon response).namePokemon
        = if P.validURL (d.artwork.getD "") then some nomePokemon else vc.namePokemon := by
  simp only [AddPokemonViewController.sendDataToCadastroVC, AddPokemonController.getPokemonData,
    PokemonWork.getPokemon_of_some h, if_true]
  have hpicture : AddPokemonController.pokemonURLImage
      { pokemon := some (Pokemon.init (d.artwork.getD "") d) } = d.artwork.getD "" := rfl
  by_cases hvalid : P.validURL (d.artwork.getD "") = true
  · rw [hpicture, P.URL_of_validURL hvalid, if_pos hvalid]
    exact ⟨rfl, rfl⟩
  · rw [hpicture, P.URL_of_not_validURL hvalid, if_neg hvalid]
    exact ⟨rfl, rfl⟩

/-- An answer brings a name with its picture, or takes the picture away. -/
theorem pictured_sendDataToCadastroVC (hserves : Serves P artwork) {vc : AddPokemonViewController}
    {nomePokemon : String} {response : AFResponse}
    (h : Pictured C artwork vc.namePokemon vc.controller.pokemonURLImage)
    (hname : nomePokemon = "" ∨ ∃ r ∈ C.items, nomePokemon = r.name)
    (hanswer : ∀ d, PokemonWork.pokeData response = some d →
      d.artwork = artwork (PokemonWork.urlString ++ nomePokemon)) :
    Pictured C artwork (vc.sendDataToCadastroVC P nomePokemon response).namePokemon
      (vc.sendDataToCadastroVC P nomePokemon response).controller.pokemonURLImage := by
  rcases hdata : PokemonWork.pokeData response with - | d
  · rw [AddOffer.sendDataToCadastroVC_of_none hdata]
    exact h
  · obtain ⟨hpicture, hnamed⟩ := sendDataToCadastroVC_eq nomePokemon hdata
    have hartwork := hanswer d hdata
    rw [hpicture, hnamed]
    rcases hget : d.artwork with - | picture
    · rw [Option.getD_none, hserves.empty, if_neg Bool.false_ne_true]
      exact ⟨h.entry, .inl rfl⟩
    · rw [hget] at hartwork
      have hentry : ∃ r ∈ C.items, nomePokemon = r.name := by
        refine hname.resolve_left fun hlost ↦ ?_
        -- a list that has been lost asks for the list
        rw [hlost, String.append_empty, hserves.list] at hartwork
        exact Option.some_ne_none picture hartwork
      rw [Option.getD_some, if_pos (hserves.validURL _ picture hartwork.symm)]
      exact ⟨fun n hn ↦ Option.some_inj.mp hn ▸ hentry, .inr ⟨nomePokemon, rfl, hartwork.symm⟩⟩

theorem Tapped.eq_empty_or_mem (hP : P.MapsASCII) (hC : SelecionarPokemonVC.Named C)
    {nome : String} (h : Tapped P C nome) : nome = "" ∨ ∃ r ∈ C.items, nome = r.name := by
  obtain ⟨acts, vc, row, hrun, hanswered, hnome⟩ := h
  have hpieces := SelecionarPokemonVC.inPieces_of_run hrun hanswered
  rcases hpieces.didSelectRowAt hP hC hnome with ⟨-, hlost⟩ | ⟨_, r, -, -, hr, hname⟩
  · exact .inl hlost
  · exact .inr ⟨r, hr, hname⟩

/-- Looking the telephone up leaves the rest of the form. -/
theorem exists_getTelephone_eq (vc : AddPokemonViewController) (document : Option Fields) :
    ∃ phoneNumber, vc.getTelephone document = { vc with phoneNumber } := by
  rcases document with - | data
  · exact ⟨_, rfl⟩
  · rw [AddPokemonViewController.getTelephone]
    rcases data "telefone" with - | teamInfo <;> exact ⟨_, rfl⟩

/-- What the inputs make of the form. -/
theorem pictured_draftStep (hP : P.MapsASCII) (hC : SelecionarPokemonVC.Named C)
    (hserves : Serves P artwork) {vc vc' : AddPokemonViewController} {device : ℕ}
    {input : OfferForms.Input} (h : (pictures C artwork).draft (s.uid device) vc)
    (hpicked : Picked P C artwork s (.input device input)) (hstep : DraftStep P vc input vc') :
    (pictures C artwork).draft (s.uid device) vc' := by
  cases hstep with
  | texts => exact h
  | sendDataToCadastroVC nomePokemon response =>
    exact pictured_sendDataToCadastroVC hserves h (hpicked.1.eq_empty_or_mem hP hC) hpicked.2
  | getTelephone document =>
    obtain ⟨phoneNumber, heq⟩ := exists_getTelephone_eq vc document
    rw [heq]
    exact h
  | cancelPokemon => exact (pictures C artwork).opened _

/-- The steps keep names and pictures together. -/
theorem admits_pictures (hP : P.MapsASCII) (hC : SelecionarPokemonVC.Named C)
    (hserves : Serves P artwork) {act : Act} (h : Meets (pictures C artwork) s)
    (hpicked : Picked P C artwork s act) : Admits (pictures C artwork) P s act := by
  cases act with
  | input device input =>
    exact fun dev writes hdev ↦
      pictured_draftStep hP hC hserves (h.drafts device) hpicked (draftStep_of_step hdev)
  | createUser device user => exact h.drafts device
  | loadOffersForIUD | respond | store | reject | login | commitChanges | buttonLogout =>
    exact trivial

/-- **Pictures are of the Pokemon named.** In every run where the names handed to the forms are
tapped in lists loaded from the catalog, or not even loaded, and good answers are what PokeAPI has,
the name in every stored offer is the fallback or one of the catalog, and its picture is none or the
artwork of the Pokemon it names. -/
theorem pictured_of_run {acts : List Act} (hP : P.MapsASCII) (hC : SelecionarPokemonVC.Named C)
    (hserves : Serves P artwork)
    (hpicked : (machine P).Allowed (Picked P C artwork) (machine P).start acts)
    (hrun : (machine P).run acts = some s) (hk : s.anuncio[k]? = some data) :
    ∃ name url, data.string "name" = some name ∧ data.string "url" = some url ∧
      (name = "No name" ∨ ∃ r ∈ C.items, name = r.name) ∧
      (url = "" ∨ artwork (PokemonWork.urlString ++ name) = some url) := by
  have hmeets : Meets (pictures C artwork) s :=
    Machine.invariant_of_allowed
      (fun _ _ _ h hG hstep ↦ h.step (admits_pictures hP hC hserves h hG) hstep)
      (.start _ P) hpicked hrun
  obtain ⟨name, url, hname, hurl, hpictured⟩ := hmeets.anuncio k data hk
  refine ⟨_, _, hname, hurl, ?_, hpictured.picture.imp_right ?_⟩
  · rcases name with - | n
    · exact .inl rfl
    · exact .inr (hpictured.entry n rfl)
  · rintro ⟨n, rfl, hartwork⟩
    exact hartwork

/-! ## A Pokemon of the catalog -/

open SelecionarPokemonVC (sampleCatalog firstAnswer)

def samplePicture : String := "https://pokeapi.co/1.png"

def sampleArtwork (url : String) : Option String :=
  if url = "https://pokeapi.co/api/v2/pokemon/bulbasaur" then some samplePicture else none

theorem serves_sampleArtwork : Serves .scalarwise sampleArtwork where
  validURL url picture h := by
    obtain ⟨-, h⟩ := Option.ite_none_right_eq_some.mp h
    rw [← Option.some_inj.mp h]
    decide
  list := by decide
  empty := by decide

def pokemonResponse : AFResponse where
  statusCode := some 200
  data := some (.json (.object [("sprites", .object [("other", .object
    [("official-artwork", .object [("front_default", .string samplePicture)])])])]))

/-- The first row of the list is tapped, and the offer saved. -/
def pickedActs : List Act :=
  [.createUser 0 sampleUser, .login 0 sampleUser,
    .input 0 (.sendDataToCadastroVC "bulbasaur" pokemonResponse),
    .input 0 (.edit .gameTitle ⟨0, 0⟩ "Red"),
    .input 0 (.addPokemon (some sampleUser) "key-key-key-key-key1"), .store 0 "", .store 0 ""]

theorem tapped_bulbasaur : Tapped .scalarwise sampleCatalog "bulbasaur" := by
  have hrun : (SelecionarPokemonVC.machine .scalarwise).run [.respond 0 firstAnswer, .runMain]
      = some (((SelecionarPokemonVC.machine .scalarwise).run
        [.respond 0 firstAnswer, .runMain]).getD SelecionarPokemonVC.initial) := by rfl
  exact ⟨_, _, 0, hrun, by decide, rfl⟩

theorem picked_pickedActs : ∀ act ∈ pickedActs, ∀ s : State,
    Picked .scalarwise sampleCatalog sampleArtwork s act := by
  have hartwork : ∀ d, PokemonWork.pokeData pokemonResponse = some d →
      d.artwork = sampleArtwork (PokemonWork.urlString ++ "bulbasaur") := by
    intro d hd
    rw [← Option.some_inj.mp hd]
    decide
  simpa [pickedActs, Picked, tapped_bulbasaur] using fun _ ↦ hartwork

theorem run_pickedActs :
    (machine .scalarwise).run pickedActs = some (sampleState pickedActs) := by rfl

theorem pictured_pickedActs : ∃ data : Fields,
    (sampleState pickedActs).anuncio["key-key-key-key-key1"]? = some data ∧
      data.string "name" = some "bulbasaur" ∧ data.string "url" = some samplePicture ∧
      ∃ name url, data.string "name" = some name ∧ data.string "url" = some url ∧
        (name = "No name" ∨ ∃ r ∈ sampleCatalog.items, name = r.name) ∧
        (url = "" ∨ sampleArtwork (PokemonWork.urlString ++ name) = some url) := by
  have hpicked : (machine .scalarwise).Allowed (Picked .scalarwise sampleCatalog sampleArtwork)
      (machine .scalarwise).start pickedActs :=
    Machine.allowed_of_forall_mem picked_pickedActs _
  obtain ⟨data, hdata, hname, hurl⟩ : ∃ data : Fields,
    (sampleState pickedActs).anuncio["key-key-key-key-key1"]? = some data ∧
      data.string "name" = some "bulbasaur" ∧ data.string "url" = some samplePicture :=
    ⟨_, rfl, rfl, rfl⟩
  exact ⟨data, hdata, hname, hurl, pictured_of_run scalarwise_mapsASCII
    SelecionarPokemonVC.named_sampleCatalog serves_sampleArtwork hpicked run_pickedActs hdata⟩

end Market

end Poketrader
