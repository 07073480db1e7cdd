import Poketrader.Views.AddPokemonViewController
import Poketrader.Transition.Machine

/-!
# Name and artwork

The form of a new offer while Pokemon are selected, PokeAPI answers and the save button is pressed.
Two things are recorded beside the screen: what was selected last, and which answers PokeAPI has
given, the latest one first. Every offer handed to `saveOffer` is kept together with that record as
it was at the press.

An answer is taken over whatever was selected meanwhile, and its picture is taken over even where
its name is not. Name and picture therefore belong to the Pokemon selected last exactly from the
answer for it, if it brought artwork with a URL, up to the next answer.
-/

open Foundation Document

namespace Poketrader

namespace AddOffer

/-- An offer handed to `saveOffer`, and what had been selected and answered by then. -/
structure Saved where
  args : SaveArguments
  selected : Option String
  answers : List (String × PokeData)
  deriving DecidableEq

structure State where
  screen : AddPokemonViewController
  /-- The names of the Pokemon asked for and not yet answered. -/
  requests : List String
  selected : Option String
  /-- The Pokemon PokeAPI has answered with, the latest one first. -/
  answers : List (String × PokeData)
  saved : List Saved
  deriving DecidableEq

inductive Act where
  /-- A Pokemon is sent to `sendDataToCadastroVC`. -/
  | select (nomePokemon : String)
  /-- The `i`-th request in flight is answered. -/
  | respond (i : ℕ) (response : AFResponse)
  /-- The texts of the form are changed. -/
  | edit (form : AddPokemonForm)
  /-- `getTelephone` is answered. -/
  | telephone (telefone : String)
  | press (currentUser : Option AuthUser) (documentID : String)

/-- The screen as it opens. -/
def initial : State where
  screen := { form := .empty, namePokemon := none, phoneNumber := none,
              controller := { pokemon := none } }
  requests := []
  selected := none
  answers := []
  saved := []

variable (P : Platform)

def step (s : State) : Act → Option State
  | .select nomePokemon =>
    let requests := match PokemonWork.getPokemonURL P nomePokemon with
      | some _ => s.requests ++ [nomePokemon]
      | none => s.requests
    some { s with requests, selected := some nomePokemon }
  | .respond i response => (s.requests[i]?).map fun nomePokemon ↦
      -- nothing compares the name answered for with the one selected last
      { s with
        screen := s.screen.sendDataToCadastroVC P nomePokemon response
        requests := s.requests.eraseIdx i
        answers := match PokemonWork.pokeData response with
          | some data => (nomePokemon, data) :: s.answers
          | none => s.answers }
  | .edit form => some { s with screen := { s.screen with form } }
  | .telephone telefone => some { s with screen := { s.screen with phoneNumber := some telefone } }
  | .press currentUser documentID => some
      { s with
        screen := (s.screen.addPokemon currentUser documentID).screen
        saved := if s.screen.isValid then ⟨s.screen.arguments, s.selected, s.answers⟩ :: s.saved
          else s.saved }

def machine : Machine State Act where
  start := initial
  step := step P

/-- Name and picture belong together, and to the Pokemon selected last: PokeAPI had answered for
that name with official artwork under that URL. -/
def BelongTogether (saved : Saved) : Prop :=
  ∃ n data u, saved.args.name = some n ∧ saved.args.url = some u ∧
    (n, data) ∈ saved.answers ∧ data.artwork = some u ∧ saved.selected = some n

/-- A valid form is saved only while the latest answer is for the Pokemon selected last, with
official artwork whose text is a URL. -/
def UpToDate (s : State) : Act → Prop
  | .press _ _ => s.screen.isValid = true → ∃ answer ∈ s.answers.head?,
      s.selected = some answer.1 ∧ ∃ u ∈ answer.2.artwork, P.validURL u = true
  | _ => True

instance (s : State) : ∀ a, Decidable (UpToDate P s a)
  | .press _ _ => inferInstanceAs (Decidable (_ → ∃ answer ∈ s.answers.head?, _ ∧ _))
  | .select _ | .respond _ _ | .edit _ | .telephone _ => isTrue trivial

/-- The controller has the Pokemon of the latest answer, and the screen its name if its artwork has
a URL. -/
structure Current (s : State) : Prop where
  pokemon : ∀ answer ∈ s.answers.head?,
    s.screen.controller.pokemon = some (Pokemon.init (answer.2.artwork.getD "") answer.2)
  name : ∀ answer ∈ s.answers.head?, ∀ u ∈ answer.2.artwork, P.validURL u = true →
    s.screen.namePokemon = some answer.1
  saved : ∀ saved ∈ s.saved, BelongTogether saved

variable {P}

theorem current_initial : Current P initial where
  pokemon answer h := absurd h (by simp [initial])
  name answer h := absurd h (by simp [initial])
  saved saved h := absurd h (by simp [initial])

/-- A good answer is taken over by the controller, and its name by the screen if its picture has a
URL. -/
theorem sendDataToCadastroVC_of_some {vc : AddPokemonViewController} {nomePokemon : String}
    {response : AFResponse} {data : PokeData} (h : PokemonWork.pokeData response = some data) :
    (vc.sendDataToCadastroVC P nomePokemon response).controller.pokemon
        = some (Pokemon.init (data.artwork.getD "") data) ∧
      ∀ u ∈ data.artwork, P.validURL u = true →
        (vc.sendDataToCadastroVC P nomePokemon response).namePokemon = some nomePokemon := by
  simp only [AddPokemonViewController.sendDataToCadastroVC,
    AddPokemonController.getPokemonData, PokemonWork.getPokemon_of_some h, if_true]
  constructor
  · split <;> rfl
  · intro u hu hvalid
    rw [Option.mem_def] at hu
    have hurl : P.URL (AddPokemonController.pokemonURLImage
        { pokemon := some (Pokemon.init (data.artwork.getD "") data) }) = some u := by
      rw [hu]
      exact P.URL_eq_some_iff.mpr ⟨hvalid, rfl⟩
    rw [hurl]

/-- A bad answer changes nothing. -/
theorem sendDataToCadastroVC_of_none {vc : AddPokemonViewController} {nomePokemon : String}
    {response : AFResponse} (h : PokemonWork.pokeData response = none) :
    vc.sendDataToCadastroVC P nomePokemon response = vc := by
  simp only [AddPokemonViewController.sendDataToCadastroVC,
    AddPokemonController.getPokemonData, PokemonWork.getPokemon_of_none h]
  rfl

/-- What a valid press saves belongs together if it comes in time. -/
theorem Current.belongTogether {s : State} (h : Current P s) {currentUser : Option AuthUser}
    {documentID : String} (hvalid : s.screen.isValid = true)
    (htime : UpToDate P s (.press currentUser documentID)) :
    BelongTogether ⟨s.screen.arguments, s.selected, s.answers⟩ := by
  obtain ⟨answer, hhead, hselected, u, hu, hurl⟩ := htime hvalid
  have hname := h.name answer hhead u hu hurl
  have hpokemon := h.pokemon answer hhead
  rw [Option.mem_def] at hu
  have hpicture : s.screen.controller.pokemonURLImage = u := by
    rw [AddPokemonController.pokemonURLImage, hpokemon, hu]
    rfl
  refine ⟨answer.1, answer.2, u, hname, congrArg some hpicture, ?_, hu, hselected⟩
  exact List.mem_of_mem_head? hhead

theorem Current.step {s t : State} {a : Act} (h : Current P s) (htime : UpToDate P s a)
    (hstep : (machine P).step s a = some t) : Current P t := by
  cases a with
  | select nomePokemon =>
    obtain rfl := Option.some_inj.mp hstep
    exact ⟨h.pokemon, h.name, h.saved⟩
  | respond i response =>
    obtain ⟨nomePokemon, -, rfl⟩ := Option.map_eq_some_iff.mp hstep
    cases hdata : PokemonWork.pokeData response with
    | none =>
      simp only [sendDataToCadastroVC_of_none hdata]
      exact ⟨h.pokemon, h.name, h.saved⟩
    | some data =>
      obtain ⟨hpokemon, hname⟩ :=
        sendDataToCadastroVC_of_some (P := P) hdata
      refine ⟨fun answer hanswer ↦ ?_, fun answer hanswer ↦ ?_, h.saved⟩
      · obtain rfl : (nomePokemon, data) = answer := Option.some_inj.mp hanswer
        exact hpokemon
      · obtain rfl : (nomePokemon, data) = answer := Option.some_inj.mp hanswer
        exact hname
  | edit form =>
    obtain rfl := Option.some_inj.mp hstep
    exact ⟨h.pokemon, h.name, h.saved⟩
  | telephone telefone =>
    obtain rfl := Option.some_inj.mp hstep
    exact ⟨h.pokemon, h.name, h.saved⟩
  | press currentUser documentID =>
    obtain rfl := Option.some_inj.mp hstep
    have hscreen : (s.screen.addPokemon currentUser documentID).screen
        = { s.screen with form := .empty } := by
      rw [AddPokemonViewController.addPokemon]
      split <;> rfl
    refine ⟨hscreen ▸ h.pokemon, hscreen ▸ h.name, fun saved hsaved ↦ ?_⟩
    cases hvalid : s.screen.isValid with
    | false => exact h.saved saved (by simpa [hvalid] using hsaved)
    | true =>
      simp only [hvalid, if_true, List.mem_cons] at hsaved
      obtain rfl | hsaved := hsaved
      · exact h.belongTogether hvalid htime
      · exact h.saved saved hsaved

/-- **Name and artwork belong together** in every offer saved in a run whose valid presses all come
while the latest answer is for the Pokemon selected last, with artwork that has a URL. -/
theorem saved_belongTogether {acts : List Act} {s : State} (hrun : (machine P).run acts = some s)
    (htime : (machine P).Allowed (UpToDate P) (machine P).start acts) :
    ∀ saved ∈ s.saved, BelongTogether saved :=
  (Machine.invariant_of_allowed (fun _ _ _ h hG hstep ↦ h.step hG hstep) current_initial htime
    hrun).saved

/-- A good response, with the path of the official artwork if there is one. -/
def responseOf (artwork : Json) : AFResponse where
  statusCode := some 200
  data := some (.json (.object [("sprites", .object [("other", .object
    [("official-artwork", .object [("front_default", artwork)])])])]))

def sampleForm : AddPokemonForm := ⟨"Red", "5", "35", "40", "55", "90", "50", "50", "shiny"⟩

/-- A Pokemon is selected, answered for and saved. -/
def promptActs : List Act :=
  [.select "pikachu", .respond 0 (responseOf (.string "https://art/25.png")), .edit sampleForm,
    .press none "key-1"]

theorem saved_belongTogether_promptActs :
    ∃ s saved, (machine .ascii).run promptActs = some s ∧ s.saved = [saved] ∧
      BelongTogether saved := by
  have hrun : (machine .ascii).run promptActs
      = some (((machine .ascii).run promptActs).getD initial) := by rfl
  exact ⟨_, _, hrun, rfl, saved_belongTogether hrun (by decide) _ List.mem_cons_self⟩

/-- A second Pokemon is selected, which has no official artwork, and a third, for which the answer
has not come. -/
def mixedActs : List Act :=
  [.edit sampleForm, .press none "key-1", .select "pikachu",
    .respond 0 (responseOf (.string "https://art/25.png")), .select "pichu",
    .respond 0 (responseOf .null), .edit sampleForm, .press none "key-2", .select "raichu",
    .edit sampleForm, .press none "key-3"]

/-- The first offer has neither a name nor a picture, and the other two the name of the first
Pokemon selected and no picture. -/
theorem mixedActs_mismatch :
    ∃ s, (machine .ascii).run mixedActs = some s ∧
      s.saved.map (fun saved ↦ (saved.args.name, saved.args.url, saved.selected))
        = [(some "pikachu", some "", some "raichu"), (some "pikachu", some "", some "pichu"),
          (none, some "", none)] ∧
      ∀ saved ∈ s.saved, ¬BelongTogether saved := by
  refine ⟨((machine .ascii).run mixedActs).getD initial, rfl, by decide, fun saved hsaved ↦ ?_⟩
  have hnames : ∀ saved ∈ (((machine .ascii).run mixedActs).getD initial).saved,
      saved.args.name ≠ saved.selected ∨ saved.args.name = none := by decide
  rintro ⟨n, data, u, hname, -, -, -, hselected⟩
  obtain hne | hnone := hnames saved hsaved
  · exact hne (hname.trans hselected.symm)
  · exact absurd (hname.symm.trans hnone) (by simp)

end AddOffer

end Poketrader
