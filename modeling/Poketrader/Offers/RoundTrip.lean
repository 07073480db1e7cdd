import Poketrader.Offers.Store
import Poketrader.Views.AddPokemonViewController
import Poketrader.Views.AnuncioViewController

/-!
# From the form to the labels

A valid form, once its document is written, comes back through `loadOffers` to the screen of the
offer. Between the two the nine texts pass five lists of arguments. All but one come back in the
label of their own name: the attack is filled with the text of the special attack.
-/

open Document

namespace Poketrader

/-- The screen shows in each of the nine labels the text typed in the field of that name. -/
structure ShowsTyped (labels : AnuncioLabels) (form : AddPokemonForm) : Prop where
  nv : labels.nv = some form.nv
  hp : labels.hp = some form.hp
  defesa : labels.defesa = some form.defesa
  ataque : labels.ataque = some form.ata
  velocidade : labels.velocidade = some form.vel
  ataqueSP : labels.ataqueSP = some form.ataSp
  defesaSP : labels.defesaSP = some form.defSp
  jogo : labels.jogo = some form.gameTitle
  observacoes : labels.observacoes = some form.description

/-- The offer a valid form saves. -/
def AddPokemonViewController.offer (vc : AddPokemonViewController) (user : AuthUser) : Offer :=
  Offer.ofSave user vc.arguments

/-- The document of a save, from its first write on. -/
theorem getElem?_foldl_saveOffer (user : AuthUser) (documentID : String) (args : SaveArguments)
    (n : ℕ) (t : Collection) :
    ∃ id, (((saveOffer (some user) documentID args).take (n + 1)).foldl
        (fun t w ↦ w.commit t) t)[documentID]? = some ((Offer.ofSave user args).fields id) := by
  cases n with
  | zero =>
    refine ⟨"No Id", ?_⟩
    simp only [saveOffer, List.take_succ_cons, List.take_zero, List.foldl_cons, List.foldl_nil,
      Write.getElem?_commit_setData, if_true, Offer.fields_ofSave, Option.getD_none]
  | succ n =>
    refine ⟨documentID, ?_⟩
    simp only [saveOffer, List.take_succ_cons, List.take_nil, List.foldl_cons, List.foldl_nil,
      Write.commit_updateData_commit_setData, Write.getElem?_commit_setData, if_true,
      Offer.fields_ofSave, Offer.update_idData, Option.getD_some]

/-- A stored offer is among those `loadOffers` returns. -/
theorem mem_loadOffers {t : Collection} {k : String} {data : Fields} {oferta : OfertaElement}
    (hk : t[k]? = some data) (hdec : decodeOffer data = some oferta) :
    ∃ ofertas, loadOffers (.ofDocuments t.toList)
        = some (some { ofertas := some ofertas }, none) ∧ oferta ∈ ofertas := by
  refine ⟨_, rfl, ?_⟩
  rw [appendDecoded_eq, List.mem_filterMap]
  exact ⟨(k, data), mem_toList_iff.mpr hk, hdec⟩

/-- The labels show what was typed exactly if the attack was typed like the special attack. -/
theorem showsTyped_iff (vc : AddPokemonViewController) (user : AuthUser) :
    (∃ labels, AnuncioViewController.viewDidLoad (some (vc.offer user).view) = some labels ∧
        ShowsTyped labels vc.form) ↔ vc.form.ata = vc.form.ataSp := by
  constructor
  · rintro ⟨labels, hlabels, hshows⟩
    obtain rfl := Option.some_inj.mp hlabels
    exact (Option.some_inj.mp hshows.ataque).symm
  · intro h
    exact ⟨_, rfl, rfl, rfl, rfl, congrArg some h.symm, rfl, rfl, rfl, rfl, rfl⟩

/-- **Round trip.** Once the first write of a valid form has succeeded, whatever became of the
second, the document decodes, is among the offers loaded, and its screen shows the nine texts as
typed exactly if the attack was typed like the special attack. -/
theorem addPokemon_round_trip (vc : AddPokemonViewController) (user : AuthUser)
    (documentID : String) (t : Collection) (n : ℕ) (hvalid : vc.isValid = true) :
    ∃ oferta ofertas,
      ((((vc.addPokemon (some user) documentID).writes.take (n + 1)).foldl
        (fun t w ↦ w.commit t) t)[documentID]?).bind decodeOffer = some oferta ∧
      loadOffers (.ofDocuments (((vc.addPokemon (some user) documentID).writes.take (n + 1)).foldl
        (fun t w ↦ w.commit t) t).toList) = some (some { ofertas := some ofertas }, none) ∧
      oferta ∈ ofertas ∧
      ((∃ labels, AnuncioViewController.viewDidLoad (some oferta) = some labels ∧
        ShowsTyped labels vc.form) ↔ vc.form.ata = vc.form.ataSp) := by
  rw [AddPokemonViewController.addPokemon_writes_of_isValid hvalid]
  obtain ⟨id, hget⟩ := getElem?_foldl_saveOffer user documentID vc.arguments n t
  have hdec := Offer.decodeOffer_fields id (Offer.ofSave user vc.arguments)
  obtain ⟨ofertas, hload, hmem⟩ := mem_loadOffers hget hdec
  refine ⟨(vc.offer user).view, ofertas, ?_, hload, hmem, showsTyped_iff vc user⟩
  rw [hget, Option.bind_some]
  exact hdec

/-- A form whose attack and special attack differ. -/
def sampleScreen : AddPokemonViewController where
  form := ⟨"Red", "5", "35", "40", "55", "90", "50", "45", "shiny"⟩
  namePokemon := some "pikachu"
  phoneNumber := some "(11) 98888 7777"
  controller := { pokemon := none }

theorem addPokemon_round_trip_sampleScreen : ∃ oferta,
    ((((sampleScreen.addPokemon (some sampleUser) "key-1").writes.take 1).foldl
      (fun t w ↦ w.commit t) ∅)["key-1"]?).bind decodeOffer = some oferta ∧
    ((∃ labels, AnuncioViewController.viewDidLoad (some oferta) = some labels ∧
      ShowsTyped labels sampleScreen.form) ↔ sampleScreen.form.ata = sampleScreen.form.ataSp) := by
  obtain ⟨oferta, -, hdec, -, -, hiff⟩ :=
    addPokemon_round_trip sampleScreen sampleUser "key-1" ∅ 0 (by decide)
  exact ⟨oferta, hdec, hiff⟩

/-- It is saved and shown with the attack of the special attack. -/
theorem sampleScreen_shows_ataSp : sampleScreen.isValid = true ∧ ∃ oferta labels,
    ((((sampleScreen.addPokemon (some sampleUser) "key-1").writes.take 1).foldl
      (fun t w ↦ w.commit t) ∅)["key-1"]?).bind decodeOffer = some oferta ∧
    AnuncioViewController.viewDidLoad (some oferta) = some labels ∧
    labels.ataque = some "50" ∧ sampleScreen.form.ata = "55" ∧
    ¬ShowsTyped labels sampleScreen.form := by
  refine ⟨by decide, (sampleScreen.offer sampleUser).view, _, by decide, rfl, rfl, rfl, fun h ↦ ?_⟩
  exact absurd h.ataque (by decide)

end Poketrader
