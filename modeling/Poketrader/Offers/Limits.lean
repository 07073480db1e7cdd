import Poketrader.Offers.AllOrNothing
import Poketrader.Offers.Edit
import Poketrader.Offers.Forms
import Poketrader.Offers.Lens

/-!
# The length limits

The add-offer form declares ten units for the title and three for each of the seven texts of the
status, the edit screen three for each of the seven. The limit of the status is kept everywhere: on
the forms, in the writes on their way, in the collection and in what is loaded from it. The title is
not limited at all, since for its field the form measures an empty text.

## The invariant

What is asked of a title is a parameter of the invariant. With no demand on it, every step keeps the
invariant, which is the unconditional limit of the status; with ten units, the steps that do are
those that leave no longer title.
-/

open Document Foundation

namespace Poketrader

namespace OfferForms

open MeuAnuncioViewController (viewDidLoad)

/-! ## What is within the limits -/

/-- The limit of the title. -/
def ShortTitle (title : String) : Prop := utf16Length title ≤ 10

/-- The limit of the status. -/
def ShortStats (texts : OfferTexts) : Prop :=
  ∀ stat : OfferStat, utf16Length (texts.get stat.attr) ≤ 3

section

variable (T : String → Prop)

/-- A form with a title in `T` whose status is within its limit. -/
structure FormFits (form : AddPokemonForm) : Prop where
  gameTitle : T form.gameTitle
  stat : ∀ stat : OfferStat, utf16Length (form.text (.stat stat)) ≤ 3

/-- A document with a title in `T` whose status is within its limit, as far as they are there. -/
structure DocumentFits (data : Fields) : Prop where
  gameTitle : ∀ title, data.string "game" = some title → T title
  stat : ∀ (stat : OfferStat) text, data.string stat.attr.key = some text → utf16Length text ≤ 3

/-- A write of such fields. -/
def WriteFits : Write → Prop
  | .setData _ data => DocumentFits T data
  | .updateData _ data => DocumentFits T data
  | .delete _ => True

/-- The forms and the documents fit. -/
structure State.Fits (s : State) : Prop where
  forms : ∀ d, FormFits T (s.devices d).add.form
  screens : ∀ d screen, (s.devices d).screen = some screen → ShortStats screen.texts
  documents : ∀ (k : String) (data : Fields), s.anuncio[k]? = some data → DocumentFits T data

/-- A device with forms that fit and nothing in its list that does not. -/
structure DeviceFits (dev : Device) : Prop where
  form : FormFits T dev.add.form
  screen : ∀ screen, dev.screen = some screen → ShortStats screen.texts
  ofertas : ∀ oferta ∈ dev.ofertas, ShortStats (viewDidLoad oferta)

/-- The invariant: what is on its way fits too. -/
structure State.Invariant (s : State) : Prop where
  devices : ∀ d, DeviceFits T (s.devices d)
  documents : ∀ (k : String) (data : Fields), s.anuncio[k]? = some data → DocumentFits T data
  answers : ∀ answer ∈ s.answers, ∀ oferta ∈ answer.2, ShortStats (viewDidLoad oferta)
  writes : ∀ write ∈ s.writes, WriteFits T write

end

variable {T : String → Prop} {P : Platform}

theorem State.Invariant.fits {s : State} (h : s.Invariant T) : s.Fits T where
  forms d := (h.devices d).form
  screens d := (h.devices d).screen
  documents := h.documents

/-! ## Documents -/

theorem game_ne_key (a : Attr) : "game" ≠ a.key := by
  rcases a with - | - | - | - | - | - | - | - <;> decide

theorem DocumentFits.update {old new : Fields} (hold : DocumentFits T old)
    (hnew : DocumentFits T new) : DocumentFits T (old.update new) where
  gameTitle title h := (Fields.string_update h).elim (hnew.gameTitle title) (hold.gameTitle title)
  stat stat text h := (Fields.string_update h).elim (hnew.stat stat text) (hold.stat stat text)

/-- The collection fits after a write that fits. -/
theorem WriteFits.commit {write : Write} {t : Collection} (hwrite : WriteFits T write)
    (ht : ∀ (k : String) (data : Fields), t[k]? = some data → DocumentFits T data) (k : String)
    (data : Fields) (hdata : (write.commit t)[k]? = some data) : DocumentFits T data := by
  rcases write with ⟨id, new⟩ | ⟨id, new⟩ | id
  · rw [Write.getElem?_commit_setData] at hdata
    split at hdata
    · exact Option.some_inj.mp hdata ▸ hwrite
    · exact ht k data hdata
  · rw [Write.getElem?_commit_updateData] at hdata
    split at hdata
    · obtain ⟨old, hold, rfl⟩ := Option.map_eq_some_iff.mp hdata
      exact (ht k old hold).update hwrite
    · exact ht k data hdata
  · rw [Write.getElem?_commit_delete] at hdata
    split at hdata
    · exact absurd hdata.symm (Option.some_ne_none data)
    · exact ht k data hdata

/-- The fields an Editar writes fit if the texts do. -/
theorem documentFits_data {texts : OfferTexts} (h : ShortStats texts) :
    DocumentFits T texts.data where
  gameTitle title htitle := by
    rw [Fields.string, texts.data_of_ne game_ne_key, Option.bind_none] at htitle
    exact absurd htitle.symm (Option.some_ne_none title)
  stat stat text htext := by
    rw [Fields.string, texts.data_key, Option.bind_some, Value.asString_string,
      Option.some_inj] at htext
    exact htext ▸ h stat

/-- The second write of a save has no limited field. -/
theorem documentFits_idData (ref : Option String) : DocumentFits T (idData ref) where
  gameTitle title h := absurd h.symm (Option.some_ne_none title)
  stat stat text h := by
    have hnone : (idData ref).string stat.attr.key = none := by
      rcases stat with - | - | - | - | - | - | - <;> rfl
    exact absurd (hnone.symm.trans h).symm (Option.some_ne_none text)

/-- The texts of the status of a saved offer are those of the form, but for the attack, which has
the text of the special attack. -/
theorem get_offer (vc : AddPokemonViewController) (user : AuthUser) (stat : OfferStat) :
    (vc.offer user).toOfferTexts.get stat.attr
      = vc.form.text (.stat (if stat = .ata then .ataSp else stat)) := by
  rcases stat with - | - | - | - | - | - | - <;> rfl

/-- The fields of the first write of a save fit if the form does. -/
theorem documentFits_offer {vc : AddPokemonViewController} (h : FormFits T vc.form)
    (user : AuthUser) (id : String) : DocumentFits T ((vc.offer user).fields id) where
  gameTitle title htitle := by
    have hgame : ((vc.offer user).fields id).string "game" = some vc.form.gameTitle := rfl
    exact Option.some_inj.mp (hgame.symm.trans htitle) ▸ h.gameTitle
  stat stat text htext := by
    rw [Editing.string_fields_key, Option.some_inj, get_offer] at htext
    exact htext ▸ h.stat _

/-- Both writes of a press fit. -/
theorem writeFits_addPokemon {vc : AddPokemonViewController} (h : FormFits T vc.form)
    (currentUser : Option AuthUser) (documentID : String) :
    ∀ write ∈ (vc.addPokemon currentUser documentID).writes, WriteFits T write := by
  intro write hwrite
  by_cases hvalid : vc.isValid = true
  · rw [AddPokemonViewController.addPokemon_writes_of_isValid hvalid] at hwrite
    rcases currentUser with - | user
    · exact absurd hwrite List.not_mem_nil
    · rcases List.mem_cons.mp hwrite with rfl | hwrite
      · exact documentFits_offer h user "No Id"
      · rw [List.mem_singleton.mp hwrite]
        exact documentFits_idData _
  · rw [AddPokemonViewController.addPokemon, if_neg hvalid] at hwrite
    exact absurd hwrite List.not_mem_nil

/-- An offer loaded from a document that fits opens with texts that do. -/
theorem DocumentFits.shortStats {data : Fields} (h : DocumentFits T data)
    {currentUser : Option AuthUser} {oferta : OfertaElement}
    (hdecode : decodeOwnOffer currentUser data = some oferta) : ShortStats (viewDidLoad oferta) :=
  fun stat ↦ h.stat stat _ (string_key_of_decoded hdecode stat.attr)

/-! ## Forms -/

theorem form_sendDataToCadastroVC (P : Platform) (vc : AddPokemonViewController)
    (nomePokemon : String) (response : AFResponse) :
    (vc.sendDataToCadastroVC P nomePokemon response).form = vc.form := by
  rw [AddPokemonViewController.sendDataToCadastroVC]
  dsimp only
  split
  · split <;> rfl
  · rfl

theorem form_getTelephone (vc : AddPokemonViewController) (document : Option Fields) :
    (vc.getTelephone document).form = vc.form := by
  rcases document with - | data
  · rfl
  · rw [AddPokemonViewController.getTelephone]
    split <;> rfl

/-- A title in `T` keeps the form as it should be. -/
theorem FormFits.setText_gameTitle {form : AddPokemonForm} (h : FormFits T form) {title : String}
    (htitle : T title) : FormFits T (form.setText .gameTitle title) where
  gameTitle := htitle
  stat stat := by
    rw [form.text_setText_of_ne AddPokemonTextField.noConfusion]
    exact h.stat stat

/-- An edit of the status keeps the form as it should be. -/
theorem FormFits.edit_stat {form form' : AddPokemonForm} (h : FormFits T form) {stat : OfferStat}
    {range : NSRange} {string : String} (hedit : form.edit (.stat stat) range string = some form') :
    FormFits T form' := by
  rw [OfferForms.edit_stat] at hedit
  obtain ⟨text, -, rfl⟩ := Option.map_eq_some_iff.mp hedit
  split
  · next hshort =>
    refine ⟨?_, fun other ↦ ?_⟩
    · change T ((form.setText (.stat stat) text).text .gameTitle)
      rw [form.text_setText_of_ne AddPokemonTextField.noConfusion]
      exact h.gameTitle
    · by_cases hother : other = stat
      · rw [hother, form.text_setText_self]
        exact hshort
      · rw [form.text_setText_of_ne fun heq ↦ hother (AddPokemonTextField.stat.inj heq)]
        exact h.stat other
  · exact h

/-- An edit of the description changes no limited text. -/
theorem FormFits.editDescription {form form' : AddPokemonForm} (h : FormFits T form)
    {range : NSRange} {string : String} (hedit : form.editDescription range string = some form') :
    FormFits T form' := by
  obtain ⟨text, -, rfl⟩ := Option.map_eq_some_iff.mp hedit
  refine ⟨h.gameTitle, fun stat ↦ ?_⟩
  have hstat : ({ form with description := text } : AddPokemonForm).text (.stat stat)
      = form.text (.stat stat) := by
    rcases stat with - | - | - | - | - | - | - <;> rfl
  exact hstat.symm ▸ h.stat stat

theorem fits_empty (hempty : T "") : FormFits T .empty where
  gameTitle := hempty
  stat stat := by rcases stat with - | - | - | - | - | - | - <;> decide

/-- An edit on the edit screen keeps the limit. -/
theorem ShortStats.edit {texts texts' : OfferTexts} (h : ShortStats texts) {stat : OfferStat}
    {range : NSRange} {string : String}
    (hedit : MeuAnuncioViewController.edit texts stat range string = some texts') :
    ShortStats texts' := by
  rw [edit_texts] at hedit
  obtain ⟨text, -, rfl⟩ := Option.map_eq_some_iff.mp hedit
  split
  · next hshort =>
    intro other
    by_cases hother : other = stat
    · rw [hother, texts.get_set_self]
      exact hshort
    · rw [texts.get_set_of_ne fun heq ↦ hother (OfferStat.attr_injective heq)]
      exact h other
  · exact h

theorem ShortStats.editObs {texts texts' : OfferTexts} (h : ShortStats texts) {range : NSRange}
    {string : String} (hedit : MeuAnuncioViewController.editObs texts range string = some texts') :
    ShortStats texts' := by
  obtain ⟨text, -, rfl⟩ := Option.map_eq_some_iff.mp hedit
  intro stat
  rw [texts.get_set_of_ne stat.attr_ne_obs]
  exact h stat

/-! ## Steps -/

/-- What happens to the add-offer screen leaves the rest of the device. -/
theorem DeviceFits.setAdd {dev : Device} (h : DeviceFits T dev) {add : AddPokemonViewController}
    (hform : FormFits T add.form) : DeviceFits T { dev with add } where
  form := hform
  screen := h.screen
  ofertas := h.ofertas

/-- So does what happens to the edit screen. -/
theorem DeviceFits.setScreen {dev : Device} (h : DeviceFits T dev) {screen : EditScreen}
    (hshort : ShortStats screen.texts) : DeviceFits T { dev with screen := some screen } where
  form := h.form
  screen _ hscreen := Option.some_inj.mp hscreen ▸ hshort
  ofertas := h.ofertas

/-- **A step of a device.** If an edit of the title leaves a title in `T`, the device fits after the
step and so do the writes issued. -/
theorem DeviceFits.step {dev dev' : Device} {input : Input} {writes : List Write}
    (h : DeviceFits T dev) (hempty : T "")
    (htitle : ∀ range string, input = .edit .gameTitle range string →
      ∀ title, replacingCharacters dev.add.form.gameTitle range string = some title → T title)
    (hstep : dev.step P input = some (dev', writes)) :
    DeviceFits T dev' ∧ ∀ write ∈ writes, WriteFits T write := by
  have hnone : ∀ write ∈ ([] : List Write), WriteFits T write :=
    fun write hwrite ↦ absurd hwrite List.not_mem_nil
  cases input with
  | edit textField range string =>
    obtain ⟨form, hform, heq⟩ := Option.map_eq_some_iff.mp hstep
    obtain ⟨rfl, rfl⟩ := Prod.mk.inj heq
    refine ⟨h.setAdd ?_, hnone⟩
    rcases textField with - | stat
    · rw [edit_gameTitle] at hform
      obtain ⟨title, hnew, rfl⟩ := Option.map_eq_some_iff.mp hform
      exact h.form.setText_gameTitle (htitle range string rfl title hnew)
    · exact h.form.edit_stat hform
  | editDescription range string =>
    obtain ⟨form, hform, heq⟩ := Option.map_eq_some_iff.mp hstep
    obtain ⟨rfl, rfl⟩ := Prod.mk.inj heq
    exact ⟨h.setAdd (h.form.editDescription hform), hnone⟩
  | sendDataToCadastroVC nomePokemon response =>
    obtain ⟨rfl, rfl⟩ := Prod.mk.inj (Option.some_inj.mp hstep)
    refine ⟨h.setAdd ?_, hnone⟩
    rw [form_sendDataToCadastroVC]
    exact h.form
  | getTelephone document =>
    obtain ⟨rfl, rfl⟩ := Prod.mk.inj (Option.some_inj.mp hstep)
    refine ⟨h.setAdd ?_, hnone⟩
    rw [form_getTelephone]
    exact h.form
  | addPokemon currentUser documentID =>
    have hform : FormFits T (dev.add.addPokemon currentUser documentID).screen.form := by
      rw [AddPokemonViewController.addPokemon_form]
      exact fits_empty hempty
    have hwrites := writeFits_addPokemon h.form currentUser documentID
    rw [Device.step] at hstep
    -- what the press does is in the two facts above, and is not computed again
    generalize dev.add.addPokemon currentUser documentID = press at hform hwrites hstep
    obtain ⟨rfl, rfl⟩ := Prod.mk.inj (Option.some_inj.mp hstep)
    exact ⟨h.setAdd hform, hwrites⟩
  | cancelPokemon =>
    obtain ⟨rfl, rfl⟩ := Prod.mk.inj (Option.some_inj.mp hstep)
    exact ⟨h.setAdd (fits_empty hempty), hnone⟩
  | openScreen row =>
    obtain ⟨oferta, hoferta, heq⟩ := Option.map_eq_some_iff.mp hstep
    obtain ⟨rfl, rfl⟩ := Prod.mk.inj heq
    exact ⟨h.setScreen (h.ofertas oferta (List.mem_of_getElem? hoferta)), hnone⟩
  | editStat textField range string =>
    obtain ⟨screen, hscreen, hstep⟩ := Option.bind_eq_some_iff.mp hstep
    obtain ⟨texts, htexts, heq⟩ := Option.map_eq_some_iff.mp hstep
    obtain ⟨rfl, rfl⟩ := Prod.mk.inj heq
    exact ⟨h.setScreen ((h.screen screen hscreen).edit htexts), hnone⟩
  | editObs range string =>
    obtain ⟨screen, hscreen, hstep⟩ := Option.bind_eq_some_iff.mp hstep
    obtain ⟨texts, htexts, heq⟩ := Option.map_eq_some_iff.mp hstep
    obtain ⟨rfl, rfl⟩ := Prod.mk.inj heq
    exact ⟨h.setScreen ((h.screen screen hscreen).editObs htexts), hnone⟩
  | pressedEditarButton =>
    obtain ⟨screen, hscreen, hstep⟩ := Option.bind_eq_some_iff.mp hstep
    obtain ⟨write, hwrite, heq⟩ := Option.map_eq_some_iff.mp hstep
    obtain ⟨rfl, rfl⟩ := Prod.mk.inj heq
    obtain ⟨id, -, rfl⟩ := Option.map_eq_some_iff.mp hwrite
    have hfits : WriteFits T (.updateData id screen.texts.data) :=
      documentFits_data (h.screen screen hscreen)
    exact ⟨h, List.forall_mem_singleton.mpr hfits⟩
  | pressedExcluirButton =>
    obtain ⟨screen, hscreen, hstep⟩ := Option.bind_eq_some_iff.mp hstep
    obtain ⟨write, hwrite, heq⟩ := Option.map_eq_some_iff.mp hstep
    obtain ⟨rfl, rfl⟩ := Prod.mk.inj heq
    obtain ⟨id, -, rfl⟩ := Option.map_eq_some_iff.mp hwrite
    exact ⟨h, List.forall_mem_singleton.mpr trivial⟩

/-- Changing one device for one that fits. -/
theorem forall_update {devices : ℕ → Device} (h : ∀ d, DeviceFits T (devices d)) (device : ℕ)
    {dev : Device} (hdev : DeviceFits T dev) (d : ℕ) :
    DeviceFits T (Function.update devices device dev d) := by
  by_cases hd : d = device
  · rw [hd, Function.update_self]
    exact hdev
  · rw [Function.update_of_ne hd]
    exact h d

/-- **A step.** The invariant is kept by every step, but for an edit of a title that leaves none in
`T`. -/
theorem State.Invariant.step {s s' : State} {act : Act} (h : s.Invariant T) (hempty : T "")
    (htitle : ∀ device range string, act = .input device (.edit .gameTitle range string) →
      ∀ title, replacingCharacters (s.devices device).add.form.gameTitle range string
        = some title → T title)
    (hstep : OfferForms.step P s act = some s') : s'.Invariant T := by
  cases act with
  | input device input =>
    obtain ⟨⟨dev, writes⟩, hdev, rfl⟩ := Option.map_eq_some_iff.mp hstep
    obtain ⟨hfits, hwrites⟩ := (h.devices device).step hempty
      (fun range string hinput ↦ htitle device range string (congrArg _ hinput)) hdev
    refine ⟨forall_update h.devices device hfits, h.documents, h.answers, fun write hwrite ↦ ?_⟩
    exact (List.mem_append.mp hwrite).elim (h.writes write) (hwrites write)
  | loadOffersForIUD device currentUser =>
    obtain rfl := Option.some_inj.mp hstep
    refine ⟨h.devices, h.documents, fun answer hanswer oferta hoferta ↦ ?_, h.writes⟩
    rcases List.mem_append.mp hanswer with hanswer | hanswer
    · exact h.answers answer hanswer oferta hoferta
    · rw [List.mem_singleton.mp hanswer] at hoferta
      obtain ⟨k, data, hdata, hdecode⟩ := exists_document_of_mem_loaded hoferta
      exact (h.documents k data hdata).shortStats hdecode
  | respond i =>
    obtain ⟨⟨device, ofertas⟩, hanswer, rfl⟩ := Option.map_eq_some_iff.mp hstep
    have hofertas := h.answers _ (List.mem_of_getElem? hanswer)
    exact ⟨forall_update h.devices device
        ⟨(h.devices device).form, (h.devices device).screen, hofertas⟩, h.documents,
      fun answer hmem ↦ h.answers answer (List.mem_of_mem_eraseIdx hmem), h.writes⟩
  | store i =>
    obtain ⟨write, hwrite, rfl⟩ := Option.map_eq_some_iff.mp hstep
    have hfits := h.writes write (List.mem_of_getElem? hwrite)
    exact ⟨h.devices, hfits.commit h.documents, h.answers,
      fun other hmem ↦ h.writes other (List.mem_of_mem_eraseIdx hmem)⟩
  | reject i =>
    obtain ⟨write, hwrite, rfl⟩ := Option.map_eq_some_iff.mp hstep
    exact ⟨h.devices, h.documents, h.answers,
      fun other hmem ↦ h.writes other (List.mem_of_mem_eraseIdx hmem)⟩

/-- After an edit of a title the title is the new text. -/
theorem gameTitle_of_step {s s' : State} {device : ℕ} {range : NSRange} {string : String}
    (hstep : OfferForms.step P s (.input device (.edit .gameTitle range string)) = some s') :
    replacingCharacters (s.devices device).add.form.gameTitle range string
      = some (s'.devices device).add.form.gameTitle := by
  obtain ⟨⟨dev, writes⟩, hdev, rfl⟩ := Option.map_eq_some_iff.mp hstep
  obtain ⟨form, hform, heq⟩ := Option.map_eq_some_iff.mp hdev
  obtain ⟨rfl, -⟩ := Prod.mk.inj heq
  rw [edit_gameTitle] at hform
  obtain ⟨title, htitle, rfl⟩ := Option.map_eq_some_iff.mp hform
  dsimp only
  rw [Function.update_self]
  exact htitle

theorem invariant_start (hempty : T "") : (machine P).start.Invariant T where
  devices d := ⟨fits_empty hempty, fun screen h ↦ absurd h.symm (Option.some_ne_none screen),
    fun oferta h ↦ absurd h List.not_mem_nil⟩
  documents k data h := by
    have hnone : (machine P).start.anuncio[k]? = none := Std.ExtTreeMap.getElem?_empty
    exact absurd (hnone.symm.trans h).symm (Option.some_ne_none data)
  answers answer h := absurd h List.not_mem_nil
  writes write h := absurd h List.not_mem_nil

/-! ## Runs -/

/-- **The status keeps its limit** on every form and in every document, whatever is done. -/
theorem fits_of_run {acts : List Act} {s : State} (hrun : (machine P).run acts = some s) :
    s.Fits fun _ ↦ True :=
  (Machine.invariant (I := State.Invariant fun _ ↦ True)
    (fun _ _ _ h hstep ↦ h.step trivial (fun _ _ _ _ _ _ ↦ trivial) hstep)
    (invariant_start trivial) hrun).fits

/-- An edit of a title leaves ten units at most. -/
def TitleEditFits (s : State) : Act → Prop
  | .input device (.edit .gameTitle range string) =>
    utf16Length (s.devices device).add.form.gameTitle - range.length + utf16Length string ≤ 10
  | _ => True

/-- **The limits are kept** all along a run, on the forms and in the collection, exactly if no edit
of the title leaves more than ten units. -/
theorem always_fits_iff (P : Platform) (acts : List Act) :
    (machine P).Always (State.Fits ShortTitle) (machine P).start acts ↔
      (machine P).Allowed TitleEditFits (machine P).start acts := by
  refine Machine.always_iff_allowed_of_invariant (I := State.Invariant ShortTitle) ?_
    (fun s h ↦ h.fits) ?_ (invariant_start (Nat.zero_le 10))
  · intro s act s' h hfits hstep
    refine h.step (Nat.zero_le 10) (fun device range string hact title htitle ↦ ?_) hstep
    subst hact
    rw [ShortTitle, utf16Length_of_replacingCharacters htitle]
    exact hfits
  · intro s act s' hstep hfits
    rcases act with ⟨device, input⟩ | - | - | - | -
    · rcases input with ⟨- | stat, range, string⟩ | - | - | - | - | - | - | - | - | - | -
      · -- the title just edited is on the form
        have hlength := utf16Length_of_replacingCharacters (gameTitle_of_step hstep)
        have hshort : ShortTitle (s'.devices device).add.form.gameTitle :=
          (hfits.forms device).gameTitle
        rw [ShortTitle, hlength] at hshort
        exact hshort
      all_goals trivial
    all_goals trivial

/-- A title of fifteen units is pasted, saved and stored. -/
def longTitleActs : List Act :=
  [.input 0 (.edit .gameTitle ⟨0, 0⟩ "Pokemon Crystal"),
    .input 0 (.addPokemon (some sampleUser) "key-1"), .store 0]

theorem not_always_fits_longTitle :
    (∃ s, (machine .scalarwise).run longTitleActs = some s ∧
      ∃ data, s.anuncio["key-1"]? = some data ∧
        data.string "game" = some "Pokemon Crystal" ∧ utf16Length "Pokemon Crystal" = 15) ∧
      ¬(machine .scalarwise).Always (State.Fits ShortTitle) (machine .scalarwise).start
        longTitleActs := by
  have hstored : ∃ s, (machine .scalarwise).run longTitleActs = some s ∧
      ∃ data, s.anuncio["key-1"]? = some data ∧
        data.string "game" = some "Pokemon Crystal" ∧ utf16Length "Pokemon Crystal" = 15 :=
    ⟨_, rfl, _, Std.ExtTreeMap.getElem?_insert_self, rfl, by decide⟩
  refine ⟨hstored, fun halways ↦ ?_⟩
  obtain ⟨s, hrun, data, hdata, hgame, hlength⟩ := hstored
  have hshort : utf16Length "Pokemon Crystal" ≤ 10 :=
    ((halways.of_exec hrun).documents "key-1" data hdata).gameTitle _ hgame
  rw [hlength] at hshort
  exact absurd hshort (by decide)

end OfferForms

end Poketrader
