import Poketrader.Offers.RoundTrip

/-!
# All or nothing

A press of the save button says at once that the offer was saved, or that fields are missing, and
clears the form in either case. Nothing of what decides about the document comes back to the screen:
not whether a user is signed in, and not what the backend answers to the writes. The other two
operations of the worker show their alert when the answer has come.
-/

open Document

namespace Poketrader

namespace AddPokemonForm

/-- The nine texts, each with the key of the document for it. -/
def entries (form : AddPokemonForm) : List (String × String) :=
  [("game", form.gameTitle), ("nv", form.nv), ("hp", form.hp), ("def", form.defesa),
    ("ata", form.ata), ("vel", form.vel), ("ataSp", form.ataSp), ("defSp", form.defSp),
    ("obs", form.description)]

end AddPokemonForm

namespace Press

/-- The collection once all writes are answered: the `i`-th is carried out if it is accepted. -/
def settle (press : Press) (accepted : ℕ → Bool) (t : Collection) : Collection :=
  press.writes.zipIdx.foldl (fun t (w, i) ↦ if accepted i then w.commit t else t) t

/-- The press stored a document with the texts of the form, said so and cleared the form; or it
stored nothing, said that and left the form alone. -/
def AllOrNothing (press : Press) (form : AddPokemonForm) (documentID : String)
    (accepted : ℕ → Bool) (t : Collection) : Prop :=
  ((∃ data, (press.settle accepted t)[documentID]? = some data ∧
        ∀ e ∈ form.entries, data.string e.1 = some e.2) ∧
      (∃ title subTitle, press.alert = .success title subTitle) ∧ press.screen.form = .empty) ∨
    press.settle accepted t = t ∧
      (∃ title subTitle, press.alert = .error title subTitle) ∧ press.screen.form = form

end Press

namespace AddPokemonViewController

variable {vc : AddPokemonViewController} {documentID : String} {accepted : ℕ → Bool}
  {t : Collection}

/-- The texts of a document that was saved are those of the form exactly if the attack was typed
like the special attack. -/
theorem entries_fields_iff (user : AuthUser) (id : String) :
    (∀ e ∈ vc.form.entries, ((vc.offer user).fields id).string e.1 = some e.2) ↔
      vc.form.ata = vc.form.ataSp := by
  simp [AddPokemonForm.entries, offer, arguments, Offer.ofSave, Offer.fields, eq_comm]

/-- Without a user the worker issues no write. -/
theorem settle_of_none (hvalid : vc.isValid = true) :
    (vc.addPokemon none documentID).settle accepted t = t := by
  rw [Press.settle, addPokemon_writes_of_isValid hvalid]
  rfl

/-- With a user it issues two, the second of which has no effect without the first. -/
theorem settle_of_some (hvalid : vc.isValid = true) (user : AuthUser) :
    (vc.addPokemon (some user) documentID).settle accepted t =
      let created := if accepted 0 then
          (Write.setData documentID (vc.arguments.data user none)).commit t
        else t
      if accepted 1 then (Write.updateData documentID (idData (some documentID))).commit created
      else created := by
  rw [Press.settle, addPokemon_writes_of_isValid hvalid]
  rfl

/-- With the first write accepted, the document is that of the offer. -/
theorem exists_document (hvalid : vc.isValid = true) (user : AuthUser)
    (haccepted : accepted 0 = true) :
    ∃ id, ((vc.addPokemon (some user) documentID).settle accepted t)[documentID]?
      = some ((vc.offer user).fields id) := by
  rw [settle_of_some hvalid, haccepted]
  rcases haccepted' : accepted 1 with - | -
  · refine ⟨"No Id", ?_⟩
    simp only [if_true, Bool.false_eq_true, if_false, Write.getElem?_commit_setData, offer,
      Offer.fields_ofSave, Option.getD_none]
  · refine ⟨documentID, ?_⟩
    simp only [if_true, Write.commit_updateData_commit_setData, Write.getElem?_commit_setData,
      offer, Offer.fields_ofSave, Offer.update_idData, Option.getD_some]

/-- With the first write rejected there is none. -/
theorem document_eq_none (hvalid : vc.isValid = true) (hfresh : t[documentID]? = none)
    (user : AuthUser) (haccepted : accepted 0 = false) :
    ((vc.addPokemon (some user) documentID).settle accepted t)[documentID]? = none := by
  rw [settle_of_some hvalid, haccepted]
  rcases haccepted' : accepted 1 with - | -
  · simpa using hfresh
  · simp [Write.getElem?_commit_updateData, hfresh]

/-- A press on a form that fails the check issues nothing. -/
theorem settle_of_not_isValid (hvalid : vc.isValid ≠ true) (currentUser : Option AuthUser) :
    (vc.addPokemon currentUser documentID).settle accepted t = t := by
  rw [Press.settle, addPokemon, if_neg hvalid]
  rfl

/-- The form is cleared, whatever is in it. -/
theorem addPokemon_form (currentUser : Option AuthUser) :
    (vc.addPokemon currentUser documentID).screen.form = .empty := by
  rw [addPokemon]
  split <;> rfl

/-- The alert says what the check said. -/
theorem addPokemon_alert (currentUser : Option AuthUser) :
    (vc.addPokemon currentUser documentID).alert =
      if vc.isValid = true then .success "Confirmação" "Pokémon adicionado com sucesso!"
      else .error "Alerta" "Preencha todos os campos!" := by
  rw [addPokemon]
  split <;> rfl

/-- An empty form fails the check. -/
theorem not_isValid_of_empty (h : vc.form = .empty) : vc.isValid ≠ true := by
  rw [isValid, h]
  decide

/-- A form that passes the check is never an error, so all or nothing is all. -/
theorem exists_stored_of_allOrNothing (hvalid : vc.isValid = true) {currentUser : Option AuthUser}
    (h : (vc.addPokemon currentUser documentID).AllOrNothing vc.form documentID accepted t) :
    ∃ data, ((vc.addPokemon currentUser documentID).settle accepted t)[documentID]? = some data ∧
      ∀ e ∈ vc.form.entries, data.string e.1 = some e.2 := by
  rw [Press.AllOrNothing, addPokemon_alert, if_pos hvalid] at h
  rcases h with ⟨hstored, -⟩ | ⟨-, ⟨_, _, halert⟩, -⟩
  · exact hstored
  · exact absurd halert (by simp)

/-- A form that fails it is never a success, and keeps its texts only if there are none. -/
theorem eq_empty_of_allOrNothing (hvalid : vc.isValid ≠ true) {currentUser : Option AuthUser}
    (h : (vc.addPokemon currentUser documentID).AllOrNothing vc.form documentID accepted t) :
    vc.form = .empty := by
  rw [Press.AllOrNothing, addPokemon_alert, if_neg hvalid, addPokemon_form] at h
  rcases h with ⟨-, ⟨_, _, halert⟩, -⟩ | ⟨-, -, hform⟩
  · exact absurd halert (by simp)
  · exact hform.symm

/-- **A save is all or nothing** exactly if the form passes the check, a user is signed in, the
first write is accepted and the attack was typed like the special attack; or if there was nothing on
the form to lose. -/
theorem allOrNothing_iff (vc : AddPokemonViewController) (currentUser : Option AuthUser)
    (accepted : ℕ → Bool) {documentID : String} {t : Collection}
    (hfresh : t[documentID]? = none) :
    (vc.addPokemon currentUser documentID).AllOrNothing vc.form documentID accepted t ↔
      (vc.isValid = true ∧ currentUser.isSome = true ∧ accepted 0 = true ∧
        vc.form.ata = vc.form.ataSp) ∨ vc.form = .empty := by
  constructor
  · intro h
    by_cases hvalid : vc.isValid = true
    · refine .inl ⟨hvalid, ?_⟩
      obtain ⟨data, hdata, hentries⟩ := exists_stored_of_allOrNothing hvalid h
      rcases currentUser with - | user
      · rw [settle_of_none hvalid, hfresh] at hdata
        exact absurd hdata.symm (Option.some_ne_none data)
      · rcases haccepted : accepted 0 with - | -
        · rw [document_eq_none hvalid hfresh user haccepted] at hdata
          exact absurd hdata.symm (Option.some_ne_none data)
        · obtain ⟨id, hid⟩ := exists_document (t := t) hvalid user haccepted
          obtain rfl := Option.some_inj.mp (hid.symm.trans hdata)
          exact ⟨rfl, rfl, (entries_fields_iff user id).mp hentries⟩
    · exact .inr (eq_empty_of_allOrNothing hvalid h)
  · rw [Press.AllOrNothing, addPokemon_form, addPokemon_alert]
    rintro (⟨hvalid, huser, haccepted, hata⟩ | hempty)
    · obtain ⟨user, rfl⟩ := Option.isSome_iff_exists.mp huser
      obtain ⟨id, hid⟩ := exists_document (t := t) hvalid user haccepted
      refine .inl ⟨⟨_, hid, (entries_fields_iff user id).mpr hata⟩, ?_, rfl⟩
      exact ⟨_, _, if_pos hvalid⟩
    · have hvalid := not_isValid_of_empty hempty
      exact .inr ⟨settle_of_not_isValid hvalid currentUser, ⟨_, _, if_neg hvalid⟩, hempty.symm⟩

/-- `sampleScreen` with the attack typed like the special attack. -/
def evenScreen : AddPokemonViewController :=
  { sampleScreen with form := { sampleScreen.form with ata := sampleScreen.form.ataSp } }

theorem allOrNothing_iff_evenScreen :
    (evenScreen.addPokemon (some sampleUser) "key-1").AllOrNothing evenScreen.form "key-1"
      (fun i ↦ i = 0) ∅ :=
  (allOrNothing_iff evenScreen (some sampleUser) (fun i ↦ i = 0) Std.ExtTreeMap.getElem?_empty).mpr
    (.inl ⟨by decide, rfl, rfl, rfl⟩)

/-- `evenScreen` with a blank title. -/
def untitledScreen : AddPokemonViewController :=
  { evenScreen with form := { evenScreen.form with gameTitle := "" } }

/-- The save of a full form announces success where there is no user to save for, and where the
backend rejects it. A blank title is announced, and costs the eight other texts. -/
theorem not_allOrNothing_evenScreen :
    ¬(evenScreen.addPokemon none "key-1").AllOrNothing evenScreen.form "key-1" (fun _ ↦ true) ∅ ∧
    ¬(evenScreen.addPokemon (some sampleUser) "key-1").AllOrNothing evenScreen.form "key-1"
      (fun _ ↦ false) ∅ ∧
    ¬(untitledScreen.addPokemon (some sampleUser) "key-1").AllOrNothing untitledScreen.form "key-1"
      (fun _ ↦ true) ∅ := by
  have hvalid : evenScreen.isValid = true := by decide
  have hfresh : (∅ : Collection)["key-1"]? = none := Std.ExtTreeMap.getElem?_empty
  refine ⟨fun h ↦ ?_, fun h ↦ ?_, fun h ↦ ?_⟩
  · obtain ⟨data, hdata, -⟩ := exists_stored_of_allOrNothing hvalid h
    rw [settle_of_none hvalid, hfresh] at hdata
    exact absurd hdata.symm (Option.some_ne_none data)
  · obtain ⟨data, hdata, -⟩ := exists_stored_of_allOrNothing hvalid h
    rw [document_eq_none hvalid hfresh sampleUser rfl] at hdata
    exact absurd hdata.symm (Option.some_ne_none data)
  · exact absurd (eq_empty_of_allOrNothing (by decide) h) (by decide)

end AddPokemonViewController

end Poketrader
