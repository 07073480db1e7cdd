import Poketrader.Market.Sellers

/-!
# From the draft to the offer

An offer is made on the add-offer form and stored by a call that may take its time. `Demand` is what
one may ask of the forms, as those of the accounts they are used by, so that the documents have it:
a save hands it on, and neither the second write of a save nor an edit takes it away. Whatever the
devices do then, it is enough to look at the inputs that change a form, and at the sign-ups that
give it to another account.
-/

open Document Foundation

namespace Poketrader

namespace Market

open OfferForms (Device Input opened)

/-- What an input makes of the add-offer form. -/
inductive DraftStep (P : Platform) (vc : AddPokemonViewController) :
    Input → AddPokemonViewController → Prop
  /-- Its texts may change. -/
  | texts (input : Input) (form : AddPokemonForm) : DraftStep P vc input { vc with form }
  | sendDataToCadastroVC (nomePokemon : String) (response : AFResponse) :
    DraftStep P vc (.sendDataToCadastroVC nomePokemon response)
      (vc.sendDataToCadastroVC P nomePokemon response)
  | getTelephone (document : Option Fields) :
    DraftStep P vc (.getTelephone document) (vc.getTelephone document)
  | cancelPokemon : DraftStep P vc .cancelPokemon opened

theorem draftStep_of_step {P : Platform} {dev dev' : Device} {input : Input} {writes : List Write}
    (h : dev.step P input = some (dev', writes)) : DraftStep P dev.add input dev'.add := by
  cases input with
  | addPokemon currentUser documentID =>
    have hscreen : (dev.add.addPokemon currentUser documentID).screen
        = { dev.add with form := .empty } := by
      rw [AddPokemonViewController.addPokemon]
      split <;> rfl
    rw [Device.step] at h
    generalize dev.add.addPokemon currentUser documentID = press at h hscreen
    obtain ⟨rfl, -⟩ := Prod.mk.inj (Option.some_inj.mp h)
    dsimp only
    rw [hscreen]
    exact .texts _ _
  | sendDataToCadastroVC nomePokemon response =>
    obtain ⟨rfl, -⟩ := Prod.mk.inj (Option.some_inj.mp h)
    exact .sendDataToCadastroVC nomePokemon response
  | getTelephone document =>
    obtain ⟨rfl, -⟩ := Prod.mk.inj (Option.some_inj.mp h)
    exact .getTelephone document
  | cancelPokemon =>
    obtain ⟨rfl, -⟩ := Prod.mk.inj (Option.some_inj.mp h)
    exact .cancelPokemon
  | edit | editDescription =>
    obtain ⟨form, -, heq⟩ := Option.map_eq_some_iff.mp h
    obtain ⟨rfl, -⟩ := Prod.mk.inj heq
    exact .texts _ form
  | openScreen =>
    obtain ⟨x, -, heq⟩ := Option.map_eq_some_iff.mp h
    obtain ⟨rfl, -⟩ := Prod.mk.inj heq
    exact .texts _ dev.add.form
  | editStat | editObs =>
    obtain ⟨screen, -, h⟩ := Option.bind_eq_some_iff.mp h
    obtain ⟨texts, -, heq⟩ := Option.map_eq_some_iff.mp h
    obtain ⟨rfl, -⟩ := Prod.mk.inj heq
    exact .texts _ dev.add.form
  | pressedEditarButton | pressedExcluirButton =>
    obtain ⟨screen, -, h⟩ := Option.bind_eq_some_iff.mp h
    obtain ⟨write, -, heq⟩ := Option.map_eq_some_iff.mp h
    obtain ⟨rfl, -⟩ := Prod.mk.inj heq
    exact .texts _ dev.add.form

/-- Something asked of the forms and of the documents. -/
structure Demand where
  draft : String → AddPokemonViewController → Prop
  stored : Fields → Prop
  /-- A form as it opens has been given nothing. -/
  opened : ∀ uid, draft uid opened
  save : ∀ {user : AuthUser} {vc : AddPokemonViewController}, draft user.uid vc →
    stored (vc.arguments.data user none)
  identify : ∀ {data : Fields}, stored data → ∀ ref, stored (data.update (idData ref))
  edit : ∀ {data : Fields}, stored data → ∀ texts : OfferTexts, stored (data.update texts.data)

variable {P : Platform} {s t : State} {act : Act} {D : Demand}

/-- The forms meet the demand, and so do the documents, stored and on their way. -/
structure Meets (D : Demand) (s : State) : Prop where
  drafts : ∀ device, D.draft (s.uid device) (s.devices device).add
  writes : ∀ p ∈ s.writes, ∀ documentID userData args,
    p.request = .addDocument documentID userData args → D.stored (args.data userData none)
  anuncio : ∀ (k : String) data, s.anuncio[k]? = some data → D.stored data

/-- What a step does to a form meets the demand. -/
def Admits (D : Demand) (P : Platform) (s : State) : Act → Prop
  | .input device input => ∀ dev writes, (s.devices device).step P input = some (dev, writes) →
      D.draft (s.uid device) dev.add
  | .createUser device user => D.draft user.uid (s.devices device).add
  | .loadOffersForIUD _ | .respond _ | .store _ _ | .reject _ _ | .login _ _ | .commitChanges _ _
  | .buttonLogout _ => True

namespace Meets

theorem start (D : Demand) (P : Platform) : Meets D (machine P).start where
  drafts _ := D.opened _
  writes _ h := absurd h List.not_mem_nil
  anuncio _ data h := absurd h.symm (Option.some_ne_none data)

/-- The backend gets to a call. -/
theorem commit (h : Meets D s) {p : Pending} (hp : p ∈ s.writes) {k : String} {data : Fields}
    (hk : (p.request.write.commit s.anuncio)[k]? = some data) : D.stored data := by
  by_cases hkey : p.request.write.id = k
  · obtain ⟨device, uid, request⟩ := p
    subst hkey
    cases request with
    | addDocument documentID userData args =>
      rw [Request.write, Write.id, Write.getElem?_commit_setData, if_pos rfl] at hk
      rw [← Option.some_inj.mp hk]
      exact h.writes _ hp documentID userData args rfl
    | updateId documentID =>
      rw [Request.write, Write.id, Write.getElem?_commit_updateData, if_pos rfl] at hk
      obtain ⟨old, hold, rfl⟩ := Option.map_eq_some_iff.mp hk
      exact D.identify (h.anuncio _ old hold) _
    | updateOffer id texts =>
      rw [Request.write, Write.id, Write.getElem?_commit_updateData, if_pos rfl] at hk
      obtain ⟨old, hold, rfl⟩ := Option.map_eq_some_iff.mp hk
      exact D.edit (h.anuncio _ old hold) texts
    | deleteOffer id =>
      rw [Request.write, deleteOffer, Write.id, Write.getElem?_commit_delete, if_pos rfl] at hk
      exact absurd hk.symm (Option.some_ne_none data)
  · rw [Write.getElem?_commit_of_ne _ _ hkey] at hk
    exact h.anuncio k data hk

/-- A device has a form that meets the demand, and makes its calls. -/
theorem input (h : Meets D s) {device : ℕ} {input : Input} (hpossible : s.Possible device input)
    {dev : Device} (hdev : D.draft (s.uid device) dev.add) :
    Meets D (s.input device dev (requests (s.devices device) input)) where
  drafts := (Function.forall_update_iff s.devices (p := fun d dev ↦ D.draft (s.uid d) dev.add)).mpr
    ⟨hdev, fun d _ ↦ h.drafts d⟩
  writes p hp documentID userData args heq := by
    rcases List.mem_append.mp hp with hp | hp
    · exact h.writes p hp documentID userData args heq
    · obtain ⟨c, hc, rfl⟩ := List.mem_map.mp hp
      dsimp only at heq
      subst heq
      have hcalls := calls_requests (s.devices device) input
      generalize requests (s.devices device) input = calls at hcalls hc
      cases hcalls with
      | save user id =>
        have huid : s.uid device = user.uid := by
          rw [State.uid, ← hpossible.2.1]
          rfl
        obtain ⟨rfl, rfl, rfl⟩ : documentID = id ∧ userData = user ∧
            args = (s.devices device).add.arguments := by
          simpa using hc
        exact D.save (huid ▸ h.drafts device)
      | editar | excluir => exact absurd (List.mem_singleton.mp hc) (by simp)
      | none => exact absurd hc List.not_mem_nil
  anuncio := h.anuncio

/-- A session begins or ends. -/
theorem restart (h : Meets D s) (device : ℕ) (currentUser : Option AuthUser) :
    Meets D (s.restart device currentUser) where
  drafts := (Function.forall_update_iff s.devices
      (p := fun d dev ↦ D.draft ((s.restart device currentUser).uid d) dev.add)).mpr
    ⟨D.opened _, fun d hd ↦ by
      have huid : (s.restart device currentUser).uid d = s.uid d := s.uid_of_ne hd currentUser
      exact huid ▸ h.drafts d⟩
  writes := h.writes
  anuncio := h.anuncio

/-- **The documents meet the demand** as long as the forms do. -/
theorem step (h : Meets D s) (hadmits : Admits D P s act)
    (hstep : (machine P).step s act = some t) : Meets D t := by
  cases steps_of_step hstep with
  | input device input dev writes hpossible hdev =>
    exact h.input hpossible (hadmits dev writes hdev)
  | loadOffersForIUD => exact ⟨h.drafts, h.writes, h.anuncio⟩
  | respond i device ofertas hanswer =>
    exact ⟨(Function.forall_update_iff s.devices
      (p := fun d dev ↦ D.draft (s.uid d) dev.add)).mpr ⟨h.drafts device, fun d _ ↦ h.drafts d⟩,
      h.writes, h.anuncio⟩
  | store i message p hp =>
    exact ⟨h.drafts, fun q hq ↦ h.writes q (List.mem_of_mem_eraseIdx hq),
      fun k data hk ↦ h.commit (List.mem_of_getElem? hp) hk⟩
  | reject i message p hp =>
    exact ⟨h.drafts, fun q hq ↦ h.writes q (List.mem_of_mem_eraseIdx hq), h.anuncio⟩
  | login device user => exact h.restart device _
  | createUser device user =>
    refine ⟨fun d ↦ ?_, h.writes, h.anuncio⟩
    by_cases hd : d = device
    · subst hd
      simp only [State.uid, Function.update_self]
      exact hadmits
    · rw [s.uid_of_ne hd]
      exact h.drafts d
  | commitChanges device displayName user huser =>
    refine ⟨fun d ↦ ?_, h.writes, h.anuncio⟩
    rw [s.uid_displayName huser]
    exact h.drafts d
  | buttonLogout device user huser => exact h.restart device none

end Meets

end Market

end Poketrader
