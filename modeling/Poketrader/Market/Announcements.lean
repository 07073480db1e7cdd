import Poketrader.Market.Safety
import Poketrader.Offers.Edit

/-!
# What the market announces

A press of Editar or Excluir is answered by one alert, which may come late and in the middle of
others. The alerts can be relied on: the texts of an offer are those of the last edit announced, and
an offer whose deletion has been announced is gone for good.
-/

open Document Foundation

namespace Poketrader

namespace Market

open OfferForms (Device Input EditScreen)
open Registry (Phase)

variable {P : Platform} {acts bs : List Act} {s t : State} {m : String → Standing}
  {R : String → String → Prop} {k : String} {data : Fields}

/-- The alerts of a step. -/
def announcements (s : State) : Act → List (Pending × Alert)
  | .store i message => (s.writes[i]?).elim [] fun p ↦
      p.announced (if (p.request.write.apply s.anuncio).isSome then none else some message)
  | .reject i message => (s.writes[i]?).elim [] fun p ↦ p.announced (some message)
  | .input _ _ | .loadOffersForIUD _ | .respond _ | .login _ _ | .createUser _ _
  | .commitChanges _ _ | .buttonLogout _ => []

theorem alerts_of_step {act : Act} (hstep : (machine P).step s act = some t) :
    t.alerts = s.alerts ++ announcements s act := by
  cases steps_of_step hstep with
  | store i message p hp =>
    rw [announcements, hp]
    rfl
  | reject i message p hp =>
    rw [announcements, hp]
    rfl
  | input | loadOffersForIUD | respond | login | createUser | commitChanges | buttonLogout =>
    exact (List.append_nil _).symm

theorem alerts_of_exec (hexec : (machine P).exec s acts = some t) :
    t.alerts = s.alerts ++ (machine P).trace announcements s acts :=
  Machine.eq_append_trace_of_exec (fun _ _ _ hstep ↦ alerts_of_step hstep) hexec

/-! ## One alert for every press -/

/-- A call whose answer is announced. -/
def Pending.isAnnounced (p : Pending) : Bool :=
  match p.request with
  | .addDocument _ _ _ | .updateId _ => false
  | .updateOffer _ _ | .deleteOffer _ => true

/-- The calls of a step whose answers are to be announced. -/
def pressed (s : State) : Act → List Pending
  | .input device input =>
    ((requests (s.devices device) input).map (Pending.mk device (s.uid device))).filter
      Pending.isAnnounced
  | .loadOffersForIUD _ | .respond _ | .store _ _ | .reject _ _ | .login _ _ | .createUser _ _
  | .commitChanges _ _ | .buttonLogout _ => []

/-- What has been announced, and what is still to be. -/
def State.accounted (s : State) : List Pending :=
  s.alerts.map Prod.fst ++ s.writes.filter Pending.isAnnounced

theorem map_fst_announced (p : Pending) (err : Option String) :
    (p.announced err).map Prod.fst = [p].filter Pending.isAnnounced := by
  obtain ⟨device, uid, request⟩ := p
  cases request with
  | addDocument | updateId => rfl
  | updateOffer | deleteOffer => rcases err with - | err <;> rfl

/-- An answered call goes from those on their way to those announced. -/
theorem accounted_answered {i : ℕ} {p : Pending} (hp : s.writes[i]? = some p)
    (err : Option String) : (s.answered i p err).accounted.Perm s.accounted := by
  obtain ⟨hi, hget⟩ := List.getElem?_eq_some_iff.mp hp
  have hperm : (p :: s.writes.eraseIdx i).Perm s.writes :=
    hget ▸ List.getElem_cons_eraseIdx_perm hi
  have hfilter : ([p].filter Pending.isAnnounced ++
      (s.writes.eraseIdx i).filter Pending.isAnnounced).Perm
      (s.writes.filter Pending.isAnnounced) := by
    rw [← List.filter_append]
    exact hperm.filter _
  simp only [State.accounted, State.answered, List.map_append, map_fst_announced,
    List.append_assoc]
  exact hfilter.append_left _

theorem accounted_of_step {act : Act} (hstep : (machine P).step s act = some t) :
    t.accounted.Perm (s.accounted ++ pressed s act) := by
  cases steps_of_step hstep with
  | input device input dev writes hpossible hdev =>
    simp only [State.accounted, State.input, pressed, List.filter_append, List.append_assoc]
    exact List.Perm.refl _
  | store i message p hp =>
    rw [pressed, List.append_nil]
    exact accounted_answered hp _
  | reject i message p hp =>
    rw [pressed, List.append_nil]
    exact accounted_answered hp _
  | loadOffersForIUD | respond | login | createUser | commitChanges | buttonLogout =>
    rw [pressed, List.append_nil]
    exact List.Perm.refl _

/-- **One alert for every press.** The calls announced so far and those still to be are, each as
often as it was made, the calls of the presses of Editar and Excluir: none is announced twice, none
is forgotten, and nothing else is announced. -/
theorem accounted_of_run (hrun : (machine P).run acts = some s) :
    (s.alerts.map Prod.fst ++ s.writes.filter Pending.isAnnounced).Perm
      ((machine P).trace pressed (machine P).start acts) :=
  Machine.perm_of_exec (g := State.accounted) (fun _ _ _ hstep ↦ accounted_of_step hstep) hrun

theorem accounted_editingActs :
    ((sampleState (publishedActs ++ editingActs)).alerts.map Prod.fst ++
        (sampleState (publishedActs ++ editingActs)).writes.filter Pending.isAnnounced).Perm
      ((machine .scalarwise).trace pressed (machine .scalarwise).start
        (publishedActs ++ editingActs)) :=
  accounted_of_run run_editingActs

/-! ## The last edit that was announced -/

/-- The texts of an edit of `k` that is announced as done. -/
def announcedEdit (k : String) : Pending × Alert → Option OfferTexts
  | (⟨_, _, .updateOffer id texts⟩, .success _ _) => if id = k then some texts else none
  | _ => none

/-- The edits of `k` announced as done, in order. -/
def announcedEdits (k : String) (alerts : List (Pending × Alert)) : List OfferTexts :=
  alerts.filterMap (announcedEdit k)

def Amendment.edited : Amendment → Option OfferTexts
  | .identify => none
  | .edit texts => some texts

/-- After some amendments an offer has the texts of the last edit among them. -/
theorem texts_foldl (amendments : List Amendment) (c : Content) :
    (amendments.foldl Content.amended c).texts
      = ((amendments.filterMap Amendment.edited).getLast?).getD c.texts := by
  induction amendments generalizing c with
  | nil => rfl
  | cons a amendments ih =>
    rw [List.foldl_cons, ih]
    rcases a with - | texts
    · rfl
    · have hcons : (Amendment.edit texts :: amendments).filterMap Amendment.edited
          = texts :: amendments.filterMap Amendment.edited := rfl
      rw [hcons, List.getLast?_cons, Option.getD_some]
      rfl

theorem isSome_apply_updateData (id : String) (new : Fields) (t : Collection) :
    ((Write.updateData id new).apply t).isSome = true ↔ id ∈ t := by
  rw [Write.apply, Option.isSome_map, Std.ExtTreeMap.mem_iff_isSome_getElem?]

/-- A call that is not of an edit announces none, and a rejected edit none either. -/
theorem filterMap_announcedEdit_eq_nil (k : String) {p : Pending} {err : Option String}
    (h : (∃ id texts, p.request = .updateOffer id texts) → err ≠ none) :
    (p.announced err).filterMap (announcedEdit k) = [] := by
  obtain ⟨device, uid, request⟩ := p
  cases request with
  | addDocument | updateId => rfl
  | updateOffer id texts =>
    rcases err with - | message
    · exact absurd rfl (h ⟨id, texts, rfl⟩)
    · rfl
  | deleteOffer => rcases err with - | message <;> rfl

/-- The amendments of `k` in what one call is traced to. -/
theorem amendments_deeds (k : String) (t : Collection) (request : Request) :
    (Registry.amendments k (request.deeds t)).filterMap Amendment.edited
      = match request with
        | .updateOffer id texts => if id = k ∧ id ∈ t then [texts] else []
        | _ => [] := by
  cases request with
  | addDocument => rfl
  | updateId documentID =>
    rw [Request.deeds]
    rcases t[documentID]? with - | data
    · rfl
    · by_cases hk : documentID = k
      · simp [Registry.amendments, Amendment.edited, hk]
      · simp [Registry.amendments, hk]
  | updateOffer id texts =>
    rw [Request.deeds]
    simp only [Std.ExtTreeMap.mem_iff_isSome_getElem?]
    rcases t[id]? with - | data
    · simp [Registry.amendments]
    · by_cases hk : id = k
      · simp [Registry.amendments, Amendment.edited, hk]
      · simp [Registry.amendments, hk]
  | deleteOffer id =>
    rw [Request.deeds]
    rcases t[id]? with - | data <;> rfl

/-- At each step, the edits announced are the edits made. -/
theorem announcedEdits_announcements (k : String) (s : State) (act : Act) :
    (announcements s act).filterMap (announcedEdit k)
      = (Registry.amendments k (deeds s act)).filterMap Amendment.edited := by
  cases act with
  | input device input =>
    have hnone : Registry.amendments k (deeds s (.input device input)) = [] := by
      refine Registry.amendments_eq_nil fun who a hmem ↦ ?_
      obtain ⟨j, -, heq⟩ := List.mem_map.mp hmem
      exact absurd heq (by simp)
    rw [hnone]
    rfl
  | store i message =>
    rw [announcements, deeds]
    rcases s.writes[i]? with - | ⟨device, uid, request⟩
    · rfl
    · rw [Option.elim_some, Option.elim_some, amendments_deeds]
      cases request with
      | addDocument | updateId | deleteOffer =>
        refine filterMap_announcedEdit_eq_nil k ?_
        rintro ⟨id, texts, h⟩
        exact absurd h (by simp)
      | updateOffer id texts =>
        dsimp only [Request.write]
        simp only [isSome_apply_updateData]
        by_cases hmem : id ∈ s.anuncio
        · rw [if_pos hmem]
          by_cases hk : id = k
          · subst hk
            simp [Pending.announced, Request.completion, announcedEdit, hmem]
          · simp [Pending.announced, Request.completion, announcedEdit, hk]
        · rw [if_neg hmem, if_neg fun h ↦ hmem h.2]
          exact filterMap_announcedEdit_eq_nil k fun _ ↦ Option.some_ne_none message
  | reject i message =>
    rw [announcements, deeds]
    rcases s.writes[i]? with - | p
    · rfl
    · exact filterMap_announcedEdit_eq_nil k fun _ ↦ Option.some_ne_none message
  | loadOffersForIUD | respond | login | createUser | commitChanges | buttonLogout => rfl

/-- So are they along a run. -/
theorem announcedEdits_of_run (hrun : (machine P).run acts = some s) (k : String) :
    announcedEdits k s.alerts
      = (Registry.amendments k ((machine P).trace deeds (machine P).start acts)).filterMap
          Amendment.edited := by
  have halerts : s.alerts = (machine P).trace announcements (machine P).start acts :=
    alerts_of_exec hrun
  rw [halerts, announcedEdits, Registry.amendments, Machine.filterMap_trace,
    Machine.filterMap_trace, Machine.filterMap_trace]
  exact Machine.trace_congr (announcedEdits_announcements k) _ _

/-- Every stored offer was published by its seller, and its document has the texts of the last edit
of it that has been announced as done, or those of the publication. -/
theorem exists_fields_of_stored (hrun : (machine P).run acts = some s)
    (hk : s.anuncio[k]? = some data) :
    ∃ who o id, .publish who k o ∈ (machine P).trace deeds (machine P).start acts ∧
      data
        = (o.withTexts ((announcedEdits k s.alerts).getLast?.getD o.toOfferTexts)).fields id := by
  obtain ⟨m, hm, h⟩ := represents_of_run hrun
  obtain ⟨o, c, hlive, hfields⟩ := h.live hk
  have hpub : (m k).Published (seller data) o := by
    rw [hlive]
    exact ⟨rfl, rfl⟩
  have hmem := (Registry.publish_mem_of_exec hm hpub).resolve_left id
  have hcontent := Registry.content_of_exec_of_unpublished hm (fun _ _ ↦ id) hlive
  have htexts : c.texts = (announcedEdits k s.alerts).getLast?.getD o.toOfferTexts := by
    rw [announcedEdits_of_run hrun, hcontent]
    exact texts_foldl _ _
  exact ⟨_, o, _, hmem, htexts ▸ hfields⟩

/-- The key whose deletion is announced as done. -/
def announcedDeletion : Pending × Alert → Option String
  | (⟨_, _, .deleteOffer id⟩, .success _ _) => some id
  | _ => none

/-- What has been announced as deleted is gone, or never was. -/
def Deleted (m : String → Standing) (k : String) : Prop :=
  k = "No Id" ∨ ∃ who o, m k = .gone who o

theorem Deleted.mono {m' : String → Standing} (hle : m ≤ m') (h : Deleted m k) : Deleted m' k :=
  h.imp_right fun ⟨who, o, hk⟩ ↦ ⟨who, o, Phase.gone_le (hk ▸ hle k)⟩

theorem Represents.deleted (h : Represents R m s) (hk : Deleted m k) : s.anuncio[k]? = none := by
  rcases hk with rfl | ⟨who, o, hgone⟩
  · refine Option.eq_none_iff_forall_ne_some.mpr fun data hdata ↦ ?_
    obtain ⟨o, c, hlive, -⟩ := h.live hdata
    exact h.ne_noId (by rw [hlive]; simp) rfl
  · rw [h.anuncio, hgone]
    rfl

/-- What was published and is not stored has been withdrawn. -/
theorem Represents.gone_of_none (h : Represents R m s) {who : String} {o : Offer}
    (hpub : (m k).Published who o) (hnone : s.anuncio[k]? = none) : m k = .gone who o := by
  rw [h.anuncio] at hnone
  generalize m k = p at hpub hnone
  rcases p with - | u | ⟨u, o', c⟩ | ⟨u, o'⟩
  · exact hpub.elim
  · exact hpub.elim
  · exact absurd hnone (Option.some_ne_none _)
  · obtain ⟨rfl, rfl⟩ := hpub
    rfl

theorem request_of_announcedDeletion {p : Pending} {err : Option String} {e : Pending × Alert}
    (he : e ∈ p.announced err) (hk : announcedDeletion e = some k) :
    p.request = .deleteOffer k ∧ err = none := by
  obtain ⟨device, uid, request⟩ := p
  cases request with
  | addDocument | updateId => exact absurd he List.not_mem_nil
  | updateOffer id texts =>
    rcases err with - | message <;>
    · rw [List.mem_singleton.mp he] at hk
      exact absurd hk.symm (Option.some_ne_none k)
  | deleteOffer id =>
    rcases err with - | message
    · rw [List.mem_singleton.mp he] at hk
      exact ⟨congrArg _ (Option.some_inj.mp hk), rfl⟩
    · rw [List.mem_singleton.mp he] at hk
      exact absurd hk.symm (Option.some_ne_none k)

/-- What a step announces as deleted is gone after it. -/
theorem Represents.deleted_of_announced {m' : String → Standing} {act : Act} (h : Represents R m s)
    (hle : m ≤ m') (h' : Represents R m' t) (hstep : (machine P).step s act = some t)
    {e : Pending × Alert} (he : e ∈ announcements s act) (hk : announcedDeletion e = some k) :
    Deleted m' k := by
  cases steps_of_step hstep with
  | store i message p hp =>
    rw [announcements, hp, Option.elim_some] at he
    obtain ⟨hrequest, -⟩ := request_of_announcedDeletion he hk
    have hpermitted := h.writes p (List.mem_of_getElem? hp)
    rw [Permitted, hrequest] at hpermitted
    refine Or.imp_right (fun ⟨u, o, _, hpub⟩ ↦ ⟨u, o, ?_⟩) hpermitted
    refine h'.gone_of_none (hpub.mono (hle k)) ?_
    change (p.request.write.commit s.anuncio)[k]? = none
    rw [hrequest]
    exact (Write.getElem?_commit_delete ..).trans (if_pos rfl)
  | reject i message p hp =>
    rw [announcements, hp, Option.elim_some] at he
    exact absurd (request_of_announcedDeletion he hk).2 (Option.some_ne_none message)
  | input | loadOffersForIUD | respond | login | createUser | commitChanges | buttonLogout =>
    exact absurd he List.not_mem_nil

/-- The registry agrees with what has been announced. -/
def Kept (s : State) : Prop :=
  ∃ m, Represents anybody m s ∧ ∀ e ∈ s.alerts, ∀ k, announcedDeletion e = some k → Deleted m k

theorem kept_of_run (hrun : (machine P).run acts = some s) : Kept s := by
  refine Machine.invariant (fun s act t hs hstep ↦ ?_)
    ⟨_, .start P, fun _ he ↦ absurd he List.not_mem_nil⟩ hrun
  obtain ⟨m, h, hdeleted⟩ := hs
  obtain ⟨m', hm', h'⟩ := h.step (fun _ ↦ trivial) (.inr fun _ _ ↦ trivial) hstep
  have hle : m ≤ m' := Registry.le_of_exec hm'
  refine ⟨m', h', fun e he k hk ↦ ?_⟩
  rw [alerts_of_step hstep, List.mem_append] at he
  rcases he with he | he
  · exact (hdeleted e he k hk).mono hle
  · exact h.deleted_of_announced hle h' hstep he hk

/-- The deletion of a stored offer has not been announced. -/
theorem announcedDeletion_ne_of_stored (hrun : (machine P).run acts = some s)
    (hk : s.anuncio[k]? = some data) : ∀ e ∈ s.alerts, announcedDeletion e ≠ some k := by
  intro e he hdeletion
  obtain ⟨m, h, hdeleted⟩ := kept_of_run hrun
  exact absurd (hk.symm.trans (h.deleted (hdeleted e he k hdeletion))) (Option.some_ne_none data)

/-- **An announced deletion is final.** Once an alert has said that an offer was deleted, no
document is stored under the key it was deleted under, then or at any later time. -/
theorem absent_of_announcedDeletion (hrun : (machine P).run acts = some s) {e : Pending × Alert}
    (he : e ∈ s.alerts) (hk : announcedDeletion e = some k)
    (hexec : (machine P).exec s bs = some t) : t.anuncio[k]? = none := by
  have hrun' : (machine P).run (acts ++ bs) = some t :=
    Machine.run_append hrun hexec
  have he' : e ∈ t.alerts := by
    rw [alerts_of_exec hexec]
    exact List.mem_append_left _ he
  exact Option.eq_none_iff_forall_ne_some.mpr fun data hdata ↦
    announcedDeletion_ne_of_stored hrun' hdata e he' hk

theorem absent_deletingActs :
    (sampleState (publishedActs ++ editingActs ++ deletingActs)).anuncio["key-key-key-key-key1"]?
      = none :=
  absent_of_announcedDeletion run_deletingActs
    (List.mem_cons_of_mem _ List.mem_cons_self) rfl (Machine.exec_nil _)

end Market

end Poketrader
