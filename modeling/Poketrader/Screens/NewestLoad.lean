import Mathlib.Data.List.Perm.Basic
import Poketrader.Offers.Store
import Poketrader.Views.OffersTable

/-!
# Overlapping loads

Two loads are under way whenever one of the offer lists opens, and nothing tells their answers
apart: each one that succeeds replaces the list. So the list is what the latest arrival brought,
whichever load that answered. Every load issued is answered once at most, and in the end once.

The runs below are those of the screens, with the arrivals recorded beside the screen.
-/

open Document

namespace Poketrader

namespace OffersTable

/-- A screen of offers and the answers it has had. -/
structure Recorded where
  table : OffersTable
  /-- The answers with the loads they belong to, the latest first. -/
  arrived : List (ℕ × QueryAnswer)

section

variable (answered : Option Ofertas → QueryAnswer → Option (Option Ofertas × Bool))

/-- The arrivals after an action. -/
def Recorded.record (s : Recorded) : Act → List (ℕ × QueryAnswer)
  | .respond i answer => (s.table.unanswered[i]?.toList.map fun load ↦ (load, answer)) ++ s.arrived
  | _ => s.arrived

/-- The screen with its arrivals. -/
def recorded : Machine Recorded Act where
  start := ⟨viewDidLoad, []⟩
  step s a := (step answered s.table a).map fun table ↦ ⟨table, s.record a⟩

variable {answered}

/-- Recording changes nothing of the screen. -/
theorem run_recorded (acts : List Act) :
    (machine answered).run acts = ((recorded answered).run acts).map Recorded.table := by
  refine Machine.exec_map (f := Recorded.table) (fun s a ↦ ?_) acts (recorded answered).start
  simp only [recorded, machine, Option.map_map]
  exact Option.map_id'.symm

/-- What a successful answer makes of the list. -/
def broughtBy (decode : Fields → Option OfertaElement) (answer : QueryAnswer) : Ofertas where
  ofertas := some ((answer.documents.getD []).filterMap fun doc ↦ decode doc.2)

/-- The list is what the latest successful arrival brought, and every load issued has either arrived
or is waited for. -/
structure Arrivals (decode : Fields → Option OfertaElement) (s : Recorded) : Prop where
  loads : (s.arrived.map Prod.fst ++ s.table.unanswered).Perm (List.range s.table.issued)
  ofertas : s.table.ofertas
    = (s.arrived.find? fun p ↦ p.2.err.isNone).map fun p ↦ broughtBy decode p.2

variable {decode : Fields → Option OfertaElement}

theorem arrivals_start : Arrivals decode (recorded answered).start where
  loads := List.Perm.refl _
  ofertas := rfl

/-- An arrival takes its load from those waited for. -/
theorem perm_respond {loads unanswered : List ℕ} {i : ℕ} (hi : i < unanswered.length) :
    ((unanswered[i]?.toList ++ loads) ++ unanswered.eraseIdx i).Perm (loads ++ unanswered) := by
  rw [List.getElem?_eq_getElem hi, Option.toList_some, List.append_assoc]
  exact List.perm_append_comm_assoc _ _ _ |>.trans
    ((List.getElem_cons_eraseIdx_perm hi).append_left loads)

theorem Arrivals.step (h : Replaces decode answered) {s t : Recorded} {a : Act}
    (hs : Arrivals decode s) (hstep : (recorded answered).step s a = some t) :
    Arrivals decode t := by
  obtain ⟨table, htable, rfl⟩ := Option.map_eq_some_iff.mp hstep
  have hsteps : Steps answered s.table a table := steps_of_step htable
  cases hsteps with
  | viewDidAppear =>
    refine ⟨?_, hs.ofertas⟩
    simp only [load, Recorded.record, ← List.append_assoc, List.range_succ]
    exact hs.loads.append_right _
  | respond i answer after hi hafter =>
    constructor
    · simp only [Recorded.record, List.map_append, List.map_map]
      rw [show (Prod.fst ∘ fun load ↦ (load, answer)) = id from rfl, List.map_id]
      exact (perm_respond hi).trans hs.loads
    · rw [h] at hafter
      simp only [Recorded.record, List.getElem?_eq_getElem hi, Option.toList_some, List.map_cons,
        List.map_nil, List.singleton_append]
      by_cases herr : answer.err = none
      · rw [if_pos herr, Option.some_inj] at hafter
        rw [List.find?_cons_of_pos (by simp [herr]), ← hafter, Option.map_some, broughtBy,
          appendDecoded_eq]
      · rw [if_neg herr, Option.some_inj] at hafter
        rw [List.find?_cons_of_neg (by simpa using herr), ← hafter]
        exact hs.ofertas
  | runMain _ => exact ⟨hs.loads, hs.ofertas⟩
  | cellForRow _ _ => exact ⟨hs.loads, hs.ofertas⟩
  | didSelectRow _ _ => exact ⟨hs.loads, hs.ofertas⟩

theorem arrivals_of_run (h : Replaces decode answered) {acts : List Act} {s : Recorded}
    (hrun : (recorded answered).run acts = some s) : Arrivals decode s :=
  Machine.invariant (fun _ _ _ hs hstep ↦ hs.step h hstep) arrivals_start hrun

/-- Every load issued has been answered, and successfully. -/
structure AllAnswered (s : Recorded) : Prop where
  unanswered : s.table.unanswered = []
  success : ∀ p ∈ s.arrived, p.2.err = none

/-- The loads issued have arrived once each, and the list is the answer that arrived last. -/
def LastArrivalWins (decode : Fields → Option OfertaElement) (s : Recorded) : Prop :=
  (s.arrived.map Prod.fst).Perm (List.range s.table.issued) ∧
    ∃ load answer, s.arrived.head? = some (load, answer) ∧ load < s.table.issued ∧
      s.table.ofertas = some (broughtBy decode answer)

theorem issued_pos {acts : List Act} {s : OffersTable}
    (hrun : (machine answered).run acts = some s) : 0 < s.issued := by
  refine Machine.invariant (I := fun s ↦ 0 < s.issued) (fun s a t hs hstep ↦ ?_)
    (Nat.zero_lt_one) hrun
  cases steps_of_step hstep with
  | viewDidAppear => exact Nat.succ_pos s.issued
  | respond _ _ _ _ _ => exact hs
  | runMain _ => exact hs
  | cellForRow _ _ => exact hs
  | didSelectRow _ _ => exact hs

theorem lastArrivalWins_of_run (h : Replaces decode answered) {acts : List Act} {s : Recorded}
    (hrun : (recorded answered).run acts = some s) (hall : AllAnswered s) :
    LastArrivalWins decode s := by
  have harrivals := arrivals_of_run h hrun
  have hloads := harrivals.loads
  rw [hall.unanswered, List.append_nil] at hloads
  refine ⟨hloads, ?_⟩
  have htable : (machine answered).run acts = some s.table := by
    rw [run_recorded, hrun, Option.map_some]
  have hpos : 0 < s.table.issued := issued_pos htable
  cases harrived : s.arrived with
  | nil =>
    rw [harrived] at hloads
    have hlength := hloads.length_eq
    rw [List.map_nil, List.length_nil, List.length_range] at hlength
    omega
  | cons p earlier =>
    refine ⟨p.1, p.2, rfl, ?_, ?_⟩
    · have hmem : p.1 ∈ s.arrived.map Prod.fst := by simp [harrived]
      exact List.mem_range.mp (hloads.mem_iff.mp hmem)
    · have hsuccess : p.2.err = none := hall.success p (by simp [harrived])
      rw [harrivals.ofertas, harrived, List.find?_cons_of_pos (by simp [hsuccess]), Option.map_some]

end

/-- **The last arrival wins.** On both screens, once every load issued has been answered
successfully, each of them has arrived once and the list is the answer that arrived last. -/
theorem last_arrival_wins (currentUser : Option AuthUser) (acts : List Act) :
    (∀ s, (recorded FeedViewController.answered).run acts = some s → AllAnswered s →
      LastArrivalWins decodeOffer s) ∧
    ∀ s, (recorded (OfertasUsuarioViewController.answered currentUser)).run acts = some s →
      AllAnswered s → LastArrivalWins (decodeOwnOffer currentUser) s :=
  ⟨fun _ hrun hall ↦ lastArrivalWins_of_run replaces_feed hrun hall,
    fun _ hrun hall ↦ lastArrivalWins_of_run (replaces_ofertasUsuario currentUser) hrun hall⟩

/-- The collection has one offer at the first query and none at the second, and the answers arrive
in the other order. -/
def overtakingActs : List Act :=
  [.viewDidAppear, .respond 1 (.ofDocuments []),
    .respond 0 (.ofDocuments
      [("key-1", (Offer.ofSave sampleUser sampleArguments).fields "key-1")])]

theorem last_arrival_wins_overtakingActs :
    (∃ s, (recorded FeedViewController.answered).run overtakingActs = some s ∧
      LastArrivalWins decodeOffer s) ∧
    ∃ s, (recorded (OfertasUsuarioViewController.answered (some sampleUser))).run overtakingActs
      = some s ∧ LastArrivalWins (decodeOwnOffer (some sampleUser)) s := by
  obtain ⟨hfeed, hown⟩ := last_arrival_wins (some sampleUser) overtakingActs
  have hrun : (recorded FeedViewController.answered).run overtakingActs
      = some (((recorded FeedViewController.answered).run overtakingActs).getD
        ⟨viewDidLoad, []⟩) := by rfl
  have hownrun : (recorded (OfertasUsuarioViewController.answered (some sampleUser))).run
      overtakingActs
      = some (((recorded (OfertasUsuarioViewController.answered (some sampleUser))).run
        overtakingActs).getD ⟨viewDidLoad, []⟩) := by rfl
  exact ⟨⟨_, hrun, hfeed _ hrun ⟨by rfl, by decide⟩⟩,
    ⟨_, hownrun, hown _ hownrun ⟨by rfl, by decide⟩⟩⟩

/-- In the end the newest load has brought no offers, and each screen shows one. -/
theorem overtakingActs_newest_loses :
    (∃ s, (recorded FeedViewController.answered).run overtakingActs = some s ∧ AllAnswered s ∧
      ∃ answer, (s.table.issued - 1, answer) ∈ s.arrived ∧
        s.table.ofertas ≠ some (broughtBy decodeOffer answer)) ∧
    ∃ s, (recorded (OfertasUsuarioViewController.answered (some sampleUser))).run overtakingActs
        = some s ∧ AllAnswered s ∧
      ∃ answer, (s.table.issued - 1, answer) ∈ s.arrived ∧
        s.table.ofertas ≠ some (broughtBy (decodeOwnOffer (some sampleUser)) answer) :=
  ⟨⟨((recorded FeedViewController.answered).run overtakingActs).getD ⟨viewDidLoad, []⟩, by rfl,
      ⟨by rfl, by decide⟩, .ofDocuments [], List.mem_cons_of_mem _ List.mem_cons_self, by decide⟩,
    ⟨((recorded (OfertasUsuarioViewController.answered (some sampleUser))).run
        overtakingActs).getD ⟨viewDidLoad, []⟩, by rfl,
      ⟨by rfl, by decide⟩, .ofDocuments [], List.mem_cons_of_mem _ List.mem_cons_self,
      by decide⟩⟩

end OffersTable

end Poketrader
