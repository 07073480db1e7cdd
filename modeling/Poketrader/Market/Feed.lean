import Poketrader.Market.Announcements
import Poketrader.Views.OffersTable

/-!
# The readers of the market

What the offers are published for: the feed, which shows everybody's, on every device behind the
login, with the screens opened from it. A load of the feed is issued at one time, evaluated by the
backend at another and answered at a third, in any order, while sellers go on publishing, editing
and deleting. The offers of the feed carry no key, so nothing on the screen says which document one
was read from.

All the same, what is read is no mixture and not older than the screens. `Sight` is whatever comes
with the answers and stays with the screens, and `Sight.stored_of_run` says of all of it that it was
stored at one moment since the screens were opened (`Machine.of_exec_or_exists_prefix`). The whole
list is such a sight, which makes the feed the collection of one moment; and so is a single offer,
which leads to what the alerts had announced by then.
-/

open Document Foundation

namespace Poketrader

namespace Feed

/-- The feed, and the screens of single offers on top of it, the last one first. -/
structure Screens where
  feed : OffersTable
  anuncios : List OfertaElement

/-- The screens as the tab bar opens them. -/
def opened : Screens where
  feed := .viewDidLoad
  anuncios := []

namespace Screens

/-- The offers of the feed. -/
def ofertas (screens : Screens) : List OfertaElement :=
  (screens.feed.ofertas.bind Ofertas.ofertas).getD []

/-- `prepare`: the row that is tapped goes to a new screen. -/
def prepare (screens : Screens) : OffersTable.Act → List OfertaElement
  | .didSelectRow row =>
    (Ofertas.getOferta screens.feed.ofertas row).join.toList ++ screens.anuncios
  | _ => screens.anuncios

end Screens

/-- The answer to a load of the feed, on its way. -/
structure Arrival where
  device : ℕ
  /-- The place of the load in the order of issue. -/
  load : ℕ
  answer : QueryAnswer

/-- What the loader makes of the answer. -/
def Arrival.ofertas (a : Arrival) : List OfertaElement :=
  appendDecoded decodeOffer (a.answer.documents.getD [])

structure State where
  market : Market.State
  /-- The screens of each device, where somebody has been let in. -/
  screens : ℕ → Option Screens
  answers : List Arrival

inductive Act where
  | market (act : Market.Act)
  /-- Something happens on the feed, an answer apart. -/
  | feed (device : ℕ) (act : OffersTable.Act)
  /-- The query of a load is evaluated. -/
  | getDocuments (device load : ℕ)
  /-- The query of a load fails. -/
  | fail (device load : ℕ) (err : String)
  /-- The `i`-th answer on its way arrives. -/
  | arrive (i : ℕ)
  /-- The screen of an offer is left. -/
  | back (device : ℕ)

/-- The action is an answer. -/
def isRespond : OffersTable.Act → Bool
  | .respond _ _ => true
  | .viewDidAppear | .runMain | .cellForRow _ | .didSelectRow _ => false

namespace State

variable (s : State)

/-- The load has been issued by the screens of the device, and has no answer yet. -/
def Waits (device load : ℕ) : Prop :=
  load ∈ (s.screens device).elim [] (fun screens ↦ screens.feed.unanswered) ∧
    ∀ a ∈ s.answers, ¬(a.device = device ∧ a.load = load)

instance (device load : ℕ) : Decidable (s.Waits device load) :=
  inferInstanceAs (Decidable (_ ∧ _))

/-- New screens, or none. Answers for the old ones are nobody's concern. -/
def restart (device : ℕ) (screens : Option Screens) : State :=
  { s with
    screens := Function.update s.screens device screens
    answers := s.answers.filter fun a ↦ a.device ≠ device }

/-- The screens are opened by the login and go with the session. -/
def follow : Market.Act → State
  | .login device _ => s.restart device (some opened)
  | .buttonLogout device => s.restart device none
  | .input _ _ | .loadOffersForIUD _ | .respond _ | .store _ _ | .reject _ _ | .createUser _ _
  | .commitChanges _ _ => s

end State

def step (P : Platform) (s : State) : Act → Option State
  | .market act => (Market.step P s.market act).map fun market ↦ { s with market }.follow act
  | .feed device act =>
    if isRespond act then none
    else (s.screens device).bind fun screens ↦
      (screens.feed.step FeedViewController.answered act).map fun feed ↦
        { s with
          screens := Function.update s.screens device (some ⟨feed, screens.prepare act⟩) }
  | .getDocuments device load =>
    if s.Waits device load then
      some { s with answers := s.answers ++ [⟨device, load, .ofDocuments s.market.anuncio.toList⟩] }
    else none
  | .fail device load err =>
    if s.Waits device load then
      some { s with answers := s.answers ++ [⟨device, load, ⟨none, some err⟩⟩] }
    else none
  | .arrive i => (s.answers[i]?).bind fun a ↦ (s.screens a.device).bind fun screens ↦
      (screens.feed.step FeedViewController.answered
        (.respond (screens.feed.unanswered.idxOf a.load) a.answer)).map fun feed ↦
        { s with
          screens := Function.update s.screens a.device (some { screens with feed })
          answers := s.answers.eraseIdx i }
  | .back device => (s.screens device).bind fun screens ↦
      match screens.anuncios with
      | [] => none
      | _ :: anuncios =>
        some { s with
          screens := Function.update s.screens device (some { screens with anuncios }) }

/-- The market opens, and no device shows anything. -/
def machine (P : Platform) : Machine State Act where
  start := ⟨(Market.machine P).start, fun _ ↦ none, []⟩
  step := step P

/-! ## Steps, case by case -/

/-- What a step does, action by action. -/
inductive Steps (P : Platform) (s : State) : Act → State → Prop
  | market (act : Market.Act) (market : Market.State)
      (hmarket : (Market.machine P).step s.market act = some market) :
    Steps P s (.market act) ({ s with market }.follow act)
  | feed (device : ℕ) (act : OffersTable.Act) (screens : Screens) (feed : OffersTable)
      (hrespond : isRespond act = false) (hscreens : s.screens device = some screens)
      (hfeed : FeedViewController.machine.step screens.feed act = some feed) :
    Steps P s (.feed device act)
      { s with screens := Function.update s.screens device (some ⟨feed, screens.prepare act⟩) }
  | getDocuments (device load : ℕ) (hwaits : s.Waits device load) :
    Steps P s (.getDocuments device load)
      { s with answers := s.answers ++ [⟨device, load, .ofDocuments s.market.anuncio.toList⟩] }
  | fail (device load : ℕ) (err : String) (hwaits : s.Waits device load) :
    Steps P s (.fail device load err)
      { s with answers := s.answers ++ [⟨device, load, ⟨none, some err⟩⟩] }
  | arrive (i : ℕ) (a : Arrival) (screens : Screens) (feed : OffersTable)
      (ha : s.answers[i]? = some a) (hscreens : s.screens a.device = some screens)
      (hfeed : FeedViewController.machine.step screens.feed
        (.respond (screens.feed.unanswered.idxOf a.load) a.answer) = some feed) :
    Steps P s (.arrive i)
      { s with
        screens := Function.update s.screens a.device (some { screens with feed })
        answers := s.answers.eraseIdx i }
  | back (device : ℕ) (screens : Screens) (oferta : OfertaElement) (anuncios : List OfertaElement)
      (hscreens : s.screens device = some screens) (htop : screens.anuncios = oferta :: anuncios) :
    Steps P s (.back device)
      { s with screens := Function.update s.screens device (some { screens with anuncios }) }

variable {P : Platform} {s t : State} {act : Act}

theorem steps_of_step (h : (machine P).step s act = some t) : Steps P s act t := by
  cases act with
  | market act =>
    obtain ⟨market, hmarket, rfl⟩ := Option.map_eq_some_iff.mp h
    exact .market act market hmarket
  | feed device act =>
    obtain ⟨hrespond, h⟩ := Option.ite_none_left_eq_some.mp h
    obtain ⟨screens, hscreens, h⟩ := Option.bind_eq_some_iff.mp h
    obtain ⟨feed, hfeed, rfl⟩ := Option.map_eq_some_iff.mp h
    exact .feed device act screens feed (Bool.eq_false_iff.mpr hrespond) hscreens hfeed
  | getDocuments device load =>
    obtain ⟨hwaits, h⟩ := Option.ite_none_right_eq_some.mp h
    exact Option.some_inj.mp h ▸ .getDocuments device load hwaits
  | fail device load err =>
    obtain ⟨hwaits, h⟩ := Option.ite_none_right_eq_some.mp h
    exact Option.some_inj.mp h ▸ .fail device load err hwaits
  | arrive i =>
    obtain ⟨a, ha, h⟩ := Option.bind_eq_some_iff.mp h
    obtain ⟨screens, hscreens, h⟩ := Option.bind_eq_some_iff.mp h
    obtain ⟨feed, hfeed, rfl⟩ := Option.map_eq_some_iff.mp h
    exact .arrive i a screens feed ha hscreens hfeed
  | back device =>
    obtain ⟨screens, hscreens, h⟩ := Option.bind_eq_some_iff.mp h
    split at h
    · exact absurd h.symm (Option.some_ne_none t)
    · next oferta anuncios htop =>
      exact Option.some_inj.mp h ▸ .back device screens oferta anuncios hscreens htop

/-! ## What can be seen -/

/-- Something that may be on the screens of a device, or in an answer before it arrives: it comes
with the answers and stays with the screens. -/
structure Sight where
  onScreens : Screens → Prop
  inAnswer : Arrival → Prop
  opened : ¬onScreens opened
  feed : ∀ {screens : Screens} {act : OffersTable.Act} {feed : OffersTable},
    isRespond act = false → FeedViewController.machine.step screens.feed act = some feed →
      onScreens ⟨feed, screens.prepare act⟩ → onScreens screens
  arrive : ∀ {screens : Screens} {a : Arrival} {i : ℕ} {feed : OffersTable},
    FeedViewController.machine.step screens.feed (.respond i a.answer) = some feed →
      onScreens { screens with feed } → onScreens screens ∨ inAnswer a
  back : ∀ {feed : OffersTable} {oferta : OfertaElement} {anuncios : List OfertaElement},
    onScreens ⟨feed, anuncios⟩ → onScreens ⟨feed, oferta :: anuncios⟩
  fail : ∀ device load err, ¬inAnswer ⟨device, load, ⟨none, some err⟩⟩

/-- The list of the feed changes with answers only. -/
theorem ofertas_of_step {feed feed' : OffersTable} {act : OffersTable.Act}
    (hrespond : isRespond act = false) (h : FeedViewController.machine.step feed act = some feed') :
    feed'.ofertas = feed.ofertas := by
  cases OffersTable.steps_of_step h with
  | respond => exact absurd hrespond.symm Bool.false_ne_true
  | viewDidAppear | runMain | cellForRow | didSelectRow => rfl

/-- After an answer the list is that of the answer, or the query has failed and it is as before. -/
theorem ofertas_of_respond {feed feed' : OffersTable} {i : ℕ} {answer : QueryAnswer}
    (h : FeedViewController.machine.step feed (.respond i answer) = some feed') :
    (answer.err = none ∧
      feed'.ofertas = some ⟨some (appendDecoded decodeOffer (answer.documents.getD []))⟩) ∨
      feed'.ofertas = feed.ofertas := by
  cases OffersTable.steps_of_step h with
  | respond _ _ after hi hafter =>
    rw [OffersTable.replaces_feed] at hafter
    split at hafter
    · next herr => exact .inl ⟨herr, congrArg Prod.fst (Option.some_inj.mp hafter).symm⟩
    · exact .inr (congrArg Prod.fst (Option.some_inj.mp hafter).symm)

/-- A screen on top of the feed has an offer of the feed. -/
theorem mem_prepare {screens : Screens} {act : OffersTable.Act} {oferta : OfertaElement}
    (h : oferta ∈ screens.prepare act) : oferta ∈ screens.ofertas ∨ oferta ∈ screens.anuncios := by
  cases act with
  | didSelectRow row =>
    rcases List.mem_append.mp h with h | h
    · refine .inl ?_
      rw [Screens.ofertas]
      have ho := Option.join_eq_some_iff.mp (Option.mem_toList.mp h)
      rw [Ofertas.getOferta] at ho
      generalize screens.feed.ofertas.bind Ofertas.ofertas = source at ho
      rcases source with - | xs
      · exact absurd (Option.some_inj.mp ho).symm (Option.some_ne_none oferta)
      · obtain ⟨x, hx, heq⟩ := Option.map_eq_some_iff.mp ho
        exact Option.some_inj.mp heq ▸ List.mem_of_getElem? hx
    · exact .inr h
  | viewDidAppear | respond | runMain | cellForRow => exact .inr h

/-- The offer is read in the feed or on a screen of its own. -/
def Reads (oferta : OfertaElement) (screens : Screens) : Prop :=
  oferta ∈ screens.ofertas ∨ oferta ∈ screens.anuncios

/-- The sight of one offer. -/
def reads (oferta : OfertaElement) : Sight where
  onScreens := Reads oferta
  inAnswer a := oferta ∈ a.ofertas
  opened h := h.elim (absurd · List.not_mem_nil) (absurd · List.not_mem_nil)
  feed := by
    rintro screens act feed hrespond hfeed (hmem | hmem)
    · rw [Screens.ofertas, ofertas_of_step hrespond hfeed] at hmem
      exact .inl hmem
    · exact mem_prepare hmem
  arrive := by
    rintro screens a i feed hfeed (hmem | hmem)
    · rw [Screens.ofertas] at hmem
      rcases ofertas_of_respond hfeed with ⟨-, hnew⟩ | hsame
      · rw [hnew] at hmem
        exact .inr hmem
      · rw [hsame] at hmem
        exact .inl (.inl hmem)
    · exact .inl (.inr hmem)
  back := Or.imp_right (List.mem_cons_of_mem _)
  fail _ _ _ h := absurd h List.not_mem_nil

/-- The sight of the whole list. -/
def lists (ofertas : Ofertas) : Sight where
  onScreens screens := screens.feed.ofertas = some ofertas
  inAnswer a := a.answer.err = none ∧ ofertas = ⟨some a.ofertas⟩
  opened h := absurd h.symm (Option.some_ne_none ofertas)
  feed hrespond hfeed h := (ofertas_of_step hrespond hfeed).symm.trans h
  arrive := by
    intro screens a i feed hfeed h
    rcases ofertas_of_respond hfeed with ⟨herr, hnew⟩ | hsame
    · exact .inr ⟨herr, Option.some_inj.mp (h.symm.trans hnew)⟩
    · exact .inl (hsame.symm.trans h)
  back h := h
  fail _ _ _ h := absurd h.1 (Option.some_ne_none _)

namespace Sight

variable {S : Sight}

/-- The device has the sight before it, or about to be. -/
def Holds (S : Sight) (device : ℕ) (s : State) : Prop :=
  (∃ screens, s.screens device = some screens ∧ S.onScreens screens) ∨
    ∃ a ∈ s.answers, a.device = device ∧ S.inAnswer a

/-- A query that is evaluated now brings the sight. -/
def Stored (S : Sight) (s : State) : Prop :=
  ∃ device load, S.inAnswer ⟨device, load, .ofDocuments s.market.anuncio.toList⟩

/-- What is held under other screens of `device`. -/
theorem holds_update {device d : ℕ} {screens : Option Screens} {answers : List Arrival}
    (h : S.Holds d { s with screens := Function.update s.screens device screens, answers })
    (hself : ∀ now, screens = some now → S.onScreens now → S.Holds device s)
    (hanswers : ∀ a ∈ answers, a ∈ s.answers) : S.Holds d s := by
  rcases h with ⟨now, hnow, hsight⟩ | ⟨a, ha, hd, hsight⟩
  · by_cases hd : d = device
    · subst hd
      have hscreens : Function.update s.screens d screens d = some now := hnow
      rw [Function.update_self] at hscreens
      exact hself now hscreens hsight
    · exact .inl ⟨now, (Function.update_of_ne hd _ _).symm.trans hnow, hsight⟩
  · exact .inr ⟨a, hanswers a ha, hd, hsight⟩

/-- Screens are opened with nothing on them. -/
theorem holds_follow {act : Market.Act} {d : ℕ} (h : S.Holds d (s.follow act)) : S.Holds d s := by
  cases act with
  | login device =>
    refine holds_update h (fun now hnow hsight ↦ ?_) fun a ha ↦ (List.mem_filter.mp ha).1
    obtain rfl := Option.some_inj.mp hnow
    exact absurd hsight S.opened
  | buttonLogout device =>
    refine holds_update h (fun now hnow ↦ ?_) fun a ha ↦ (List.mem_filter.mp ha).1
    exact absurd hnow.symm (Option.some_ne_none now)
  | input | loadOffersForIUD | respond | store | reject | createUser | commitChanges => exact h

/-- What is held with one more answer on its way. -/
theorem holds_append {device load d : ℕ} {answer : QueryAnswer}
    (h : S.Holds d { s with answers := s.answers ++ [⟨device, load, answer⟩] }) :
    S.Holds d s ∨ S.inAnswer ⟨device, load, answer⟩ := by
  rcases h with hscreens | ⟨a, ha, hd, hsight⟩
  · exact .inl (.inl hscreens)
  · rcases List.mem_append.mp ha with ha | ha
    · exact .inl (.inr ⟨a, ha, hd, hsight⟩)
    · exact .inr (List.mem_singleton.mp ha ▸ hsight)

/-- **A step.** A sight that a device comes to hold is stored. -/
theorem holds_of_step {d : ℕ} (hstep : (machine P).step s act = some t) (h : S.Holds d t) :
    S.Holds d s ∨ S.Stored s := by
  cases steps_of_step hstep with
  | market act market hmarket => exact .inl (holds_follow (s := { s with market }) h)
  | feed device act screens feed hrespond hscreens hfeed =>
    refine .inl (holds_update h (fun now hnow hsight ↦ .inl ⟨screens, hscreens, ?_⟩) fun a ha ↦ ha)
    obtain rfl := Option.some_inj.mp hnow
    exact S.feed hrespond hfeed hsight
  | getDocuments device load hwaits => exact (holds_append h).imp_right fun h ↦ ⟨device, load, h⟩
  | fail device load err hwaits =>
    exact .inl ((holds_append h).resolve_right (S.fail device load err))
  | arrive i a screens feed ha hscreens hfeed =>
    refine .inl (holds_update h (fun now hnow hsight ↦ ?_) fun b hb ↦ List.mem_of_mem_eraseIdx hb)
    obtain rfl := Option.some_inj.mp hnow
    rcases S.arrive hfeed hsight with hbefore | hanswer
    · exact .inl ⟨screens, hscreens, hbefore⟩
    · exact .inr ⟨a, List.mem_of_getElem? ha, rfl, hanswer⟩
  | back device screens top anuncios hscreens htop =>
    refine .inl (holds_update h (fun now hnow hsight ↦ .inl ⟨screens, hscreens, ?_⟩) fun a ha ↦ ha)
    obtain rfl := Option.some_inj.mp hnow
    obtain ⟨feed, _⟩ := screens
    obtain rfl := htop
    exact S.back hsight

end Sight

/-! ## Where there are no screens, nothing is on its way -/

/-- Every answer is for screens that are there. -/
def Addressed (s : State) : Prop := ∀ a ∈ s.answers, (s.screens a.device).isSome

/-- The screens of the device of an answer stay, or the answer goes with them. -/
theorem addressed_update {device : ℕ} {screens : Option Screens} {answers : List Arrival}
    (h : Addressed s) (hanswers : ∀ a ∈ answers, a ∈ s.answers)
    (hself : screens.isSome ∨ ∀ a ∈ answers, a.device ≠ device) :
    Addressed { s with screens := Function.update s.screens device screens, answers } := by
  intro a ha
  change (Function.update s.screens device screens a.device).isSome
  by_cases hd : a.device = device
  · rw [hd, Function.update_self]
    exact hself.resolve_right fun hne ↦ hne a ha hd
  · rw [Function.update_of_ne hd]
    exact h a (hanswers a ha)

theorem addressed_restart (h : Addressed s) (device : ℕ) (screens : Option Screens) :
    Addressed (s.restart device screens) :=
  addressed_update h (fun _ ha ↦ (List.mem_filter.mp ha).1)
    (.inr fun _ ha ↦ of_decide_eq_true (List.mem_filter.mp ha).2)

theorem addressed_append (h : Addressed s) {device load : ℕ} (hwaits : s.Waits device load)
    (answer : QueryAnswer) :
    Addressed { s with answers := s.answers ++ [⟨device, load, answer⟩] } := by
  intro a ha
  rcases List.mem_append.mp ha with ha | ha
  · exact h a ha
  · rw [List.mem_singleton.mp ha]
    change (s.screens device).isSome
    rcases hscreens : s.screens device with - | screens
    · have hmem := hwaits.1
      rw [hscreens] at hmem
      exact absurd hmem List.not_mem_nil
    · rfl

theorem addressed_of_run {acts : List Act} (hrun : (machine P).run acts = some s) :
    Addressed s := by
  refine Machine.invariant (fun s act t h hstep ↦ ?_) (fun _ ha ↦ absurd ha List.not_mem_nil) hrun
  cases steps_of_step hstep with
  | market act market hmarket =>
    cases act with
    | login device => exact addressed_restart (s := { s with market }) h device _
    | buttonLogout device => exact addressed_restart (s := { s with market }) h device _
    | input | loadOffersForIUD | respond | store | reject | createUser | commitChanges => exact h
  | getDocuments device load hwaits => exact addressed_append h hwaits _
  | fail device load err hwaits => exact addressed_append h hwaits _
  | arrive => exact addressed_update h (fun _ ha ↦ List.mem_of_mem_eraseIdx ha) (.inl rfl)
  | feed | back => exact addressed_update h (fun _ ha ↦ ha) (.inl rfl)

/-! ## The market within -/

/-- The steps of the market that a step takes. -/
def marketActs : Act → List Market.Act
  | .market act => [act]
  | .feed _ _ | .getDocuments _ _ | .fail _ _ _ | .arrive _ | .back _ => []

variable (P) in
/-- What the sellers have done in a run. -/
def deedsOf (acts : List Act) : List Market.Deed :=
  (Market.machine P).trace Market.deeds (Market.machine P).start
    ((machine P).trace (fun _ ↦ marketActs) (machine P).start acts)

theorem market_follow (s : State) (act : Market.Act) : (s.follow act).market = s.market := by
  cases act <;> rfl

/-- The market does what its steps do, and nothing else changes it. -/
theorem market_of_step (hstep : (machine P).step s act = some t) :
    (Market.machine P).exec s.market (marketActs act) = some t.market := by
  cases steps_of_step hstep with
  | market act market hmarket =>
    rw [market_follow]
    exact Machine.exec_of_step hmarket
  | feed | getDocuments | fail | arrive | back => rfl

theorem market_of_exec {acts : List Act} (hexec : (machine P).exec s acts = some t) :
    (Market.machine P).exec s.market ((machine P).trace (fun _ ↦ marketActs) s acts)
      = some t.market := by
  obtain ⟨m, hm, rfl⟩ := Machine.exec_trace_of_allowed (R := fun s m ↦ s.market = m)
    (fun s act t m hs _ hstep ↦ ⟨t.market, hs ▸ market_of_step hstep, rfl⟩) rfl
    (Machine.allowed_of_forall_mem (G := fun _ _ ↦ True) (fun _ _ _ ↦ trivial) s) hexec
  exact hm

/-! ## What is read -/

/-- **Nothing is older than the screens.** What a device shows that has been opened since some point
of a run has been stored at a moment since then. -/
theorem Sight.stored_of_run (S : Sight) {acts bs : List Act}
    (hrun : (machine P).run acts = some s) {device : ℕ} (hclosed : s.screens device = none)
    (hexec : (machine P).exec s bs = some t) {screens : Screens}
    (hscreens : t.screens device = some screens) (hsight : S.onScreens screens) :
    ∃ cs u, cs <+: bs ∧ (machine P).exec s cs = some u ∧ S.Stored u := by
  refine (Machine.of_exec_or_exists_prefix (fun _ _ _ ↦ S.holds_of_step) hexec
    (.inl ⟨screens, hscreens, hsight⟩)).resolve_left ?_
  rintro (⟨before, hbefore, -⟩ | ⟨a, ha, rfl, -⟩)
  · exact absurd (hclosed.symm.trans hbefore).symm (Option.some_ne_none before)
  · have hopen := addressed_of_run hrun a ha
    rw [hclosed] at hopen
    exact absurd hopen Bool.false_ne_true

/-- An offer is published on the first device. -/
def sellingActs : List Act := Market.publishedActs.map .market

/-- Somebody signs in on the second device, where the feed is loaded and the offer tapped. The texts
of the offer are changed before the answer arrives. -/
def readingActs : List Act :=
  [.market (.login 1 { sampleUser with uid := "uid-2" }), .getDocuments 1 0] ++
    Market.editingActs.map .market ++ [.arrive 0, .feed 1 .runMain, .feed 1 (.didSelectRow 0)]

/-- The state after some actions. -/
def sampleState (acts : List Act) : State :=
  ((machine .scalarwise).run acts).getD (machine .scalarwise).start

theorem run_sellingActs :
    (machine .scalarwise).run sellingActs = some (sampleState sellingActs) := by rfl

theorem exec_readingActs : (machine .scalarwise).exec (sampleState sellingActs) readingActs
    = some (sampleState (sellingActs ++ readingActs)) := by rfl

/-- The screens of the second device at the end. -/
theorem screens_readingActs : ∃ screens,
    (sampleState (sellingActs ++ readingActs)).screens 1 = some screens ∧
      (∃ ofertas, screens.feed.ofertas = some ofertas) ∧
      ∃ oferta, Reads oferta screens ∧ oferta.nv = some "" :=
  ⟨_, rfl, ⟨_, rfl⟩, _, .inr List.mem_cons_self, rfl⟩

end Feed

end Poketrader
