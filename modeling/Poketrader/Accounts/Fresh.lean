import Poketrader.Accounts.Flow

/-!
# Fresh devices

A device on which nothing of an account has been shown, and to which nothing is on its way. It stays
so until something is done on the screens behind the login, and is so again when they are closed or
opened anew. Where accounts are signed in on fresh devices only, what is shown, stored and looked up
on a device is always of one account.
-/

open Document Foundation

namespace Poketrader

namespace Accounts

open Market (Bare)

variable {P : Platform} {s t : State} {act : Act} {m m' : Market.State} {d : ℕ}

structure Fresh (s : State) (d : ℕ) : Prop where
  bare : Bare s.market d
  phoneNumber : (s.market.devices d).add.phoneNumber = none
  waits : s.telefones.Carries (fun _ _ ↦ True) fun who _ ↦ who.1 ≠ d

/-- The device an action happens on, of those behind the login. -/
def behind : Act → Option ℕ
  | .market (.input device _) | .market (.loadOffersForIUD device) | .openAddPokemon device
  | .openPerfil device => some device
  | .market _ | .telefones _ | .arrive _ | .perfil _ _ | .openCadastro _ _ | .cadastro _ _
  | .createUser _ _ | .createUserFails _ | .signIn _ _ | .login _ _ | .buttonLogout _ => none

/-- The market of a fresh device. -/
structure FreshMarket (m : Market.State) (d : ℕ) : Prop where
  bare : Bare m d
  phoneNumber : (m.devices d).add.phoneNumber = none

namespace FreshMarket

/-- Other devices leave it as it is. -/
theorem of_devices (h : FreshMarket m d) (hdevices : m'.devices d = m.devices d)
    (hanswers : ∀ answer ∈ m'.answers, answer.1 ≠ d) : FreshMarket m' d where
  bare := ⟨hdevices ▸ h.bare.ofertas, hdevices ▸ h.bare.screen, hanswers⟩
  phoneNumber := hdevices ▸ h.phoneNumber

theorem input (h : FreshMarket m d) {device : ℕ} (hd : device ≠ d) {input : OfferForms.Input}
    (hstep : Market.step P m (.input device input) = some m') : FreshMarket m' d := by
  cases Market.steps_of_step hstep with
  | input => exact h.of_devices (Function.update_of_ne hd.symm _ _) h.bare.answers

/-- A session that begins or ends leaves the device fresh, or makes it so. -/
theorem restart {device : ℕ} (h : d ≠ device → FreshMarket m d) (currentUser : Option AuthUser) :
    FreshMarket (m.restart device currentUser) d := by
  by_cases hd : d = device
  · subst hd
    have hdevice : (m.restart d currentUser).devices d = Market.newDevice :=
      Function.update_self _ _ _
    refine ⟨⟨hdevice ▸ rfl, hdevice ▸ rfl, fun answer ha ↦ ?_⟩, hdevice ▸ rfl⟩
    exact of_decide_eq_true (List.mem_filter.mp ha).2
  · refine (h hd).of_devices (Function.update_of_ne hd _ _) fun answer ha ↦ ?_
    exact (h hd).bare.answers answer (List.mem_filter.mp ha).1

theorem direct (h : FreshMarket m d) {act : Market.Act} (hdirect : direct act = true)
    (hbehind : behind (.market act) ≠ some d) (hstep : Market.step P m act = some m') :
    FreshMarket m' d := by
  cases Market.steps_of_step hstep with
  | input device => exact h.input (fun hd ↦ hbehind (congrArg some hd)) hstep
  | loadOffersForIUD device =>
    refine h.of_devices rfl fun answer ha ↦ ?_
    rcases List.mem_append.mp ha with ha | ha
    · exact h.bare.answers answer ha
    · rw [List.mem_singleton.mp ha]
      exact fun hd ↦ hbehind (congrArg some hd)
  | respond i device ofertas hanswer =>
    have hd : device ≠ d := h.bare.answers _ (List.mem_of_getElem? hanswer)
    refine h.of_devices (Function.update_of_ne hd.symm _ _) fun answer ha ↦ ?_
    exact h.bare.answers answer (List.mem_of_mem_eraseIdx ha)
  | store | reject | commitChanges => exact h.of_devices rfl h.bare.answers
  | login | createUser | buttonLogout => exact absurd hdirect Bool.false_ne_true

end FreshMarket

/-- Sending writes asks nothing. -/
theorem carries_send {ι : Type*} {A : ι → String → Prop} (op : Operation)
    {r : Remote.Registers String Fields ι} (h : r.Carries (fun _ _ ↦ True) A) :
    (op.send r).Carries (fun _ _ ↦ True) A := by
  rw [Operation.send]
  generalize op.writes = writes
  induction writes generalizing r with
  | nil => exact h
  | cons w writes ih =>
    cases w with
    | setData => exact ih (h.write trivial)
    | updateData | delete => exact ih h

namespace Fresh

theorem market (h : Fresh s d) : FreshMarket s.market d := ⟨h.bare, h.phoneNumber⟩

theorem of_market (hmarket : FreshMarket s.market d)
    (hwaits : s.telefones.Carries (fun _ _ ↦ True) fun who _ ↦ who.1 ≠ d) : Fresh s d :=
  ⟨hmarket.bare, hmarket.phoneNumber, hwaits⟩

theorem unlooked (h : Fresh s d) : Unlooked s d where
  phoneNumber := h.phoneNumber
  waits reader hwaits := Remote.Registers.Carries.iff_waits.mp h.waits (d, reader) hwaits rfl

theorem start (P : Platform) (d : ℕ) : Fresh (machine P).start d where
  bare := ⟨rfl, rfl, fun _ h ↦ absurd h List.not_mem_nil⟩
  phoneNumber := rfl
  waits := .empty

theorem restart {device : ℕ} (h : d ≠ device → Fresh s d) (currentUser : Option AuthUser) :
    Fresh (s.restart device (s.market.restart device currentUser)) d := by
  refine of_market (.restart (fun hd ↦ (h hd).market) currentUser) ?_
  rw [Remote.Registers.Carries.iff_waits]
  intro who hwaits
  by_cases hd : d = device
  · subst hd
    rintro rfl
    obtain ⟨d, reader⟩ := who
    cases reader with
    | addPokemon => exact Remote.Registers.not_waits_forget _ _ hwaits
    | perfil => exact Remote.Registers.not_waits_forget _ _ hwaits.of_forget
  · exact Remote.Registers.Carries.iff_waits.mp (h hd).waits who hwaits.of_forget.of_forget

/-- **A device stays fresh** as long as nothing is done behind its login. -/
theorem step (h : Fresh s d) (hbehind : behind act ≠ some d)
    (hstep : (machine P).step s act = some t) : Fresh t d := by
  cases steps_of_step hstep with
  | market act market hdirect hmarket =>
    exact .of_market (h.market.direct hdirect hbehind hmarket) h.waits
  | telefones event telefones hevent => exact .of_market h.market (h.waits.event hevent)
  | getTelephone n device document telefones market harrive hmarket =>
    obtain ⟨hwaits, _, hd, -⟩ := h.waits.arrive harrive
    exact .of_market (h.market.input hd hmarket) hwaits
  | getDocument n device document telefones vc vc' harrive =>
    exact .of_market h.market (h.waits.arrive harrive).1
  | openAddPokemon device user market huser hmarket =>
    have hd : device ≠ d := fun hd ↦ hbehind (congrArg some hd)
    exact .of_market (h.market.input hd hmarket) ((h.waits.forget _).ask hd)
  | openPerfil device user huser =>
    have hd : device ≠ d := fun hd ↦ hbehind (congrArg some hd)
    exact .of_market h.market ((h.waits.forget _).ask hd)
  | perfil device act vc vc' =>
    refine .of_market h.market ?_
    rw [State.save]
    rcases (vc.submitted act).bind _ with - | op
    · exact h.waits
    · exact carries_send op h.waits
  | createUser i device args user market hget hmarket =>
    obtain rfl := Option.some_inj.mp hmarket
    exact .of_market (h.market.of_devices rfl h.bare.answers) (carries_send _ h.waits)
  | signIn device user market hmarket =>
    obtain rfl := Option.some_inj.mp hmarket
    exact .of_market (h.market.of_devices rfl h.bare.answers) h.waits
  | openCadastro | cadastro | createUserFails => exact .of_market h.market h.waits
  | login device user => exact .restart (fun _ ↦ h) (some user)
  | buttonLogout => exact .restart (fun _ ↦ h) none

end Fresh

/-! ## Undisturbed runs -/

/-- Accounts are signed in on fresh devices. -/
def Undisturbed (s : State) : Act → Prop
  | .createUser i _ => ∀ p, s.signups[i]? = some p → Fresh s p.1
  | .signIn device _ => Fresh s device
  | .market _ | .telefones _ | .arrive _ | .openAddPokemon _ | .openPerfil _ | .perfil _ _
  | .openCadastro _ _ | .cadastro _ _ | .createUserFails _ | .login _ _ | .buttonLogout _ => True

/-- So nothing has been looked up on them, -/
theorem Undisturbed.orderly (h : Undisturbed s act) : Orderly s act := by
  cases act with
  | createUser i user => exact fun p hp ↦ (h p hp).unlooked
  | signIn device user => exact h.unlooked
  | market | telefones | arrive | openAddPokemon | openPerfil | perfil | openCadastro | cadastro
  | createUserFails | login | buttonLogout => trivial

/-- and nothing has been shown. -/
theorem Undisturbed.allowed_marketActs (h : Undisturbed s act)
    (hstep : (machine P).step s act = some t) :
    (Market.machine P).Allowed Market.Orderly s.market (marketActs s act) := by
  cases steps_of_step hstep with
  | market act market hdirect hmarket =>
    refine Machine.allowed_singleton ?_
    cases act with
    | createUser => exact absurd hdirect Bool.false_ne_true
    | input | loadOffersForIUD | respond | store | reject | login | commitChanges
    | buttonLogout => trivial
  | getTelephone n device document telefones market harrive hmarket =>
    rw [marketActs, harrive]
    exact Machine.allowed_singleton trivial
  | getDocument n device document telefones vc vc' harrive =>
    rw [marketActs, harrive]
    trivial
  | createUser i device args user market hget hmarket =>
    rw [marketActs, hget]
    exact Machine.allowed_singleton (h _ hget).bare
  | signIn => exact Machine.allowed_singleton h.bare
  | openAddPokemon | login | buttonLogout => exact Machine.allowed_singleton trivial
  | telefones | openPerfil | perfil | openCadastro | cadastro | createUserFails => trivial

/-- **An undisturbed run is orderly**, as a run of the accounts and as one of the market. -/
theorem orderly_of_undisturbed {acts : List Act}
    (h : (machine P).Allowed Undisturbed (machine P).start acts)
    (hrun : (machine P).run acts = some s) :
    (machine P).Allowed Orderly (machine P).start acts ∧
      (Market.machine P).Allowed Market.Orderly (Market.machine P).start
        ((machine P).trace marketActs (machine P).start acts) := by
  refine ⟨h.mono fun _ _ ↦ Undisturbed.orderly, ?_⟩
  refine Machine.allowed_trace (R := fun s m ↦ s.market = m) (fun s act t m hm hG hstep ↦ ?_) rfl h
    hrun
  subst hm
  exact ⟨hG.allowed_marketActs hstep, t.market, exec_marketActs hstep, rfl⟩

end Accounts

end Poketrader
