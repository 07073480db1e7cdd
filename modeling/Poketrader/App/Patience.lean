import Mathlib.Data.List.Count
import Poketrader.Accounts.Telephones
import Poketrader.App.Sessions

/-!
# Patience

Every screen behind the login is of the account signed in as long as no answer signs another one in
under it. That is up to the user: a login or a sign-up may be submitted while another is on its way,
and the first to be answered opens the tab bar. Who waits for an answer before submitting the next
form is spared this.
-/

open Document Foundation

namespace Poketrader

namespace App

open Accounts (Fresh Undisturbed)

variable {P : Platform} {s t : State} {act : Act} {d device : ℕ}

/-- The sign-ups of a device on their way. -/
def signups (s : Accounts.State) (d : ℕ) : ℕ := s.signups.countP fun p ↦ p.1 = d

/-- The logins and sign-ups of a device that have not ended. -/
def State.underWay (s : State) (d : ℕ) : ℕ :=
  s.logins.countP (fun p ↦ p.1 = d) + (s.blocks d).length + signups s.accounts d

/-- A form is submitted when nothing is under way. -/
def Patient (s : State) : Act → Prop
  | .entrarButton device _ _ | .accounts (.cadastro device .press) => s.underWay device = 0
  | .accounts _ | .respondLogin _ _ _ | .runMain _ | .cadastroButton _ _ | .esqueceuSenhaButton _
  | .dismiss _ | .buttonLogout _ => True

instance (s : State) : ∀ act, Decidable (Patient s act)
  | .entrarButton _ _ _ | .accounts (.cadastro _ .press) => inferInstanceAs (Decidable (_ = _))
  | .accounts (.cadastro _ (.edit _ _ _)) | .accounts (.cadastro _ (.escolherImagem _))
  | .accounts (.market _) | .accounts (.telefones _) | .accounts (.arrive _)
  | .accounts (.openAddPokemon _) | .accounts (.openPerfil _) | .accounts (.perfil _ _)
  | .accounts (.openCadastro _ _) | .accounts (.createUser _ _) | .accounts (.createUserFails _)
  | .accounts (.signIn _ _) | .accounts (.login _ _) | .accounts (.buttonLogout _)
  | .respondLogin _ _ _ | .runMain _ | .cadastroButton _ _ | .esqueceuSenhaButton _
  | .dismiss _ | .buttonLogout _ => isTrue trivial

/-- One thing at most is under way, and nothing once the tab bar has opened. -/
structure OneUnderWay (s : State) (d : ℕ) : Prop where
  le_one : s.underWay d ≤ 1
  tabBar : .tabBar ∈ s.window d → s.underWay d = 0

namespace OneUnderWay

theorem start (P : Platform) (d : ℕ) : OneUnderWay (machine P).start d where
  le_one := Nat.le_refl 1
  tabBar h := absurd (List.mem_singleton.mp h) (by simp)

theorem of_le (h : OneUnderWay s d) (hle : t.underWay d ≤ s.underWay d)
    (hwindow : .tabBar ∈ t.window d → .tabBar ∈ s.window d) : OneUnderWay t d where
  le_one := hle.trans h.le_one
  tabBar hmem := Nat.eq_zero_of_le_zero (hle.trans (Nat.le_of_eq (h.tabBar (hwindow hmem))))

/-- Where nothing is under way, one thing may begin in front of the login. -/
theorem of_le_succ (hzero : s.underWay d = 0) (hle : t.underWay d ≤ s.underWay d + 1)
    (htabBar : .tabBar ∉ t.window d) : OneUnderWay t d where
  le_one := hle.trans (Nat.le_of_eq (congrArg (· + 1) hzero))
  tabBar hmem := absurd hmem htabBar

end OneUnderWay

/-- A press submits the form once at most, and nothing else does. -/
theorem submitted_of_step {vc : CadastroViewController} {act : SignUp.Act} {form : SignUp.State}
    (hstep : SignUp.step P ⟨vc, []⟩ act = some form) :
    form.submitted.length ≤ 1 ∧ (act ≠ .press → form.submitted = []) := by
  cases act with
  | edit textField range string =>
    obtain ⟨screen, -, rfl⟩ := Option.map_eq_some_iff.mp hstep
    exact ⟨Nat.zero_le 1, fun _ ↦ rfl⟩
  | escolherImagem imagem =>
    obtain rfl := Option.some_inj.mp hstep
    exact ⟨Nat.zero_le 1, fun _ ↦ rfl⟩
  | press =>
    obtain ⟨-, hsubmitted⟩ := SignUp.press_eq_some hstep
    refine ⟨?_, fun h ↦ absurd rfl h⟩
    rw [hsubmitted]
    split
    · exact Nat.le_refl 1
    · exact Nat.zero_le 1

/-- Only a press of the sign-up form adds a sign-up. -/
theorem signups_of_step {s t : Accounts.State} {act : Accounts.Act}
    (hstep : (Accounts.machine P).step s act = some t) (d : ℕ) :
    signups t d ≤ signups s d ∨ act = .cadastro d .press ∧ signups t d ≤ signups s d + 1 := by
  have hsame : t.signups = s.signups → signups t d ≤ signups s d :=
    fun h ↦ Nat.le_of_eq (congrArg (List.countP _) h)
  have herase : ∀ i, t.signups = s.signups.eraseIdx i → signups t d ≤ signups s d := by
    intro i h
    rw [signups, h]
    exact (List.eraseIdx_sublist _ _).countP_le
  cases Accounts.steps_of_step hstep with
  | cadastro device act form hform =>
    obtain ⟨hone, hnone⟩ := submitted_of_step hform
    by_cases hpress : act = .press
    · by_cases hd : device = d
      · subst hd
        refine .inr ⟨hpress ▸ rfl, ?_⟩
        have hle := List.countP_le_length (p := fun p ↦ decide (p.1 = device))
          (l := form.submitted.map (Prod.mk device))
        rw [List.length_map] at hle
        rw [signups, List.countP_append]
        exact Nat.add_le_add_left (hle.trans hone) _
      · refine .inl ?_
        rw [signups, List.countP_append, List.countP_map]
        refine Nat.le_of_eq (Nat.add_eq_left.mpr ?_)
        exact List.countP_eq_zero.mpr fun args _ ↦ by simpa using hd
    · refine .inl (hsame ?_)
      rw [hnone hpress]
      exact List.append_nil _
  | createUser i | createUserFails i => exact .inl (herase i rfl)
  | market | telefones | getTelephone | getDocument | openAddPokemon | openPerfil | perfil
  | openCadastro | signIn | login | buttonLogout => exact .inl (hsame rfl)

/-- In front of the login there is no tab bar. -/
theorem Sound.not_mem (h : Sound s d) {screen : Screen} (hhead : (s.window d).head? = some screen)
    (hscreen : screen ≠ .tabBar) : .tabBar ∉ s.window d :=
  fun hmem ↦ hscreen (Option.some_inj.mp (hhead.symm.trans (h.top hmem)))

/-- A block changes what is shown on its device. -/
theorem run_eq (s : State) (device : ℕ) (block : Block) :
    (∀ d, (s.run device block).underWay d = s.underWay d) ∧
      ∀ d, d ≠ device → (s.run device block).window d = s.window d := by
  have hfeed : ∀ source, (∀ d, (s.feedVC device source).underWay d = s.underWay d) ∧
      ∀ d, d ≠ device → (s.feedVC device source).window d = s.window d := by
    intro source
    rw [State.feedVC]
    split
    · exact ⟨fun _ ↦ rfl, fun d hd ↦ Function.update_of_ne hd _ _⟩
    · exact ⟨fun _ ↦ rfl, fun _ _ ↦ rfl⟩
  cases block with
  | splash signedIn =>
    cases signedIn with
    | true => exact hfeed .splash
    | false => exact ⟨fun _ ↦ rfl, fun d hd ↦ Function.update_of_ne hd _ _⟩
  | entrarButton n error =>
    rcases error with - | error
    · exact hfeed (.login n)
    · exact ⟨fun _ ↦ rfl, fun _ _ ↦ rfl⟩

/-- A block that has run is no longer under way, and the tab bar opens by a block. -/
theorem OneUnderWay.runMain (h : OneUnderWay s d) {block : Block} {blocks : List Block}
    (hblocks : s.blocks device = block :: blocks) :
    OneUnderWay ({ s with blocks := Function.update s.blocks device blocks }.run device block)
      d := by
  obtain ⟨hunderWay, hwindow⟩ :=
    run_eq { s with blocks := Function.update s.blocks device blocks } device block
  by_cases hd : d = device
  · subst hd
    have hone := h.le_one
    rw [State.underWay, hblocks, List.length_cons] at hone
    have hzero :
        ({ s with blocks := Function.update s.blocks d blocks } : State).underWay d = 0 := by
      simp only [State.underWay, Function.update_self]
      omega
    exact ⟨by rw [hunderWay, hzero]; exact Nat.zero_le 1, fun _ ↦ (hunderWay d).trans hzero⟩
  · refine h.of_le ?_ fun hmem ↦ (hwindow d hd) ▸ hmem
    rw [hunderWay]
    simp only [State.underWay, Function.update_of_ne hd]
    exact Nat.le_refl _

/-- No segue but those of the blocks is to the tab bar. -/
theorem mem_performSegue {source destination : Screen} (hdestination : destination ≠ .tabBar)
    (h : .tabBar ∈ (s.performSegue device source destination).window d) :
    .tabBar ∈ s.window d := by
  rw [State.performSegue] at h
  dsimp only at h
  by_cases hd : d = device
  · subst hd
    rw [Function.update_self, present] at h
    split at h
    · exact (List.mem_cons.mp h).resolve_left hdestination.symm
    · exact h
  · rwa [Function.update_of_ne hd] at h

/-- An answer dispatches one block at most. -/
theorem length_dispatched (n : ℕ) (authResult : Option AuthUser) (error : Option String) :
    (dispatched n authResult error).length ≤ 1 := by
  rw [dispatched, List.length_map]
  exact Option.length_toList_le

/-- So a login that is answered is under way no longer, or as a block. -/
theorem underWay_respondLogin {i n : ℕ} {blocks : List Block} {accounts : Accounts.State}
    (hget : s.logins[i]? = some (device, n)) (hblocks : blocks.length ≤ 1)
    (hsignups : signups accounts d = signups s.accounts d) :
    ({ s with
      accounts
      logins := s.logins.eraseIdx i
      blocks := Function.update s.blocks device (s.blocks device ++ blocks) } : State).underWay d
        ≤ s.underWay d := by
  obtain ⟨hi, hget⟩ := List.getElem?_eq_some_iff.mp hget
  have hperm : ((device, n) :: s.logins.eraseIdx i).Perm s.logins :=
    hget ▸ List.getElem_cons_eraseIdx_perm hi
  have hcount := hperm.countP_eq fun p ↦ decide (p.1 = d)
  rw [List.countP_cons] at hcount
  simp only [State.underWay, hsignups]
  by_cases hd : d = device
  · subst hd
    rw [if_pos (decide_eq_true rfl)] at hcount
    rw [Function.update_self, List.length_append]
    omega
  · rw [Function.update_of_ne hd]
    omega

/-- **One thing at a time.** -/
theorem OneUnderWay.step (h : ∀ d, OneUnderWay s d) (hsound : ∀ d, Sound s d)
    (hpatient : Patient s act) (hstep : (machine P).step s act = some t) (d : ℕ) :
    OneUnderWay t d := by
  cases steps_of_step hstep with
  | accounts act accounts hdriven hplace haccounts =>
    rcases signups_of_step haccounts d with hle | ⟨rfl, hle⟩
    · exact (h d).of_le (Nat.add_le_add_left hle _) id
    · have hhead : (s.window d).head? = some .cadastro := hplace _ rfl
      exact .of_le_succ hpatient (Nat.add_le_add_left hle _) ((hsound d).not_mem hhead (by simp))
  | entrarButton device n email senha hhead =>
    by_cases hd : device = d
    · subst hd
      refine .of_le_succ hpatient ?_ ((hsound device).not_mem hhead (by simp))
      simp [State.underWay, List.countP_append]
      omega
    · refine (h d).of_le (Nat.le_of_eq ?_) id
      simp [State.underWay, List.countP_append, hd]
  | refused => exact h d
  | respondLogin i device n authResult error accounts hget haccounts =>
    refine (h d).of_le (underWay_respondLogin hget (length_dispatched n authResult error) ?_) id
    rcases signIn_eq_some haccounts with ⟨user, -, -, hstep⟩ | ⟨-, rfl⟩
    · obtain rfl := Option.some_inj.mp hstep
      rfl
    · rfl
  | runMain device block blocks hblocks => exact (h d).runMain hblocks
  | cadastroButton device n profilePic accounts hhead haccounts =>
    obtain rfl := Option.some_inj.mp haccounts
    exact (h d).of_le (Nat.le_refl _) (mem_performSegue (by simp))
  | esqueceuSenhaButton device n hhead =>
    exact (h d).of_le (Nat.le_refl _) (mem_performSegue (by simp))
  | dismiss device top window hwindow htop =>
    refine (h d).of_le (Nat.le_refl _) fun hmem ↦ ?_
    dsimp only at hmem
    by_cases hd : d = device
    · subst hd
      rw [Function.update_self] at hmem
      exact hwindow ▸ List.mem_cons_of_mem top hmem
    · rwa [Function.update_of_ne hd] at hmem
  | buttonLogout device hhead =>
    refine (h d).of_le (Nat.le_refl _) fun hmem ↦ ?_
    rw [State.signOut] at hmem
    dsimp only at hmem
    by_cases hd : d = device
    · subst hd
      exact List.mem_of_mem_head? hhead
    · rwa [Function.update_of_ne hd] at hmem

/-! ## Nobody is disturbed -/

/-- Where something is under way, nothing has been shown. -/
theorem OneUnderWay.fresh (h : OneUnderWay s d) (hsound : Sound s d) (hpos : 0 < s.underWay d) :
    Fresh s.accounts d :=
  hsound.fresh fun hmem ↦ absurd (h.tabBar hmem) (Nat.ne_of_gt hpos)

/-- The screens behind the login may open at any time. -/
theorem allowed_feedActs (s : State) (device : ℕ) (source : Screen) (accounts : Accounts.State) :
    (Accounts.machine P).Allowed Undisturbed accounts (feedActs s device source) := by
  refine Machine.allowed_of_forall_mem (fun a ha accounts ↦ ?_) accounts
  rw [feedActs] at ha
  split at ha
  · obtain ⟨user, -, rfl⟩ := List.mem_map.mp ha
    trivial
  · exact absurd ha List.not_mem_nil

/-- So accounts are signed in on fresh devices. -/
theorem allowed_accountsActs (h : ∀ d, OneUnderWay s d) (hsound : ∀ d, Sound s d)
    (hstep : (machine P).step s act = some t) :
    (Accounts.machine P).Allowed Undisturbed s.accounts (accountsActs s act) := by
  cases steps_of_step hstep with
  | accounts act accounts hdriven hplace haccounts =>
    refine Machine.allowed_singleton ?_
    cases act with
    | createUser i user =>
      refine fun p hp ↦ (h p.1).fresh (hsound p.1) (Nat.add_pos_right _ ?_)
      exact List.countP_pos_iff.mpr ⟨p, List.mem_of_getElem? hp, decide_eq_true rfl⟩
    | signIn => exact absurd hdriven (by simp [driven])
    | market | telefones | arrive | openAddPokemon | openPerfil | perfil | openCadastro | cadastro
    | createUserFails | login | buttonLogout => trivial
  | respondLogin i device n authResult error accounts hget haccounts =>
    have hpos : 0 < s.underWay device :=
      Nat.add_pos_left (Nat.add_pos_left (List.countP_pos_iff.mpr
        ⟨(device, n), List.mem_of_getElem? hget, decide_eq_true rfl⟩) _) _
    rcases authResult with - | user
    · trivial
    · rcases error with - | error
      · rw [accountsActs, hget]
        exact Machine.allowed_singleton ((h device).fresh (hsound device) hpos)
      · trivial
  | runMain device block blocks hblocks =>
    rw [accountsActs, hblocks]
    cases block with
    | splash signedIn =>
      cases signedIn with
      | true => exact allowed_feedActs s device .splash _
      | false => trivial
    | entrarButton n error =>
      rcases error with - | error
      · exact allowed_feedActs s device (.login n) _
      · trivial
  | cadastroButton | buttonLogout => exact Machine.allowed_singleton trivial
  | entrarButton | refused | esqueceuSenhaButton | dismiss => trivial

theorem undisturbed_of_patient {acts : List Act}
    (hpatient : (machine P).Allowed Patient (machine P).start acts)
    (hrun : (machine P).run acts = some s) :
    (Accounts.machine P).Allowed Undisturbed (Accounts.machine P).start
      ((machine P).trace accountsActs (machine P).start acts) := by
  refine Machine.allowed_trace
    (R := fun s accounts ↦ ((∀ d, Sound s d) ∧ ∀ d, OneUnderWay s d) ∧ s.accounts = accounts)
    (fun s act t accounts ⟨⟨hsound, h⟩, haccounts⟩ hG hstep ↦ ?_)
    ⟨⟨Sound.start P, OneUnderWay.start P⟩, rfl⟩ hpatient hrun
  subst haccounts
  exact ⟨allowed_accountsActs h hsound hstep, t.accounts, exec_accountsActs hsound hstep,
    ⟨Sound.step hsound hstep, OneUnderWay.step h hsound hG hstep⟩, rfl⟩

end App

end Poketrader
