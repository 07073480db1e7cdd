import Poketrader.Accounts.Fresh
import Poketrader.App.Windows

/-!
# Sessions

Whoever sees the screens behind the login is signed in. This is not for the window to see to, since
the tab bar opens by a block on the main queue, after the answer that has signed the account in: it
is for the controllers, since logging out leaves a window whose only controller has asked for
nothing yet.
-/

open Document Foundation

namespace Poketrader

namespace App

open Accounts (Fresh)

variable {P : Platform} {s t : State} {act : Act} {d device : ℕ}

/-- What is behind the login of a device is somebody's, and nothing is in front of it. -/
structure Sound (s : State) (d : ℕ) : Prop where
  top : .tabBar ∈ s.window d → (s.window d).head? = some .tabBar
  session : .tabBar ∈ s.window d → (s.session d).isSome = true
  window : ∀ n, .login n ∈ s.window d → n < s.made d
  logins : ∀ p ∈ s.logins, p.1 = d → p.2 < s.made d
  blocks : ∀ n error, .entrarButton n error ∈ s.blocks d → n < s.made d
  /-- A segue to the tab bar that will not come to nothing. -/
  segues : ∀ n, .entrarButton n none ∈ s.blocks d → .login n ∈ s.window d →
    (s.session d).isSome = true
  splash : .splash true ∉ s.blocks d
  fresh : .tabBar ∉ s.window d → Fresh s.accounts d

namespace Sound

theorem start (P : Platform) (d : ℕ) : Sound (machine P).start d where
  top h := absurd (List.mem_singleton.mp h) (by simp)
  session h := absurd (List.mem_singleton.mp h) (by simp)
  window n h := absurd (List.mem_singleton.mp h) (by simp)
  logins p h := absurd h List.not_mem_nil
  blocks n error h := absurd (List.mem_singleton.mp h) (by simp [viewDidLoad])
  segues n h := absurd (List.mem_singleton.mp h) (by simp [viewDidLoad])
  splash h := absurd (List.mem_singleton.mp h) (by simp [viewDidLoad])
  fresh _ := .start P d

/-- A step that leaves the window. -/
theorem frame (h : Sound s d) (hwindow : t.window d = s.window d) (hmade : t.made d = s.made d)
    (hlogins : ∀ p ∈ t.logins, p.1 = d → p.2 < s.made d)
    (hblocks : ∀ block ∈ t.blocks d, block ∈ s.blocks d)
    (hsession : (s.session d).isSome = true → (t.session d).isSome = true)
    (hfresh : .tabBar ∉ s.window d → Fresh t.accounts d) : Sound t d where
  top := by rw [hwindow]; exact h.top
  session := by rw [hwindow]; exact fun htabBar ↦ hsession (h.session htabBar)
  window := by rw [hwindow, hmade]; exact h.window
  logins := by rw [hmade]; exact hlogins
  blocks := by rw [hmade]; exact fun n error hmem ↦ h.blocks n error (hblocks _ hmem)
  segues := by
    rw [hwindow]
    exact fun n hmem hlogin ↦ hsession (h.segues n (hblocks _ hmem) hlogin)
  splash hmem := h.splash (hblocks _ hmem)
  fresh := by rw [hwindow]; exact hfresh

/-- In front of the login, other controllers come and go. -/
theorem show_of_not_mem (h : Sound s d) {device : ℕ} {window : List Screen}
    (htabBar : .tabBar ∉ s.window device) (hwindow : .tabBar ∉ window)
    (hlogin : ∀ n, .login n ∈ window → .login n ∈ s.window device) :
    Sound { s with window := Function.update s.window device window } d := by
  by_cases hd : d = device
  · subst hd
    refine ⟨fun hmem ↦ absurd ?_ hwindow, fun hmem ↦ absurd ?_ hwindow,
      fun n hmem ↦ h.window n (hlogin n ?_), h.logins, h.blocks,
      fun n hmem hshown ↦ h.segues n hmem (hlogin n ?_), h.splash, fun _ ↦ h.fresh htabBar⟩
    · simpa using hmem
    · simpa using hmem
    · simpa using hmem
    · simpa using hshown
  · exact h.frame (Function.update_of_ne hd _ _) rfl h.logins (fun _ ↦ id) id h.fresh

/-- A session that begins or ends elsewhere, with the screens of another device. -/
theorem restart_of_ne (h : Sound s d) {device : ℕ} (hd : d ≠ device)
    (currentUser : Option AuthUser) {t : State}
    (haccounts : t.accounts = s.accounts.restart device
      (s.accounts.market.restart device currentUser))
    (hwindow : t.window d = s.window d) (hmade : t.made d = s.made d)
    (hlogins : t.logins = s.logins) (hblocks : t.blocks d = s.blocks d) : Sound t d := by
  refine h.frame hwindow hmade (hlogins ▸ h.logins) (hblocks ▸ fun _ ↦ id) (fun huser ↦ ?_)
    fun htabBar ↦ ?_
  · have hsession : t.session d = s.session d := by
      rw [State.session, haccounts]
      exact Function.update_of_ne hd _ _
    rwa [hsession]
  · rw [haccounts]
    exact .restart (fun _ ↦ h.fresh htabBar) currentUser

/-- The tab bar opens over its controller, if somebody is signed in, and its screens are new. -/
theorem feedVC (h : Sound s d) {device : ℕ} {source : Screen}
    (hsession : (s.window device).head? = some source → (s.session device).isSome = true) :
    Sound (s.feedVC device source) d := by
  rw [State.feedVC]
  split
  · next hhead =>
    by_cases hd : d = device
    · subst hd
      generalize ht : State.mk _ _ s.made s.logins s.blocks = t
      have hwindow : t.window d = .tabBar :: s.window d := ht ▸ Function.update_self _ _ _
      have huser : (t.session d).isSome = true := by
        have heq : t.session d = s.session d := ht ▸ Function.update_self _ _ _
        rw [heq]
        exact hsession hhead
      refine ⟨fun _ ↦ congrArg List.head? hwindow, fun _ ↦ huser, fun n hmem ↦ ?_, ht ▸ h.logins,
        ht ▸ h.blocks, fun _ _ _ ↦ huser, ht ▸ h.splash, fun htabBar ↦ absurd ?_ htabBar⟩
      · rw [hwindow] at hmem
        exact ht ▸ h.window n ((List.mem_cons.mp hmem).resolve_left (by simp))
      · rw [hwindow]
        exact List.mem_cons_self
    · exact h.restart_of_ne hd _ rfl (Function.update_of_ne hd _ _) rfl rfl rfl
  · exact h

/-- A login controller that has just been made has asked for nothing yet. -/
theorem of_made (h : Sound s d) (hmade : t.made d = s.made d + 1) (hlogins : t.logins = s.logins)
    (hblocks : t.blocks = s.blocks)
    (hwindow : ∀ n, .login n ∈ t.window d → n = s.made d ∨
      .login n ∈ s.window d ∧ t.session d = s.session d)
    (htabBar : .tabBar ∈ t.window d → t.window d = s.window d ∧ t.session d = s.session d)
    (hfresh : .tabBar ∉ t.window d → Fresh t.accounts d) : Sound t d where
  top hmem := by
    obtain ⟨hsame, -⟩ := htabBar hmem
    exact hsame ▸ h.top (hsame ▸ hmem)
  session hmem := by
    obtain ⟨hsame, hsession⟩ := htabBar hmem
    exact hsession ▸ h.session (hsame ▸ hmem)
  window n hmem := by
    rw [hmade]
    rcases hwindow n hmem with rfl | ⟨hmem, -⟩
    · exact Nat.lt_succ_self _
    · exact Nat.lt_succ_of_lt (h.window n hmem)
  logins := by
    rw [hmade, hlogins]
    exact fun p hp hd ↦ Nat.lt_succ_of_lt (h.logins p hp hd)
  blocks := by
    rw [hmade, hblocks]
    exact fun n error hmem ↦ Nat.lt_succ_of_lt (h.blocks n error hmem)
  segues n hmem hshown := by
    rw [hblocks] at hmem
    obtain ⟨hin, hsession⟩ := (hwindow n hshown).resolve_left (Nat.ne_of_lt (h.blocks n none hmem))
    exact hsession ▸ h.segues n hmem hin
  splash := hblocks ▸ h.splash
  fresh := hfresh

/-- A login controller is shown over the first one. -/
theorem loginVC (h : Sound s d) (device : ℕ) : Sound (s.loginVC device .splash) d := by
  rw [State.loginVC]
  by_cases hd : d = device
  · subst hd
    by_cases hhead : (s.window d).head? = some .splash
    · have hwindow : ∀ screen, screen ∈ Function.update s.window d
          (present (s.window d) .splash (.login (s.made d))) d ↔
            screen = .login (s.made d) ∨ screen ∈ s.window d := by
        intro screen
        rw [Function.update_self, present, if_pos hhead, List.mem_cons]
      have hin : .tabBar ∉ s.window d := fun hin ↦
        absurd ((h.top hin).symm.trans hhead) (by simp)
      refine h.of_made (Function.update_self _ _ _) rfl rfl (fun n hmem ↦ ?_) (fun hmem ↦ ?_)
        fun _ ↦ h.fresh hin
      · exact ((hwindow _).mp hmem).imp Screen.login.inj fun hin ↦ ⟨hin, rfl⟩
      · exact absurd (((hwindow _).mp hmem).resolve_left (by simp)) hin
    · have hwindow : Function.update s.window d
          (present (s.window d) .splash (.login (s.made d))) d = s.window d := by
        rw [Function.update_self, present, if_neg hhead]
      refine h.of_made (Function.update_self _ _ _) rfl rfl (fun n hmem ↦ ?_)
        (fun _ ↦ ⟨hwindow, rfl⟩) fun hmem ↦ h.fresh fun hin ↦ hmem ?_
      · exact .inr ⟨hwindow ▸ hmem, rfl⟩
      · exact (congrArg (Screen.tabBar ∈ ·) hwindow).mpr hin
  · exact h.frame (Function.update_of_ne hd _ _) (Function.update_of_ne hd _ _) h.logins
      (fun _ ↦ id) id h.fresh

/-- So logging out leaves a window that nothing on its way is for. -/
theorem signOut (h : Sound s d) (device : ℕ) : Sound (s.signOut device) d := by
  rw [State.signOut]
  by_cases hd : d = device
  · subst hd
    have hwindow : ∀ screen ∈ Function.update s.window d [.login (s.made d)] d,
        screen = .login (s.made d) := by
      intro screen hmem
      rwa [Function.update_self, List.mem_singleton] at hmem
    refine h.of_made (Function.update_self _ _ _) rfl rfl (fun n hmem ↦ ?_) (fun hmem ↦ ?_)
      fun _ ↦ .restart (fun hd ↦ absurd rfl hd) none
    · exact .inl (Screen.login.inj (hwindow _ hmem))
    · exact absurd (hwindow _ hmem) (by simp)
  · exact h.restart_of_ne hd _ rfl (Function.update_of_ne hd _ _) (Function.update_of_ne hd _ _) rfl
      rfl

/-- What a block does, with the queue it is taken from. -/
theorem run (h : Sound s d) {device : ℕ} {block : Block}
    (hsession : ∀ n, block = .entrarButton n none → .login n ∈ s.window device →
      (s.session device).isSome = true) (hsplash : block ≠ .splash true) :
    Sound (s.run device block) d := by
  cases block with
  | splash signedIn =>
    cases signedIn with
    | true => exact absurd rfl hsplash
    | false => exact h.loginVC device
  | entrarButton n error =>
    rcases error with - | error
    · exact h.feedVC fun hhead ↦ hsession n rfl (List.mem_of_mem_head? hhead)
    · exact h

end Sound

/-! ## The steps -/

/-- Nobody is signed out by an input. -/
theorem session_of_input {m m' : Market.State} {input : OfferForms.Input}
    (hstep : Market.step P m (.input device input) = some m') : m'.session = m.session := by
  cases Market.steps_of_step hstep with
  | input => rfl

/-- Whoever is signed in elsewhere. -/
theorem isSome_update {session : ℕ → Option AuthUser} (h : (session d).isSome = true) (device : ℕ)
    (user : AuthUser) : (Function.update session device (some user) d).isSome = true := by
  by_cases hd : d = device
  · subst hd
    rw [Function.update_self]
    rfl
  · rwa [Function.update_of_ne hd]

/-- Nobody is signed out but by the windows. -/
theorem session_of_step {s t : Accounts.State} {act : Accounts.Act} (hdriven : driven act = false)
    (hstep : (Accounts.machine P).step s act = some t)
    (huser : (s.market.session d).isSome = true) : (t.market.session d).isSome = true := by
  have hupdate := isSome_update huser
  cases Accounts.steps_of_step hstep with
  | market act market hdirect hmarket =>
    cases Market.steps_of_step hmarket with
    | commitChanges device displayName user => exact hupdate device _
    | input | loadOffersForIUD | respond | store | reject => exact huser
    | login | createUser | buttonLogout => exact absurd hdirect Bool.false_ne_true
  | getTelephone n device document telefones market harrive hmarket =>
    exact (session_of_input hmarket).symm ▸ huser
  | openAddPokemon device user market _ hmarket => exact (session_of_input hmarket).symm ▸ huser
  | createUser i device args user market hget hmarket =>
    obtain rfl := Option.some_inj.mp hmarket
    exact hupdate device user
  | telefones | getDocument | openPerfil | perfil | cadastro | createUserFails => exact huser
  | openCadastro | signIn | login | buttonLogout => exact absurd hdriven (by simp [driven])

/-- What happens behind the login happens where the tab bar is. -/
theorem place_of_behind {act : Accounts.Act} (h : Accounts.behind act = some d) :
    place act = some (d, .tabBar) := by
  cases act with
  | market act =>
    cases act with
    | input | loadOffersForIUD =>
      exact congrArg (fun d ↦ some (d, Screen.tabBar)) (Option.some_inj.mp h)
    | respond | store | reject | login | createUser | commitChanges | buttonLogout =>
      exact absurd h.symm (Option.some_ne_none d)
  | openAddPokemon | openPerfil =>
    exact congrArg (fun d ↦ some (d, Screen.tabBar)) (Option.some_inj.mp h)
  | telefones | arrive | perfil | openCadastro | cadastro | createUser | createUserFails | signIn
  | login | buttonLogout => exact absurd h.symm (Option.some_ne_none d)

/-- The login controller on top shows another that is in front of the login. -/
theorem Sound.performSegue (h : ∀ d, Sound s d) {device n : ℕ} {destination : Screen}
    (hhead : (s.window device).head? = some (.login n))
    (hdestination : destination = .cadastro ∨ destination = .esqueciASenha) (d : ℕ) :
    Sound (s.performSegue device (.login n) destination) d := by
  have htabBar : .tabBar ∉ s.window device := fun hmem ↦
    absurd (((h device).top hmem).symm.trans hhead) (by simp)
  have hmem : ∀ screen ∈ present (s.window device) (.login n) destination,
      screen = destination ∨ screen ∈ s.window device := by
    intro screen hmem
    rwa [present, if_pos hhead, List.mem_cons] at hmem
  refine (h d).show_of_not_mem htabBar (fun hin ↦ ?_) fun m hin ↦ (hmem _ hin).resolve_left ?_
  · exact htabBar ((hmem _ hin).resolve_left (by rcases hdestination with rfl | rfl <;> simp))
  · rcases hdestination with rfl | rfl <;> simp

/-- A login signs the account in if it brings one. -/
theorem signIn_eq_some {s t : Accounts.State} {authResult : Option AuthUser} {error : Option String}
    (h : signIn P s device authResult error = some t) :
    (∃ user, authResult = some user ∧ error = none ∧
      (Accounts.machine P).step s (.signIn device user) = some t) ∨
      ((AuthenticationWorker.login ⟨none, none, none⟩ authResult error).2 ≠ some none ∧ t = s) := by
  rcases authResult with - | user
  · refine .inr ⟨?_, (Option.some_inj.mp h).symm⟩
    rcases error with - | error <;> simp [AuthenticationWorker.login]
  · rcases error with - | error
    · exact .inl ⟨user, rfl, rfl, h⟩
    · exact .inr ⟨by simp [AuthenticationWorker.login], (Option.some_inj.mp h).symm⟩

/-- The answer to a login dispatches a block, which opens the tab bar only for who is signed in. -/
theorem Sound.respondLogin (h : Sound s d) {i n : ℕ} {authResult : Option AuthUser}
    {error : Option String} {accounts : Accounts.State} (hget : s.logins[i]? = some (device, n))
    (haccounts : signIn P s.accounts device authResult error = some accounts) :
    Sound { s with
      accounts
      logins := s.logins.eraseIdx i
      blocks := Function.update s.blocks device
        (s.blocks device ++ dispatched n authResult error) } d := by
  have hsession : (s.session d).isSome = true → (accounts.market.session d).isSome = true := by
    intro huser
    rcases signIn_eq_some haccounts with ⟨user, -, -, hstep⟩ | ⟨-, rfl⟩
    · obtain rfl := Option.some_inj.mp hstep
      exact isSome_update huser device user
    · exact huser
  have hfresh : .tabBar ∉ s.window d → Fresh accounts d := by
    intro htabBar
    rcases signIn_eq_some haccounts with ⟨user, -, -, hstep⟩ | ⟨-, rfl⟩
    · have hbehind : Accounts.behind (.signIn device user) ≠ some d :=
        (Option.some_ne_none d).symm
      exact (h.fresh htabBar).step hbehind hstep
    · exact h.fresh htabBar
  have hlogins : ∀ p ∈ s.logins.eraseIdx i, p.1 = d → p.2 < s.made d :=
    fun p hp ↦ h.logins p (List.mem_of_mem_eraseIdx hp)
  by_cases hd : d = device
  · subst hd
    have hblocks : ∀ b, b ∈ Function.update s.blocks d
        (s.blocks d ++ dispatched n authResult error) d → b ∈ s.blocks d ∨ ∃ e, e ∈
          (AuthenticationWorker.login ⟨none, none, none⟩ authResult error).2.toList ∧
            .entrarButton n e = b := by
      intro b hb
      rw [Function.update_self] at hb
      exact (List.mem_append.mp hb).imp_right List.mem_map.mp
    have hn : n < s.made d := h.logins _ (List.mem_of_getElem? hget) rfl
    refine ⟨h.top, fun hmem ↦ hsession (h.session hmem), h.window, hlogins, fun m e hmem ↦ ?_,
      fun m hmem hshown ↦ ?_, fun hmem ↦ ?_, hfresh⟩
    · rcases hblocks _ hmem with hmem | ⟨e', -, heq⟩
      · exact h.blocks m e hmem
      · exact (Block.entrarButton.inj heq).1 ▸ hn
    · rcases hblocks _ hmem with hmem | ⟨e', hcalled, heq⟩
      · exact hsession (h.segues m hmem hshown)
      · obtain ⟨-, rfl⟩ := Block.entrarButton.inj heq
        rcases signIn_eq_some haccounts with ⟨user, -, -, hstep⟩ | ⟨hnone, -⟩
        · obtain rfl := Option.some_inj.mp hstep
          exact congrArg Option.isSome
            (Function.update_self d (some user) s.accounts.market.session)
        · exact absurd (Option.mem_toList.mp hcalled) hnone
    · rcases hblocks _ hmem with hmem | ⟨e', -, heq⟩
      · exact h.splash hmem
      · exact absurd heq (by simp)
  · refine h.frame rfl rfl hlogins (fun b hb ↦ ?_) hsession hfresh
    dsimp only at hb
    rwa [Function.update_of_ne hd] at hb

/-- **What is on screen stays sound.** -/
theorem Sound.step (h : ∀ d, Sound s d) (hstep : (machine P).step s act = some t) (d : ℕ) :
    Sound t d := by
  cases steps_of_step hstep with
  | accounts act accounts hdriven hplace haccounts =>
    refine (h d).frame rfl rfl (h d).logins (fun _ ↦ id)
      (session_of_step hdriven haccounts) fun htabBar ↦ ?_
    refine ((h d).fresh htabBar).step (fun hbehind ↦ htabBar ?_) haccounts
    exact List.mem_of_mem_head? (hplace _ (place_of_behind hbehind))
  | entrarButton device n email senha hhead =>
    refine (h d).frame rfl rfl (fun p hp hd ↦ ?_) (fun _ ↦ id) id (h d).fresh
    rcases List.mem_append.mp hp with hp | hp
    · exact (h d).logins p hp hd
    · obtain rfl := List.mem_singleton.mp hp
      obtain rfl := hd
      exact (h _).window n (List.mem_of_mem_head? hhead)
  | refused => exact h d
  | respondLogin i device n authResult error accounts hget haccounts =>
    exact (h d).respondLogin hget haccounts
  | runMain device block blocks hblocks =>
    have hmem : block ∈ s.blocks device := hblocks ▸ List.mem_cons_self
    have htaken : Sound { s with blocks := Function.update s.blocks device blocks } d := by
      refine (h d).frame rfl rfl (h d).logins (fun b hb ↦ ?_) id (h d).fresh
      dsimp only at hb
      by_cases hd : d = device
      · subst hd
        rw [hblocks]
        rw [Function.update_self] at hb
        exact List.mem_cons_of_mem _ hb
      · rwa [Function.update_of_ne hd] at hb
    exact htaken.run (fun n hblock ↦ (h device).segues n (hblock ▸ hmem)) fun hblock ↦
      (h device).splash (hblock ▸ hmem)
  | cadastroButton device n profilePic accounts hhead haccounts =>
    have hopened : ∀ d, Sound { s with accounts } d := by
      intro d
      have hbehind : Accounts.behind (.openCadastro device profilePic) ≠ some d :=
        (Option.some_ne_none d).symm
      refine (h d).frame rfl rfl (h d).logins (fun _ ↦ id) (fun huser ↦ ?_) fun htabBar ↦ ?_
      · obtain rfl := Option.some_inj.mp haccounts
        exact huser
      · exact ((h d).fresh htabBar).step hbehind haccounts
    exact Sound.performSegue hopened hhead (.inl rfl) d
  | esqueceuSenhaButton device n hhead => exact Sound.performSegue h hhead (.inr rfl) d
  | dismiss device top window hwindow htop =>
    have htabBar : .tabBar ∉ s.window device := by
      intro hmem
      have hhead := (h device).top hmem
      rw [hwindow] at hhead
      rcases htop with rfl | rfl <;> exact absurd hhead (by simp)
    have hsub : ∀ screen ∈ window, screen ∈ s.window device := by
      intro screen hmem
      rw [hwindow]
      exact List.mem_cons_of_mem _ hmem
    exact (h d).show_of_not_mem htabBar (fun hmem ↦ htabBar (hsub _ hmem)) fun n ↦ hsub _
  | buttonLogout device hhead => exact (h d).signOut device

theorem sound_of_run {acts : List Act} (hrun : (machine P).run acts = some s) (d : ℕ) :
    Sound s d :=
  Machine.invariant (I := fun s ↦ ∀ d, Sound s d) (fun _ _ _ h hstep ↦ Sound.step h hstep)
    (Sound.start P) hrun d

/-! ## The application is a run of the accounts -/

/-- The segue to the tab bar is that of the accounts. -/
theorem exec_feedActs {source : Screen}
    (hsession : (s.window device).head? = some source → (s.session device).isSome = true) :
    (Accounts.machine P).exec s.accounts (feedActs s device source)
      = some (s.feedVC device source).accounts := by
  rw [feedActs, State.feedVC]
  split
  · next hhead =>
    obtain ⟨user, huser⟩ := Option.isSome_iff_exists.mp (hsession hhead)
    rw [huser]
    rfl
  · rfl

/-- A step takes the steps of the accounts that it is traced to. -/
theorem exec_accountsActs (h : ∀ d, Sound s d) (hstep : (machine P).step s act = some t) :
    (Accounts.machine P).exec s.accounts (accountsActs s act) = some t.accounts := by
  cases steps_of_step hstep with
  | accounts act accounts hdriven hplace haccounts => exact Machine.exec_of_step haccounts
  | entrarButton | refused | esqueceuSenhaButton | dismiss => rfl
  | respondLogin i device n authResult error accounts hget haccounts =>
    rcases authResult with - | user
    · exact haccounts
    · rcases error with - | error
      · rw [accountsActs, hget]
        exact Machine.exec_of_step haccounts
      · exact haccounts
  | runMain device block blocks hblocks =>
    have hmem : block ∈ s.blocks device := hblocks ▸ List.mem_cons_self
    rw [accountsActs, hblocks]
    cases block with
    | splash signedIn =>
      cases signedIn with
      | true => exact absurd hmem (h device).splash
      | false => rfl
    | entrarButton n error =>
      rcases error with - | error
      · exact exec_feedActs (s := { s with blocks := Function.update s.blocks device blocks })
          fun hhead ↦ (h device).segues n hmem (List.mem_of_mem_head? hhead)
      · rfl
  | cadastroButton device n profilePic accounts hhead haccounts =>
    exact Machine.exec_of_step haccounts
  | buttonLogout device hhead =>
    have hmarket : Market.step P s.accounts.market (.buttonLogout device)
        = some (s.accounts.market.restart device none) :=
      if_pos ((h device).session (List.mem_of_mem_head? hhead))
    exact Machine.exec_of_step (congrArg (Option.map (s.accounts.restart device)) hmarket)

/-- What happens to the accounts is a run of theirs. -/
theorem accounts_of_run {acts : List Act} (hrun : (machine P).run acts = some s) :
    (Accounts.machine P).run ((machine P).trace accountsActs (machine P).start acts)
      = some s.accounts := by
  obtain ⟨accounts, haccounts, -, rfl⟩ :=
    Machine.exec_trace_of_allowed (M := machine P) (N := Accounts.machine P) (G := fun _ _ ↦ True)
      (R := fun s accounts ↦ (∀ d, Sound s d) ∧ s.accounts = accounts) (f := accountsActs)
      (fun s act t accounts ⟨h, haccounts⟩ _ hstep ↦ ⟨t.accounts,
        haccounts ▸ exec_accountsActs h hstep, Sound.step h hstep, rfl⟩)
      ⟨Sound.start P, rfl⟩ (Machine.allowed_of_forall_mem (fun _ _ _ ↦ trivial) _) hrun
  exact haccounts

/-- An account is made, and signed in once more at the login. -/
def enteringActs : List Act :=
  [.runMain 0, .cadastroButton 0 none, .accounts (.cadastro 0 (.edit .nome ⟨0, 0⟩ "Ana")),
    .accounts (.cadastro 0 (.edit .telefone ⟨0, 0⟩ "11988887777")),
    .accounts (.cadastro 0 (.edit .senha ⟨0, 0⟩ "s")),
    .accounts (.cadastro 0 (.edit .email ⟨0, 0⟩ "ab@cd.ef")), .accounts (.cadastro 0 .press),
    .accounts (.createUser 0 sampleUser), .accounts (.telefones (.store 0)), .dismiss 0,
    .entrarButton 0 "ab@cd.ef" "s", .respondLogin 0 (some sampleUser) none, .runMain 0]

/-- The state after some actions. -/
def sampleState (acts : List Act) : State :=
  ((machine .scalarwise).run acts).getD (machine .scalarwise).start

theorem run_enteringActs :
    (machine .scalarwise).run enteringActs = some (sampleState enteringActs) := by rfl

end App

end Poketrader
