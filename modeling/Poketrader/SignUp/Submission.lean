import Poketrader.Foundation.Lowercasing
import Poketrader.SignUp.Validity

/-!
# What the sign-up form submits

The address that is validated is a copy of the text of the field, in lower case and without the
blanks at its ends; the address that is submitted is the text itself. The two differ where it ends
in a blank, and the expression lets a blank through between letters. Where there is no blank at all,
the text is as valid as its copy: the expression does not tell the cases of a letter apart.
-/

open Foundation

namespace Poketrader

namespace CadastroController

/-! ## Letters the expression does not tell apart -/

/-- The characters the expression names. -/
theorem uses_emailRegEx {x : Char} (h : emailRegEx.Uses x) :
    lettersBlankDigits x = true ∨ x = '.' ∨ x = '_' ∨ x = '@' := by
  simp only [emailRegEx, Regex.Uses, Regex.wordBoundary, Regex.plus, Regex.opt, Regex.twoOrMore,
    decide_eq_true_eq, lettersBlankDigits, Bool.or_eq_true, false_or, or_false] at h ⊢
  tauto

theorem toNat_of_letters {c : Char} (h : letters c = true) :
    (65 ≤ c.toNat ∧ c.toNat ≤ 122) ∨ c.toNat = 0x17F ∨ c.toNat = 0x212A := by
  simp only [letters, Bool.or_eq_true, decide_eq_true_eq] at h
  rcases h with (halpha | rfl) | rfl
  · rcases (Bool.or_eq_true _ _).mp halpha with hupper | hlower
    · obtain ⟨hlow, hhigh⟩ := of_decide_eq_true hupper
      have hlow : 65 ≤ c.toNat := hlow
      have hhigh : c.toNat ≤ 90 := hhigh
      omega
    · obtain ⟨hlow, hhigh⟩ := (Bool.and_eq_true _ _).mp hlower
      have hlow : 97 ≤ c.toNat := of_decide_eq_true hlow
      have hhigh : c.toNat ≤ 122 := of_decide_eq_true hhigh
      omega
  · exact Or.inr (Or.inl rfl)
  · exact Or.inr (Or.inr rfl)

/-- Where the characters of the expression lie: none of them is a newline. -/
theorem toNat_of_uses {x : Char} (h : emailRegEx.Uses x) :
    (32 ≤ x.toNat ∧ x.toNat ≤ 122) ∨ x.toNat = 0x17F ∨ x.toNat = 0x212A := by
  rcases uses_emailRegEx h with h | rfl | rfl | rfl
  · simp only [lettersBlankDigits, Bool.or_eq_true, decide_eq_true_eq, Char.isDigit,
      Bool.and_eq_true] at h
    rcases h with (h | rfl) | ⟨hlow, hhigh⟩
    · have hletters := toNat_of_letters h
      omega
    · exact Or.inl (by decide)
    · have hlow : 48 ≤ x.toNat := hlow
      have hhigh : x.toNat ≤ 57 := hhigh
      omega
  all_goals exact Or.inl (by decide)

theorem foldsToASCII_of_uses {x : Char} (h : emailRegEx.Uses x) : FoldsToASCII x := by
  have hx := toNat_of_uses h
  rw [FoldsToASCII]
  omega

theorem newlines_of_uses {x : Char} (h : emailRegEx.Uses x) : newlines x = false := by
  have hx := toNat_of_uses h
  by_contra hnewline
  simp only [Bool.not_eq_false, newlines, Bool.or_eq_true, Bool.and_eq_true, decide_eq_true_eq,
    ← UInt32.toNat_inj, UInt32.le_iff_toNat_le] at hnewline
  change (((10 ≤ x.toNat ∧ x.toNat ≤ 13) ∨ x.toNat = 133) ∨ x.toNat = 8232) ∨ x.toNat = 8233
    at hnewline
  omega

/-- A set of scalars that has a letter in both its cases or in neither. -/
theorem eq_of_lowers (set : Char → Bool)
    (hcapitals : capitals.all (fun c ↦ set c == set c.toLower) = true)
    (hk : set '\u212A' = set 'k') (c d : Char) (h : Lowers c d) : set c = set d := by
  rcases h with rfl | ⟨rfl, rfl⟩
  · rcases toLower_eq_or_mem c with h | h
    · rw [h]
    · exact beq_iff_eq.mp (List.all_eq_true.mp hcapitals c h)
  · exact hk

theorem emailRegEx_respects : emailRegEx.Respects Lowers := by
  have hletters := eq_of_lowers letters (by decide) (by decide)
  have hset := eq_of_lowers lettersBlankDigits (by decide) (by decide)
  have hdot := eq_of_lowers (· = '.') (by decide) (by decide)
  have hunderscore := eq_of_lowers (· = '_') (by decide) (by decide)
  have hat := eq_of_lowers (· = '@') (by decide) (by decide)
  have hword := eq_of_lowers wordCharacters (by decide) (by decide)
  have hboundary := Regex.respects_wordBoundary hword
  exact ⟨hboundary, ⟨hset, hset⟩, ⟨⟨⟨⟨hdot, hunderscore⟩, trivial⟩, hset, hset⟩,
    ⟨⟨hdot, hunderscore⟩, trivial⟩, hset, hset⟩, hat, ⟨hletters, hletters⟩,
    ⟨⟨hdot, hletters, hletters, hletters⟩, hdot, hletters, hletters, hletters⟩, hboundary⟩

/-- An address is valid if its scalars lower to those of a valid one. -/
theorem isValidEmail_of_forall₂ {email lower : String} (h : isValidEmail lower = true)
    (hlowers : List.Forall₂ Lowers email.toList lower.toList) : isValidEmail email = true :=
  Regex.test_iff.mpr ((Regex.test_iff.mp h).of_forall₂ emailRegEx_respects .none hlowers .none)

/-- A text without blanks is valid and without newlines if its copy is valid. -/
theorem isValidEmail_of_normalizedEmail {P : Platform} (hP : P.LowercasesScalars) {email : String}
    (hblank : ∀ ch ∈ email.toList, whitespaces ch = false)
    (hvalid : isValidEmail (CadastroViewController.normalizedEmail P email) = true) :
    isValidEmail email = true ∧ ∀ ch ∈ email.toList, newlines ch = false := by
  obtain ⟨pieces, hlower, hpieces⟩ := hP email
  have htrim : CadastroViewController.normalizedEmail P email = P.lowercased email := by
    refine trimmingCharacters_eq_self ?_
    rw [hlower, String.toList_ofList]
    exact no_whitespaces_of_forall₂ hpieces hblank
  rw [htrim] at hvalid
  have huses : ∀ d ∈ (P.lowercased email).toList, emailRegEx.Uses d :=
    (Regex.test_iff.mp hvalid).uses
  have hlist : (P.lowercased email).toList = pieces.flatten := by
    rw [hlower, String.toList_ofList]
  have hlowers : List.Forall₂ Lowers email.toList (P.lowercased email).toList := by
    rw [hlist] at huses ⊢
    exact forall₂_lowers hpieces fun d hd ↦ foldsToASCII_of_uses (huses d hd)
  refine ⟨isValidEmail_of_forall₂ hvalid hlowers, fun ch hch ↦ ?_⟩
  obtain ⟨d, hd, hchd⟩ := exists_lowers_of_mem hlowers hch
  rw [eq_of_lowers newlines (by decide) (by decide) ch d hchd]
  exact newlines_of_uses (huses d hd)

end CadastroController

namespace SignUp

variable (P : Platform)

/-- A submitted address that is valid and has no blanks and no newlines. -/
def Proper (arguments : CadastroArguments) : Prop :=
  CadastroController.isValidEmail arguments.email = true ∧
    ∀ ch ∈ arguments.email.toList, whitespacesAndNewlines ch = false

instance (arguments : CadastroArguments) : Decidable (Proper arguments) :=
  @instDecidableAnd _ _ _ (List.decidableBAll _ _)

/-- A valid form is not sent with a blank anywhere in the address. -/
def Unblanked (s : State) : Act → Prop
  | .press => Valid P s.screen → ∀ ch ∈ s.screen.emailTextField.toList, whitespaces ch = false
  | _ => True

instance (s : State) : ∀ a, Decidable (Unblanked P s a)
  | .press => @forall_prop_decidable _ _ _ fun _ ↦ List.decidableBAll _ _
  | .edit _ _ _ | .escolherImagem _ => isTrue trivial

variable {P} {profilePic : Option PNGData}

/-- A valid form is submitted properly exactly if there is no blank in the address. -/
theorem proper_arguments_iff (hP : P.LowercasesScalars) {vc : CadastroViewController}
    (hvalid : Valid P vc) :
    Proper (arguments vc) ↔ ∀ ch ∈ vc.emailTextField.toList, whitespaces ch = false := by
  constructor
  · rintro ⟨-, hspaces⟩ ch hch
    exact (Bool.or_eq_false_iff.mp (hspaces ch hch)).1
  · intro hblank
    obtain ⟨hemail, hnewlines⟩ :=
      CadastroController.isValidEmail_of_normalizedEmail hP hblank hvalid.isValidEmail
    exact ⟨hemail, fun ch hch ↦ Bool.or_eq_false_iff.mpr ⟨hblank ch hch, hnewlines ch hch⟩⟩

/-- One step: what has been submitted stays proper exactly if the step is unblanked. -/
theorem proper_step_iff (hP : P.LowercasesScalars) {s t : State} {a : Act}
    (hlabels : LabelsAgree P s.screen) (hstep : (machine P profilePic).step s a = some t) :
    (∀ arguments ∈ t.submitted, Proper arguments)
      ↔ (∀ arguments ∈ s.submitted, Proper arguments) ∧ Unblanked P s a := by
  cases a with
  | edit textField range string =>
    obtain ⟨screen, -, rfl⟩ := Option.map_eq_some_iff.mp hstep
    exact (and_iff_left trivial).symm
  | escolherImagem imagem =>
    obtain rfl := Option.some_inj.mp hstep
    exact (and_iff_left trivial).symm
  | press =>
    have hpress : step P s .press = some t := hstep
    rw [(press_eq_some hpress).2]
    by_cases hchecked : s.screen.checkFields.2 = true
    · have hvalid := hlabels.checkFields_iff.mp hchecked
      rw [if_pos hchecked, List.forall_mem_cons, proper_arguments_iff hP hvalid, and_comm]
      exact and_congr_right fun _ ↦ ⟨fun h _ ↦ h, fun h ↦ h hvalid⟩
    · rw [if_neg hchecked]
      have hunblanked : Unblanked P s .press :=
        fun hvalid ↦ absurd (hlabels.checkFields_iff.mpr hvalid) hchecked
      exact (and_iff_left hunblanked).symm

/-- **Every address submitted is valid and free of blanks** exactly if no valid form is sent with a
blank in the address. -/
theorem submitted_proper_iff (hP : P.LowercasesScalars) {acts : List Act} {s : State}
    (hrun : (machine P profilePic).run acts = some s) :
    (∀ arguments ∈ s.submitted, Proper arguments)
      ↔ (machine P profilePic).Allowed (Unblanked P) (machine P profilePic).start acts :=
  Machine.run_iff_allowed (I := fun s ↦ LabelsAgree P s.screen)
    (P := fun s ↦ ∀ arguments ∈ s.submitted, Proper arguments)
    (fun _ _ _ hlabels hstep ↦ hlabels.step hstep)
    (fun _ _ _ hlabels hstep ↦ proper_step_iff hP hlabels hstep) labelsAgree_initial
    (List.forall_mem_nil _) hrun

/-- The form is filled in, and the address typed in two parts. -/
def plainActs : List Act :=
  [.edit .nome ⟨0, 0⟩ "Ana", .edit .senha ⟨0, 0⟩ "s", .edit .email ⟨0, 0⟩ "Ab@cd.e", .press,
    .edit .email ⟨7, 0⟩ "f", .press]

theorem submitted_proper_iff_plainActs :
    ∃ s, (machine .scalarwise none).run plainActs = some s ∧
      s.submitted.map CadastroArguments.email = ["Ab@cd.ef"] ∧
      ∀ arguments ∈ s.submitted, Proper arguments := by
  have hrun : (machine .scalarwise none).run plainActs
      = some (((machine .scalarwise none).run plainActs).getD (initial none)) := by rfl
  exact ⟨_, hrun, by decide,
    (submitted_proper_iff scalarwise_lowercasesScalars hrun).mpr (by decide)⟩

/-- An address is pasted with a blank behind it, then another with a blank in it. -/
def blankActs : List Act :=
  [.edit .nome ⟨0, 0⟩ "Ana", .edit .senha ⟨0, 0⟩ "s", .edit .email ⟨0, 0⟩ "ab@cd.ef ", .press,
    .edit .email ⟨0, 9⟩ "a b@cd.ef", .press]

/-- Both are submitted as they are. The one is not valid, and both have a blank. -/
theorem blankActs_submitted :
    ∃ s, (machine .scalarwise none).run blankActs = some s ∧
      s.submitted.map CadastroArguments.email = ["a b@cd.ef", "ab@cd.ef "] ∧
      CadastroController.isValidEmail "ab@cd.ef " = false ∧
      ∀ arguments ∈ s.submitted, ¬Proper arguments :=
  ⟨((machine .scalarwise none).run blankActs).getD (initial none), by rfl, by decide, by decide,
    by decide⟩

end SignUp

end Poketrader
