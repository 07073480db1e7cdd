import Mathlib.Data.List.Flatten
import Poketrader.Controller.CadastroController
import Poketrader.Regex.Language

/-!
# The addresses the sign-up form accepts

The expression for an address is nested and ambiguous. What it accepts is plain: a local part whose
full stops and underscores stand alone, an at sign, and labels of letters. The word boundary in
front keeps only blanks from being first; the one at the end always holds, behind a letter.
-/

namespace Poketrader

namespace CadastroController

/-- Full stop or underscore. -/
def separator (c : Char) : Bool := c = '.' || c = '_'

/-- What stands before the at sign. -/
structure LocalPart (l : List Char) : Prop where
  length : 2 ≤ l.length
  mem : ∀ c ∈ l, c.isAlpha = true ∨ c.isDigit = true ∨ c = ' ' ∨ c = '.' ∨ c = '_'
  first : ∃ c ∈ l.head?, c.isAlpha = true ∨ c.isDigit = true
  last : ∀ c ∈ l.getLast?, c ≠ '.' ∧ c ≠ '_'
  apart : l.IsChain fun c c' ↦ ¬((c = '.' ∨ c = '_') ∧ (c' = '.' ∨ c' = '_'))

/-- What stands after the at sign: labels of letters, each but the first of at least two. -/
def Domain (d : List Char) : Prop :=
  ∃ labels : List (List Char), 2 ≤ labels.length ∧ d = ['.'].intercalate labels ∧
    (∀ label ∈ labels, label ≠ [] ∧ ∀ c ∈ label, c.isAlpha = true) ∧
    ∀ label ∈ labels.tail, 2 ≤ label.length

/-- Every character is an ASCII character. -/
def Ascii (s : List Char) : Prop := ∀ c ∈ s, c.toNat < 128

/-! ## Sets of characters -/

/-- Among the ASCII characters, the letters of the expression are the letters. -/
theorem letters_eq {c : Char} (h : c.toNat < 128) : letters c = c.isAlpha := by
  have hlong : c ≠ 'ſ' := by
    rintro rfl
    exact absurd h (by decide)
  have hkelvin : c ≠ '\u212A' := by
    rintro rfl
    exact absurd h (by decide)
  rw [letters, decide_eq_false hlong, decide_eq_false hkelvin, Bool.or_false, Bool.or_false]

theorem separator_iff {c : Char} : separator c = true ↔ c = '.' ∨ c = '_' := by
  rw [separator, Bool.or_eq_true, decide_eq_true_iff, decide_eq_true_iff]

theorem separator_of_lettersBlankDigits (c : Char) (h : lettersBlankDigits c = true) :
    separator c = false := by
  rw [← Bool.not_eq_true, separator_iff]
  rintro (rfl | rfl)
  · exact absurd h (by decide)
  · exact absurd h (by decide)

theorem lettersBlankDigits_iff {c : Char} (h : c.toNat < 128) :
    lettersBlankDigits c = true ↔ c.isAlpha = true ∨ c.isDigit = true ∨ c = ' ' := by
  rw [lettersBlankDigits, letters_eq h, Bool.or_eq_true, Bool.or_eq_true, decide_eq_true_iff,
    or_assoc, or_comm (a := c = ' ')]

/-- A member of the set that is in a word is anything but a blank. -/
theorem word_member_iff {c : Char} (h : c.toNat < 128) :
    wordCharacters c = true ∧ lettersBlankDigits c = true ↔
      c.isAlpha = true ∨ c.isDigit = true := by
  rw [lettersBlankDigits_iff h, wordCharacters, letters_eq h, Bool.or_eq_true, Bool.or_eq_true,
    decide_eq_true_iff]
  constructor
  · rintro ⟨hword, halpha | hdigit | rfl⟩
    · exact .inl halpha
    · exact .inr hdigit
    · exact absurd hword (by decide)
  · rintro (halpha | hdigit)
    · exact ⟨.inl (.inl halpha), .inl halpha⟩
    · exact ⟨.inl (.inr hdigit), .inr (.inl hdigit)⟩

/-! ## The local part -/

/-- `([a-z 0-9]+)((\.|_)?([a-z 0-9]+))+` -/
def localRegEx : Regex Char :=
  .seq (.plus (.letter lettersBlankDigits)) <|
  .plus (.seq (.opt (.alt (.letter (· = '.')) (.letter (· = '_'))))
    (.plus (.letter lettersBlankDigits)))

theorem accepts_letter_eq_iff {c : Char} {w : List Char} :
    (Regex.letter fun x ↦ decide (x = c)).Accepts w ↔ w = [c] := by
  rw [Regex.Accepts, Regex.matches_letter_iff]
  constructor
  · rintro ⟨x, hx, rfl⟩
    rw [of_decide_eq_true hx]
  · rintro rfl
    exact ⟨c, decide_eq_true rfl, rfl⟩

theorem accepts_separator_iff (w : List Char) :
    (Regex.alt (.letter (· = '.')) (.letter (· = '_'))).Accepts w ↔
      ∃ x, separator x = true ∧ w = [x] := by
  rw [Regex.Accepts, Regex.matches_alt_iff, ← Regex.Accepts, ← Regex.Accepts,
    accepts_letter_eq_iff, accepts_letter_eq_iff]
  constructor
  · rintro (rfl | rfl)
    · exact ⟨'.', by decide, rfl⟩
    · exact ⟨'_', by decide, rfl⟩
  · rintro ⟨x, hx, rfl⟩
    rcases separator_iff.mp hx with rfl | rfl
    · exact .inl rfl
    · exact .inr rfl

theorem accepts_localRegEx_iff {l : List Char} : localRegEx.Accepts l ↔
    2 ≤ l.length ∧ (∃ x ∈ l.head?, lettersBlankDigits x = true) ∧
      Regex.Separated lettersBlankDigits separator l :=
  Regex.accepts_separated_iff separator_of_lettersBlankDigits ⟨trivial, trivial⟩
    accepts_separator_iff

/-- A word of the expression that begins with a character of words is a local part. -/
theorem localPart_iff {l : List Char} (hascii : Ascii l) :
    LocalPart l ↔ l.head?.any wordCharacters = true ∧ localRegEx.Accepts l := by
  rw [accepts_localRegEx_iff]
  constructor
  · rintro ⟨hlength, hmem, ⟨c, hhead, hc⟩, hlast, hapart⟩
    obtain ⟨hword, hmember⟩ :=
      (word_member_iff (hascii c (List.mem_of_mem_head? hhead))).mpr hc
    refine ⟨?_, hlength, ⟨c, hhead, hmember⟩, ?_, ?_, ?_⟩
    · rw [Option.mem_def.mp hhead]
      exact hword
    · intro x hx
      rw [lettersBlankDigits_iff (hascii x hx), separator_iff, or_assoc, or_assoc]
      exact hmem x hx
    · exact hapart.imp fun x y hxy ↦ by rwa [separator_iff, separator_iff]
    · intro x hx
      rw [← Bool.not_eq_true, separator_iff]
      exact not_or.mpr (hlast x hx)
  · rintro ⟨hword, hlength, ⟨c, hhead, hmember⟩, hmem, hapart, hlast⟩
    rw [Option.mem_def.mp hhead, Option.any_some] at hword
    refine ⟨hlength, ?_, ⟨c, hhead, ?_⟩, ?_, ?_⟩
    · intro x hx
      have hx' := hmem x hx
      rwa [lettersBlankDigits_iff (hascii x hx), separator_iff, or_assoc, or_assoc] at hx'
    · exact (word_member_iff (hascii c (List.mem_of_mem_head? hhead))).mp ⟨hword, hmember⟩
    · intro x hx
      have hx' := hlast x hx
      rw [← Bool.not_eq_true, separator_iff] at hx'
      exact not_or.mp hx'
    · exact hapart.imp fun x y hxy ↦ by rwa [separator_iff, separator_iff] at hxy

/-! ## The domain -/

/-- `([a-z]+)(\.([a-z]{2,}))+` -/
def domainRegEx : Regex Char :=
  .seq (.plus (.letter letters)) <|
  .plus (.seq (.letter (· = '.')) (.twoOrMore (.letter letters)))

/-- Labels joined by full stops: a first one, and each of the others behind its full stop. -/
theorem intercalate_cons (first : List Char) (rest : List (List Char)) :
    ['.'].intercalate (first :: rest) = first ++ (rest.map ('.' :: ·)).flatten := by
  induction rest generalizing first with
  | nil => rw [List.intercalate_singleton, List.map_nil, List.flatten_nil, List.append_nil]
  | cons label rest ih =>
    rw [List.intercalate_cons_cons, ih, List.map_cons, List.flatten_cons, List.append_assoc]
    rfl

theorem accepts_label_iff {p : List Char} :
    (Regex.seq (.letter (· = '.')) (.twoOrMore (.letter letters))).Accepts p ↔
      ∃ label, p = '.' :: label ∧ 2 ≤ label.length ∧ ∀ c ∈ label, letters c = true := by
  have hletter : Regex.Plain (.letter fun c : Char ↦ decide (c = '.')) := trivial
  have hlabel : Regex.Plain (.twoOrMore (.letter letters)) := ⟨trivial, trivial, trivial⟩
  rw [hletter.accepts_seq_iff hlabel]
  simp only [accepts_letter_eq_iff, Regex.accepts_twoOrMore_letter_iff]
  constructor
  · rintro ⟨-, label, rfl, rfl, hlabel⟩
    exact ⟨label, rfl, hlabel⟩
  · rintro ⟨label, rfl, hlabel⟩
    exact ⟨['.'], label, rfl, rfl, hlabel⟩

/-- Pieces that each begin with a full stop, taken apart. -/
theorem exists_labels {P : List Char → Prop} {pieces : List (List Char)}
    (h : ∀ p ∈ pieces, ∃ label, p = '.' :: label ∧ P label) :
    ∃ labels : List (List Char), pieces = labels.map ('.' :: ·) ∧ ∀ label ∈ labels, P label := by
  induction pieces with
  | nil => exact ⟨[], rfl, fun label hlabel ↦ absurd hlabel List.not_mem_nil⟩
  | cons p pieces ih =>
    obtain ⟨⟨label, rfl, hlabel⟩, hpieces⟩ := List.forall_mem_cons.mp h
    obtain ⟨labels, rfl, hlabels⟩ := ih hpieces
    exact ⟨label :: labels, rfl, List.forall_mem_cons.mpr ⟨hlabel, hlabels⟩⟩

theorem accepts_domainRegEx_iff {d : List Char} : domainRegEx.Accepts d ↔
    ∃ first rest, rest ≠ [] ∧ d = ['.'].intercalate (first :: rest) ∧
      (first ≠ [] ∧ ∀ c ∈ first, letters c = true) ∧
      ∀ label ∈ rest, 2 ≤ label.length ∧ ∀ c ∈ label, letters c = true := by
  have hfirst : Regex.Plain (.plus (.letter letters)) := ⟨trivial, trivial⟩
  have hlabel : Regex.Plain (.seq (.letter fun c : Char ↦ decide (c = '.'))
    (.twoOrMore (.letter letters))) := ⟨trivial, trivial, trivial, trivial⟩
  have hlabels : Regex.Plain (.plus (.seq (.letter fun c : Char ↦ decide (c = '.'))
    (.twoOrMore (.letter letters)))) := ⟨hlabel, hlabel⟩
  rw [domainRegEx, hfirst.accepts_seq_iff hlabels]
  simp only [hlabel.accepts_plus_iff, Regex.accepts_plus_letter_iff, accepts_label_iff]
  constructor
  · rintro ⟨first, -, rfl, hfirst, pieces, hne, rfl, hpieces⟩
    obtain ⟨rest, rfl, hrest⟩ := exists_labels hpieces
    exact ⟨first, rest, by simpa using hne, (intercalate_cons first rest).symm, hfirst, hrest⟩
  · rintro ⟨first, rest, hne, rfl, hfirst, hrest⟩
    refine ⟨first, (rest.map ('.' :: ·)).flatten, intercalate_cons first rest, hfirst,
      rest.map ('.' :: ·), by simpa using hne, rfl, ?_⟩
    intro p hp
    obtain ⟨label, hlabel, rfl⟩ := List.mem_map.mp hp
    exact ⟨label, rfl, hrest label hlabel⟩

theorem mem_intercalate {labels : List (List Char)} {label : List Char} (hlabel : label ∈ labels)
    {c : Char} (hc : c ∈ label) : c ∈ ['.'].intercalate labels := by
  rcases labels with - | ⟨first, rest⟩
  · exact absurd hlabel List.not_mem_nil
  · rw [intercalate_cons, List.mem_append]
    rcases List.mem_cons.mp hlabel with rfl | hrest
    · exact .inl hc
    · refine .inr (List.mem_flatten.mpr ⟨'.' :: label, ?_, List.mem_cons_of_mem '.' hc⟩)
      exact List.mem_map.mpr ⟨label, hrest, rfl⟩

/-- The words of the expression are the domains. -/
theorem domain_iff {d : List Char} (hascii : Ascii d) : Domain d ↔ domainRegEx.Accepts d := by
  rw [accepts_domainRegEx_iff]
  constructor
  · rintro ⟨labels, hlength, rfl, hlabels, htail⟩
    rcases labels with - | ⟨first, rest⟩
    · exact absurd hlength (by simp)
    · have hletters : ∀ label ∈ first :: rest, ∀ c ∈ label, letters c = true := by
        intro label hlabel c hc
        rw [letters_eq (hascii c (mem_intercalate hlabel hc))]
        exact (hlabels label hlabel).2 c hc
      have hne : rest ≠ [] := List.length_pos_iff.mp (Nat.le_of_succ_le_succ hlength)
      exact ⟨first, rest, hne, rfl,
        ⟨(hlabels first List.mem_cons_self).1, hletters first List.mem_cons_self⟩,
        fun label hlabel ↦ ⟨htail label hlabel, hletters label (List.mem_cons_of_mem first hlabel)⟩⟩
  · rintro ⟨first, rest, hne, rfl, ⟨hfirst, hletters⟩, hrest⟩
    refine ⟨first :: rest, ?_, rfl, ?_, fun label hlabel ↦ (hrest label hlabel).1⟩
    · exact Nat.succ_le_succ (List.length_pos_iff.mpr hne)
    · have halpha : ∀ label ∈ first :: rest, (∀ c ∈ label, letters c = true) →
          ∀ c ∈ label, c.isAlpha = true := by
        intro label hlabel hletters c hc
        rw [← letters_eq (hascii c (mem_intercalate hlabel hc))]
        exact hletters c hc
      refine List.forall_mem_cons.mpr ⟨⟨hfirst, halpha first List.mem_cons_self hletters⟩, ?_⟩
      intro label hlabel
      obtain ⟨hlength, hletters⟩ := hrest label hlabel
      exact ⟨List.length_pos_iff.mp (Nat.zero_lt_of_lt hlength),
        halpha label (List.mem_cons_of_mem first hlabel) hletters⟩

/-- A word of the expression ends in a letter, so the boundary behind it holds. -/
theorem preceding_word_of_accepts {d : List Char} (h : domainRegEx.Accepts d)
    (before : Option Char) : (Regex.preceding before d).any wordCharacters = true := by
  obtain ⟨first, rest, hne, rfl, -, hrest⟩ := accepts_domainRegEx_iff.mp h
  obtain ⟨init, label, rfl⟩ : ∃ init label, rest = init ++ [label] :=
    ⟨_, _, (List.dropLast_append_getLast hne).symm⟩
  obtain ⟨hlength, hletters⟩ := hrest label (by simp)
  obtain ⟨front, c, rfl⟩ : ∃ front c, label = front ++ [c] :=
    ⟨_, _, (List.dropLast_append_getLast (List.length_pos_iff.mp (Nat.zero_lt_of_lt hlength))).symm⟩
  have hlast : ['.'].intercalate (first :: (init ++ [front ++ [c]]))
      = first ++ (init.map ('.' :: ·)).flatten ++ '.' :: front ++ [c] := by
    rw [intercalate_cons]
    simp
  have hc : letters c = true := hletters c (by simp)
  rw [hlast, Regex.preceding, List.getLast?_concat, Option.some_or, Option.any_some, wordCharacters,
    hc]
  rfl

/-! ## The address -/

/-- What the expression says, with the boundary at the end left out. -/
theorem isValidEmail_iff_accepts {email : String} : isValidEmail email = true ↔
    email.toList.head?.any wordCharacters = true ∧
      ∃ l d, email.toList = l ++ '@' :: d ∧ localRegEx.Accepts l ∧ domainRegEx.Accepts d := by
  have hmember : Regex.Plain (.plus (.letter lettersBlankDigits)) := ⟨trivial, trivial⟩
  have hpiece : Regex.Plain (.plus (.seq (.opt (.alt (.letter fun c : Char ↦ decide (c = '.'))
      (.letter fun c : Char ↦ decide (c = '_')))) (.plus (.letter lettersBlankDigits)))) :=
    ⟨⟨⟨⟨trivial, trivial⟩, trivial⟩, hmember⟩, ⟨⟨trivial, trivial⟩, trivial⟩, hmember⟩
  have hat : Regex.Plain (.letter fun c : Char ↦ decide (c = '@')) := trivial
  have hfirst : Regex.Plain (.plus (.letter letters)) := ⟨trivial, trivial⟩
  have hlabels : Regex.Plain (.plus (.seq (.letter fun c : Char ↦ decide (c = '.'))
      (.twoOrMore (.letter letters)))) := ⟨⟨trivial, trivial, hfirst⟩, trivial, trivial, hfirst⟩
  have hboundary : (none.any wordCharacters
      != (Regex.following email.toList none).any wordCharacters) = true ↔
      email.toList.head?.any wordCharacters = true := by
    rw [Regex.following, Option.or_none, Option.any_none, Bool.false_bne]
  rw [isValidEmail, Regex.test_iff, emailRegEx, Regex.matches_seq_wordBoundary_iff, hboundary,
    hmember.matches_seq_seq_iff hpiece]
  simp only [hat.matches_seq_iff, hfirst.matches_seq_seq_wordBoundary_iff hlabels,
    accepts_letter_eq_iff]
  refine and_congr_right fun _ ↦ ?_
  constructor
  · rintro ⟨l, -, hemail, hl, -, d, rfl, rfl, hd, -⟩
    exact ⟨l, d, hemail, hl, hd⟩
  · rintro ⟨l, d, hemail, hl, hd⟩
    exact ⟨l, _, hemail, hl, ['@'], d, rfl, rfl, hd, preceding_word_of_accepts hd _⟩

/-- **The language of the validator:** a local part, an at sign, and a domain. -/
theorem isValidEmail_iff {email : String} (hascii : Ascii email.toList) :
    isValidEmail email = true ↔ ∃ l d, email.toList = l ++ '@' :: d ∧ LocalPart l ∧ Domain d := by
  rw [isValidEmail_iff_accepts]
  have hparts : ∀ l d, email.toList = l ++ '@' :: d → Ascii l ∧ Ascii d := by
    intro l d hemail
    refine ⟨fun c hc ↦ hascii c ?_, fun c hc ↦ hascii c ?_⟩
    · rw [hemail]
      exact List.mem_append_left _ hc
    · rw [hemail]
      exact List.mem_append_right _ (List.mem_cons_of_mem '@' hc)
  -- a local part is not empty, so the address begins with its first character
  have hhead : ∀ l d, email.toList = l ++ '@' :: d → l ≠ [] →
      email.toList.head? = l.head? := by
    intro l d hemail hne
    rw [hemail, List.head?_append_of_ne_nil l hne]
  constructor
  · rintro ⟨hword, l, d, hemail, hl, hd⟩
    obtain ⟨hasciil, hasciid⟩ := hparts l d hemail
    have hne : l ≠ [] :=
      List.length_pos_iff.mp (Nat.zero_lt_of_lt (accepts_localRegEx_iff.mp hl).1)
    rw [hhead l d hemail hne] at hword
    exact ⟨l, d, hemail, (localPart_iff hasciil).mpr ⟨hword, hl⟩, (domain_iff hasciid).mpr hd⟩
  · rintro ⟨l, d, hemail, hl, hd⟩
    obtain ⟨hasciil, hasciid⟩ := hparts l d hemail
    have hne : l ≠ [] := List.length_pos_iff.mp (Nat.zero_lt_of_lt hl.length)
    obtain ⟨hword, hl⟩ := (localPart_iff hasciil).mp hl
    rw [hhead l d hemail hne]
    exact ⟨hword, l, d, hemail, hl, (domain_iff hasciid).mp hd⟩

/-- An address with a blank, a full stop and an underscore in its local part. -/
def sampleAddress : String := "a b.c_d@pok.trade"

theorem isValidEmail_iff_sampleAddress : isValidEmail sampleAddress = true ∧
    (isValidEmail sampleAddress = true ↔
      ∃ l d, sampleAddress.toList = l ++ '@' :: d ∧ LocalPart l ∧ Domain d) := by
  have hascii : (sampleAddress.toList.all fun c ↦ c.toNat < 128) = true := by decide
  exact ⟨by decide, isValidEmail_iff fun c hc ↦ of_decide_eq_true (List.all_eq_true.mp hascii c hc)⟩

end CadastroController

end Poketrader
