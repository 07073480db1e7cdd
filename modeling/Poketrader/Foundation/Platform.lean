import Mathlib.Tactic.Common

/-!
# The platform

The parts of Foundation the application calls and does not define: which texts `URL(string:)`
accepts, how a text divides into characters, and the two case mappings. What is proved below
holds whatever they are, unless it names what it asks of one of them.
-/

namespace Foundation

structure Platform where
  /-- `URL(string:)` accepts the text. -/
  validURL : String → Bool
  /-- The characters of a text, each of which may consist of several Unicode scalars. -/
  characters : String → List String
  uppercased : String → String
  lowercased : String → String

namespace Platform

variable (P : Platform)

/-- `URL(string:)`. A URL is represented by its text. -/
def URL (text : String) : Option String := if P.validURL text then some text else none

@[simp] theorem URL_eq_some_iff {text url : String} :
    P.URL text = some url ↔ P.validURL text = true ∧ text = url := by
  rw [URL]
  split
  · next h => rw [Option.some_inj, and_iff_right h]
  · next h => exact iff_of_false (by simp) fun hurl ↦ h hurl.1

theorem URL_of_validURL {text : String} (h : P.validURL text = true) : P.URL text = some text :=
  if_pos h

theorem URL_of_not_validURL {text : String} (h : P.validURL text ≠ true) : P.URL text = none :=
  if_neg h

theorem isSome_URL_iff {text : String} : (P.URL text).isSome = true ↔ P.validURL text = true := by
  by_cases h : P.validURL text = true
  · rw [P.URL_of_validURL h]
    exact iff_of_true rfl h
  · rw [P.URL_of_not_validURL h]
    exact iff_of_false Bool.false_ne_true h

/-- `String.capitalizingFirstLetter`. -/
def capitalizingFirstLetter (text : String) : String :=
  P.uppercased (String.join ((P.characters text).take 1))
    ++ String.join ((P.characters (P.lowercased text)).drop 1)

/-- A platform for texts of ASCII letters and for URLs without blanks. -/
def ascii : Platform where
  validURL text := !text.isEmpty && text.toList.all fun ch ↦ ch != ' '
  characters text := text.toList.map String.singleton
  uppercased text := text.toUpper
  lowercased text := text.toLower

/-- The same platform with the case mappings taken scalar by scalar, so that they evaluate. -/
def scalarwise : Platform where
  validURL := ascii.validURL
  characters := ascii.characters
  uppercased text := String.ofList (text.toList.map Char.toUpper)
  lowercased text := String.ofList (text.toList.map Char.toLower)

end Platform

end Foundation
