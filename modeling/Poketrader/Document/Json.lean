import Mathlib.Data.Int.Notation
import Mathlib.Tactic.Common

/-!
# JSON bodies and keyed decoding

What a typed decoder can see of a response body: nothing, when the bytes are not JSON, or a JSON
value. A decoder either produces a value or throws, and throwing is `none`.

A keyed container distinguishes two kinds of members. A required member must be present and of the
right type. An optional member may be missing or `null`, and then decodes to `none`; if it is
present with another type the whole decoding throws. The nesting of `Option` in `optional` is that
distinction.
-/

namespace Document

/-- A JSON value. Numbers that no integer represents are kept apart, without their value. -/
inductive Json where
  | null
  | bool (b : Bool)
  | number (n : ℤ)
  | fraction
  | string (s : String)
  | array (elements : List Json)
  | object (members : List (String × Json))

/-- The bytes of a response body. -/
inductive Data where
  | malformed
  | json (j : Json)

namespace Data

/-- No bytes at all, which is not a JSON text. -/
def empty : Data := malformed

/-- Parse and decode. -/
def decode {α : Type*} (decoder : Json → Option α) : Data → Option α
  | malformed => none
  | json j => decoder j

end Data

namespace Json

variable {α : Type*}

/-- A 64-bit integer. -/
def int : Json → Option ℤ
  | number n => if -0x8000000000000000 ≤ n ∧ n ≤ 0x7fffffffffffffff then some n else none
  | _ => none

def text : Json → Option String
  | string s => some s
  | _ => none

/-- An array, all of whose elements must decode. -/
def list (decoder : Json → Option α) : Json → Option (List α)
  | array elements => elements.mapM decoder
  | _ => none

/-- A required member of a keyed container. -/
def required (decoder : Json → Option α) (k : String) : Json → Option α
  | object members => (members.lookup k).bind decoder
  | _ => none

/-- An optional member of a keyed container. -/
def optional (decoder : Json → Option α) (k : String) : Json → Option (Option α)
  | object members =>
    match members.lookup k with
    | none => some none
    | some null => some none
    | some j => (decoder j).map some
  | _ => none

end Json

end Document
