import Mathlib.Data.List.Forall2
import Poketrader.Offers.Store

/-!
# The two loaders side by side

Both loaders decode the same documents into the same kind of offer. Of the stored form they take
the same twelve things; the contact is the stored one in the list everybody sees, and that of the
session in the user's own list, where it can differ from what the user's offers show to others.
-/

open Std (ExtTreeMap)
open Document

namespace Poketrader

/-- The documents of a user in the collection, in the order of the whole. -/
def documentsOf (user : AuthUser) (t : Collection) : List (String × Fields) :=
  t.toList.filter fun doc ↦ doc.2.string "uid" = some user.uid

/-- Two views of one offer that differ in the key, which only the second has, and in the contact,
which is that of the session in the second. -/
structure AgreeButContact (user : AuthUser) (shared own : OfertaElement) : Prop where
  eq : own = { shared with id := own.id, email := user.email, telefone := user.phoneNumber }
  shared_id : shared.id = none
  own_id : own.id.isSome = true

theorem agreeButContact (user : AuthUser) (id : String) (o : Offer) :
    AgreeButContact user o.view (o.ownView (some user) id) where
  eq := rfl
  shared_id := rfl
  own_id := rfl

/-- The seller of the sample offer after a change of the e-mail address. -/
def movedUser : AuthUser := { sampleUser with email := some "new@mail.com" }

def sampleSave : List Call := [.saveOffer (some sampleUser) "key-1" sampleArguments]

end Poketrader
