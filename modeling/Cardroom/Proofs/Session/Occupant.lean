import Cardroom.Proofs.Session.Change
import Cardroom.Session.Login
import Cardroom.Session.Table

/-!
# Who holds a slot

Of all that a session notes, four fields say who holds the slot: the connection, the name, the token,
and since when the player is away. Little of what the server does changes them, and so they are
looked at apart from the rest.
-/

namespace Cardroom

/-- Who holds a slot. -/
structure Occupant where
  connection : Option Nat := none
  nick : Option String := none
  token : Option String := none
  awaySince : Option Time := none
deriving DecidableEq, Repr

namespace Occupant

def nobody : Occupant := {}

/-- A connection holds the slot, and nobody has logged in on it. -/
def stranger (connection : Nat) : Occupant where
  connection := some connection

def logIn (nick token : String) (occupant : Occupant) : Occupant :=
  { occupant with nick := some nick, token := some token }

/-- The connection is lost. A player is expected back, and nobody else is. -/
def leave (now : Time) (occupant : Occupant) : Occupant :=
  if occupant.nick.isSome then { occupant with connection := none, awaySince := some now }
  else nobody

def comeBack (connection : Nat) (occupant : Occupant) : Occupant :=
  { occupant with connection := some connection, awaySince := none }

end Occupant

def Session.occupant (session : Session) : Occupant where
  connection := session.connection
  nick := session.nick
  token := session.token
  awaySince := session.disconnectedAt

theorem Session.SameButStatus.occupant_eq {before after : Session}
    (same : before.SameButStatus after) :
    after.occupant = before.occupant := by
  rw [same.eq]
  rfl

namespace SessionTable

def occupants (table : SessionTable) : List Occupant :=
  table.slots.map Session.occupant

variable {table : SessionTable} {id : Nat} {change : Session → Session}

theorem getElem?_occupants (id : Nat) (table : SessionTable) :
    table.occupants[id]? = (table.get? id).map Session.occupant :=
  List.getElem?_map

theorem occupants_modify {update : Occupant → Occupant}
    (alike : ∀ session, table.get? id = some session →
      (change session).occupant = update session.occupant) :
    (table.modify id change).occupants = table.occupants.modify id update := by
  apply List.ext_getElem?
  intro other
  rw [getElem?_occupants, get?_modify, List.getElem?_modify, getElem?_occupants]
  by_cases here : id = other
  · subst here
    rw [if_pos rfl]
    cases held : table.get? id with
    | none =>
        rfl
    | some session =>
        simp [alike session held]
  · simp [here]

theorem occupants_modify_eq_self
    (same : ∀ session, (change session).occupant = session.occupant) :
    (table.modify id change).occupants = table.occupants := by
  have alike : (table.modify id change).occupants = table.occupants.modify id fun occupant => occupant :=
    occupants_modify fun session _ => same session
  rw [alike]
  apply List.ext_getElem?
  intro other
  rw [List.getElem?_modify]
  simp

end SessionTable

end Cardroom
