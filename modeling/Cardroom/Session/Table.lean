import Cardroom.Session

/-!
# The session table

The slots of the server, numbered from zero.
-/

namespace Cardroom

structure SessionTable where
  slots : List Session
deriving DecidableEq, Repr

namespace SessionTable

def vacant (capacity : Nat) (now : Time) : SessionTable where
  slots := (List.range capacity).map fun id => Session.vacant id now

def capacity (table : SessionTable) : Nat :=
  table.slots.length

def occupied (table : SessionTable) : Nat :=
  table.slots.countP fun session => !session.isFree

def get? (id : Nat) (table : SessionTable) : Option Session :=
  table.slots[id]?

theorem get?_vacant {capacity id : Nat} {now : Time} {session : Session}
    (held : (vacant capacity now).get? id = some session) :
    session = Session.vacant id now := by
  rw [get?, vacant, List.getElem?_map] at held
  obtain ⟨place, found, rfl⟩ := Option.map_eq_some_iff.1 held
  obtain ⟨bound, rfl⟩ := List.getElem?_eq_some_iff.1 found
  rw [List.getElem_range]

/-- Changes one slot. There may be no slot of that number, and then nothing changes. -/
def modify (id : Nat) (change : Session → Session) (table : SessionTable) : SessionTable where
  slots := table.slots.modify id change

theorem get?_modify (id other : Nat) (change : Session → Session) (table : SessionTable) :
    (table.modify id change).get? other =
      if id = other then (table.get? other).map change else table.get? other := by
  simp only [get?, modify, List.getElem?_modify]
  split <;> simp

theorem modify_modify (id : Nat) (first second : Session → Session) (table : SessionTable) :
    (table.modify id first).modify id second = table.modify id (second ∘ first) := by
  simp only [modify, List.modify_modify_eq]

theorem modify_eq_self {id : Nat} {change : Session → Session} {table : SessionTable}
    (same : ∀ session, table.get? id = some session → change session = session) :
    table.modify id change = table := by
  have slots : (table.modify id change).slots = table.slots := by
    apply List.ext_getElem?
    intro index
    rw [modify, List.getElem?_modify]
    cases held : table.slots[index]? with
    | none =>
        rfl
    | some session =>
        by_cases here : id = index
        · subst here
          simp [same session held]
        · simp [here]
  cases table
  exact congrArg SessionTable.mk slots

/-- Changing several slots, each once. -/
theorem get?_foldl_modify {ids : List Nat} (distinct : ids.Nodup) (other : Nat)
    (change : Nat → Session → Session) (table : SessionTable) :
    (ids.foldl (fun table id => table.modify id (change id)) table).get? other =
      if other ∈ ids then (table.get? other).map (change other) else table.get? other := by
  induction ids generalizing table with
  | nil =>
      simp
  | cons id ids inductionHypothesis =>
      obtain ⟨absent, distinct⟩ := List.nodup_cons.1 distinct
      rw [List.foldl_cons, inductionHypothesis distinct, get?_modify]
      by_cases here : id = other
      · subst here
        simp [absent]
      · simp [here, Ne.symm here]

/-- Binds a new connection to the first free slot, if there is one. -/
def allocate? (connection : Nat) (now : Time) (table : SessionTable) :
    Option (Nat × SessionTable) :=
  (table.slots.findIdx? Session.isFree).map fun id =>
    (id, table.modify id fun _ =>
      { Session.vacant id now with connection := some connection })

/-- A slot that is given to a connection was free. -/
theorem allocate?_eq_some {connection id : Nat} {now : Time} {table after : SessionTable}
    (allocated : table.allocate? connection now = some (id, after)) :
    ∃ session, table.get? id = some session ∧ session.isFree ∧
      after = table.modify id fun _ =>
        { Session.vacant id now with connection := some connection } := by
  obtain ⟨place, first, equal⟩ := Option.map_eq_some_iff.1 allocated
  obtain ⟨rfl, rfl⟩ := Prod.mk.inj equal
  obtain ⟨bound, free, _⟩ := List.findIdx?_eq_some_iff_getElem.1 first
  exact ⟨table.slots[place], List.getElem?_eq_getElem bound, free, rfl⟩

def isBound (id connection : Nat) (table : SessionTable) : Bool :=
  (table.get? id).any fun session => session.connection == some connection

/-- Takes the connection away from a slot to which it is bound, and notes the time. -/
def detach (id connection : Nat) (now : Time) (table : SessionTable) : SessionTable :=
  if table.isBound id connection then
    table.modify id (Session.unbind now)
  else
    table

theorem detach_of_isBound {id connection : Nat} {now : Time} {table : SessionTable}
    (bound : table.isBound id connection) :
    table.detach id connection now = table.modify id (Session.unbind now) :=
  if_pos bound

def release (id : Nat) (now : Time) (table : SessionTable) : SessionTable :=
  table.modify id fun _ => Session.vacant id now

def findByNick? (nick : String) (table : SessionTable) : Option Nat :=
  (table.slots.find? fun session => session.nick == some nick).map Session.id

def timedOut (timeout now : Time) (table : SessionTable) : List Nat :=
  (table.slots.filter fun session => session.isTimedOut timeout now).map Session.id

def expired (timeout now : Time) (table : SessionTable) : List Nat :=
  (table.slots.filter fun session => session.graceExpired timeout now).map Session.id

def connections (table : SessionTable) : List Nat :=
  table.slots.filterMap Session.connection

def notify (id : Nat) (type : MessageType) (payload : String) (table : SessionTable)
    (outbox : Outbox) : Outbox :=
  match table.get? id with
  | some session => session.notify type payload outbox
  | none => outbox

end SessionTable

end Cardroom
