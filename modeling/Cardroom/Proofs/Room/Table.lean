import Cardroom.Room.Table

/-!
# What happens to a room

Each operation on the room table changes one room at most. The theorems say for each operation when
it is granted, what becomes of the room, and that the other rooms stay as they are.
-/

namespace Cardroom

namespace Room

theorem isMember_iff {session : Nat} {room : Room} :
    room.isMember session ↔ session ∈ room.memberIds := by
  simp [isMember, memberIds, List.mem_map]

theorem length_memberIds (room : Room) : room.memberIds.length = room.members.length := by
  simp [memberIds]

/-- The members who stay when one leaves. -/
theorem map_session_filter (session : Nat) (room : Room) :
    (room.members.filter fun member => member.session != session).map Member.session =
      room.others session := by
  simp [others, memberIds, List.filter_map, Function.comp_def]

/-- What is left of a room when a member leaves it. With its last member the room goes. -/
def left? (session : Nat) (room : Room) : Option Room :=
  (room.others session).min?.map fun lowest =>
    refreshStatus
      { room with
        members := room.members.filter fun member => member.session != session
        game := none
        status := .waiting
        owner := if room.owner = session then lowest else room.owner }

theorem left?_eq_none {session : Nat} {room : Room} :
    room.left? session = none ↔ room.others session = [] := by
  rw [left?, Option.map_eq_none_iff, List.min?_eq_none_iff]

theorem left?_eq_some {session : Nat} {room left : Room} (stays : room.left? session = some left) :
    left.id = room.id ∧ left.memberIds = room.others session ∧ left.game = none ∧
      left.status ≠ .playing ∧ left.status ≠ .finished := by
  obtain ⟨lowest, -, rfl⟩ := Option.map_eq_some_iff.1 stays
  refine ⟨by simp, ?_, by simp, ?_, ?_⟩
  · rw [memberIds, refreshStatus_members]
    exact map_session_filter session room
  · rw [ne_eq, refreshStatus_status_eq_iff _ (.inl rfl)]
    exact Room.Status.noConfusion
  · rw [ne_eq, refreshStatus_status_eq_iff _ (.inr rfl)]
    exact Room.Status.noConfusion

/-- Whether a member is ready does not matter for who the members are. -/
theorem map_session_modify (place : Nat) (ready : Bool) (room : Room) :
    (room.members.modify place fun member => { member with ready }).map Member.session =
      room.memberIds := by
  apply List.ext_getElem?
  intro index
  simp only [memberIds, List.getElem?_map, List.getElem?_modify]
  cases room.members[index]? with
  | none =>
      rfl
  | some member =>
      by_cases here : place = index <;> simp [here]

end Room

namespace RoomTable

section

variable {id : Nat} {table : RoomTable}

theorem get?_set_of_ne {other : Nat} (different : id ≠ other) (room : Option Room) :
    (table.set id room).get? other = table.get? other := by
  rw [get?, set, List.getElem?_set_ne different, get?]

/-- A slot that is changed or freed is there, if a room was in it. -/
theorem get?_set_of_bind {found : Option Room} (there : table.get? id = found)
    (change : Room → Option Room) :
    (table.set id (found.bind change)).get? id = found.bind change := by
  subst there
  cases found : table.get? id with
  | none =>
      exact (get?_set_none id id table).trans (if_pos rfl)
  | some room =>
      show (table.set id (change room)).get? id = change room
      cases change room with
      | none =>
          exact (get?_set_none id id table).trans (if_pos rfl)
      | some changed =>
          exact get?_set_self (lt_length_of_get? found) changed

theorem set_set (id : Nat) (first second : Option Room) (table : RoomTable) :
    (table.set id first).set id second = table.set id second :=
  congrArg RoomTable.mk (List.set_set first)

theorem set_comm {id other : Nat} (different : id ≠ other) (first second : Option Room)
    (table : RoomTable) :
    (table.set id first).set other second = (table.set other second).set id first :=
  congrArg RoomTable.mk (List.set_comm first second different)

theorem modify_eq_set {room : Room} (found : table.get? id = some room) (change : Room → Room) :
    table.modify id change = table.set id (some (change room)) := by
  have held : table.slots[id]? = some (some room) := Option.join_eq_some_iff.1 found
  refine congrArg RoomTable.mk (List.ext_getElem? fun index => ?_)
  rw [List.getElem?_modify, List.getElem?_set]
  by_cases here : id = index
  · subst here
    rw [held, if_pos rfl, if_pos (lt_length_of_get? found)]
    simp
  · simp [here]

end

/-- Two tables that differ in one room at most. -/
def EqExcept (id : Nat) (before after : RoomTable) : Prop :=
  ∀ other, other ≠ id → after.get? other = before.get? other

theorem EqExcept.trans {id : Nat} {first second third : RoomTable}
    (before : first.EqExcept id second) (after : second.EqExcept id third) :
    first.EqExcept id third :=
  fun other different => (after other different).trans (before other different)

theorem eqExcept_set_none (id : Nat) (table : RoomTable) :
    table.EqExcept id (table.set id none) := by
  intro other different
  rw [get?_set_none, if_neg (Ne.symm different)]

theorem eqExcept_set_some {id : Nat} {table : RoomTable} (bound : id < table.slots.length)
    (room : Room) :
    table.EqExcept id (table.set id (some room)) := by
  intro other different
  rw [get?_set_some bound, if_neg (Ne.symm different)]

theorem eqExcept_modify (id : Nat) (change : Room → Room) (table : RoomTable) :
    table.EqExcept id (table.modify id change) := by
  intro other different
  rw [get?_modify, if_neg (Ne.symm different)]

theorem modify_eq_self {id : Nat} {change : Room → Room} {table : RoomTable}
    (same : ∀ room, table.get? id = some room → change room = room) :
    table.modify id change = table := by
  have slots : (table.modify id change).slots = table.slots := by
    apply List.ext_getElem?
    intro index
    rw [modify, List.getElem?_modify]
    by_cases here : id = index
    · subst here
      cases held : table.slots[id]? with
      | none =>
          rfl
      | some slot =>
          cases slot with
          | none =>
              simp
          | some room =>
              have found : table.get? id = some room := congrArg Option.join held
              simp [same room found]
    · simp [here]
  cases table
  exact congrArg RoomTable.mk slots

/-- A room is opened in a slot that was free. -/
theorem create_eq_ok {name : String} {creator id : Nat} {table after : RoomTable}
    (granted : table.create name creator = .ok (id, after)) :
    table.get? id = none ∧ table.EqExcept id after ∧
      after.get? id = some (Room.opened id name creator) := by
  unfold create at granted
  split at granted
  · cases granted
  · split at granted
    · cases granted
    · next place first =>
        cases granted
        obtain ⟨bound, free, _⟩ := List.findIdx?_eq_some_iff_getElem.1 first
        refine ⟨?_, eqExcept_set_some bound _, ?_⟩
        · rw [get?, List.getElem?_eq_getElem bound, Option.isNone_iff_eq_none.1 free]
          rfl
        · exact get?_set_self bound _

/-- A newcomer comes last, and only to a room with a free place in which no match has begun. -/
theorem join_eq_ok {id session : Nat} {table after : RoomTable}
    (granted : table.join id session = .ok after) :
    ∃ room joined,
      table.get? id = some room ∧ session ∉ room.memberIds ∧
        room.status ≠ .playing ∧ room.status ≠ .finished ∧
        room.members.length < Room.places ∧
        table.EqExcept id after ∧ after.get? id = some joined ∧
        joined.id = room.id ∧ joined.memberIds = room.memberIds ++ [session] ∧
        joined.game = room.game ∧ joined.status ≠ .playing ∧ joined.status ≠ .finished := by
  unfold join at granted
  split at granted
  · cases granted
  · next room found =>
      split at granted
      · cases granted
      · next stranger =>
          split at granted
          · cases granted
          · next early =>
              split at granted
              · cases granted
              · next space =>
                  cases granted
                  have bound := lt_length_of_get? found
                  have idle : room.status ≠ .playing ∧ room.status ≠ .finished :=
                    not_or.1 early
                  refine ⟨room, _, found, fun member => stranger (Room.isMember_iff.2 member),
                    idle.1, idle.2, Nat.lt_of_not_le space, eqExcept_set_some bound _,
                    get?_set_self bound _, by simp, by simp [Room.memberIds], by simp, ?_, ?_⟩
                  · rw [ne_eq, Room.refreshStatus_status_eq_iff _ (.inl rfl)]
                    exact idle.1
                  · rw [ne_eq, Room.refreshStatus_status_eq_iff _ (.inr rfl)]
                    exact idle.2

theorem leave_eqExcept {id session : Nat} {owner : Option Nat} {table after : RoomTable}
    (granted : table.leave id session = .ok (owner, after)) :
    table.EqExcept id after := by
  unfold leave at granted
  split at granted
  · cases granted
  · next room found =>
      have bound := lt_length_of_get? found
      simp only at granted
      split at granted
      · cases granted
      · split at granted
        · cases granted
          exact eqExcept_set_none id table
        · split at granted
          · cases granted
            exact eqExcept_set_some bound _
          · cases granted
            exact eqExcept_set_some bound _

/-- Whoever is in a room after somebody has left was in it before, and so was its new owner. -/
theorem leave_eq_ok {id session : Nat} {owner : Option Nat} {table after : RoomTable}
    (granted : table.leave id session = .ok (owner, after)) :
    ∃ room, table.get? id = some room ∧ (∀ lowest ∈ owner, lowest ∈ room.memberIds) ∧
      ∀ left, after.get? id = some left →
        left.game = none ∧ ∀ member ∈ left.memberIds, member ∈ room.memberIds := by
  unfold leave at granted
  split at granted
  · cases granted
  · next room found =>
      have bound := lt_length_of_get? found
      refine ⟨room, found, ?_⟩
      have fewer : ∀ member ∈ (room.members.filter fun member => member.session != session).map
          Member.session, member ∈ room.memberIds := by
        intro member remains
        obtain ⟨kept, listed, rfl⟩ := List.mem_map.1 remains
        exact List.mem_map_of_mem (List.mem_filter.1 listed).1
      simp only at granted
      split at granted
      · cases granted
      · split at granted
        · cases granted
          refine ⟨nofun, fun left there => ?_⟩
          rw [get?_set_none, if_pos rfl] at there
          cases there
        · next lowest least =>
            have lowestMember := fewer lowest (List.min?_mem least)
            split at granted
            · cases granted
              refine ⟨by simpa using lowestMember, fun left there => ?_⟩
              obtain rfl := Option.some.inj ((get?_set_self bound _).symm.trans there)
              exact ⟨by simp, by simpa [Room.memberIds] using fewer⟩
            · cases granted
              refine ⟨nofun, fun left there => ?_⟩
              obtain rfl := Option.some.inj ((get?_set_self bound _).symm.trans there)
              exact ⟨by simp, by simpa [Room.memberIds] using fewer⟩

theorem leave_eq_set {id session : Nat} {table : RoomTable} {room : Room}
    (found : table.get? id = some room) (member : session ∈ room.memberIds) :
    ∃ owner, table.leave id session = .ok (owner, table.set id (room.left? session)) := by
  simp only [leave, found, Room.isMember_iff.2 member, Bool.not_true, Bool.false_eq_true, if_false,
    Room.map_session_filter, Room.left?]
  cases (room.others session).min? with
  | none =>
      exact ⟨none, rfl⟩
  | some lowest =>
      by_cases owned : room.owner = session
      · exact ⟨some lowest, by simp [owned]⟩
      · exact ⟨none, by simp [owned]⟩

/-- A member who leaves drops the match. A room that is not empty then waits for players, and the
others stay in it. -/
theorem leave_of_member {id session : Nat} {table : RoomTable} {room : Room}
    (found : table.get? id = some room) (member : session ∈ room.memberIds) :
    ∃ owner after,
      table.leave id session = .ok (owner, after) ∧ table.EqExcept id after ∧
        ((room.others session = [] ∧ after.get? id = none) ∨
          ∃ left,
            after.get? id = some left ∧ left.id = room.id ∧
              left.memberIds = room.others session ∧ left.game = none ∧
              left.status ≠ .playing ∧ left.status ≠ .finished) := by
  obtain ⟨owner, granted⟩ := leave_eq_set found member
  refine ⟨owner, _, granted, leave_eqExcept granted, ?_⟩
  cases stays : room.left? session with
  | none =>
      exact .inl ⟨Room.left?_eq_none.1 stays, by rw [get?_set_none, if_pos rfl]⟩
  | some left =>
      exact .inr ⟨left, get?_set_self (lt_length_of_get? found) left, Room.left?_eq_some stays⟩

/-- Who is ready matters neither for who is in the room nor for whether a match has begun. -/
theorem setReady_eq_ok {id session count : Nat} {ready : Bool} {table after : RoomTable}
    (granted : table.setReady id session ready = .ok (count, after)) :
    ∃ room changed,
      table.get? id = some room ∧ table.EqExcept id after ∧ after.get? id = some changed ∧
        changed.id = room.id ∧ changed.memberIds = room.memberIds ∧ changed.game = room.game ∧
        (changed.status = .playing ↔ room.status = .playing) ∧
        (changed.status = .finished ↔ room.status = .finished) := by
  unfold setReady at granted
  split at granted
  · cases granted
  · next room found =>
      split at granted
      · cases granted
      · next place first =>
          cases granted
          have bound := lt_length_of_get? found
          refine ⟨room, _, found, eqExcept_set_some bound _, get?_set_self bound _,
            by simp, ?_, by simp, Room.refreshStatus_status_eq_iff _ (.inl rfl),
            Room.refreshStatus_status_eq_iff _ (.inr rfl)⟩
          rw [Room.memberIds, Room.refreshStatus_members]
          exact Room.map_session_modify place ready room

end RoomTable

end Cardroom
