import Cardroom.Match.Deal
import Cardroom.Proofs.Match.Seats
import Cardroom.Proofs.Room.Table

/-!
# The room table under any requests

Players open, join and leave rooms and say that they are ready, matches begin and end in them, and
rooms are removed. `run_isGoverned` says what holds of the rooms after any number of such requests:
the first member owns the room, there is a match just while the room is playing, and the status
tells whether everyone is ready. A request that is refused changes nothing, and one that is granted
changes one room.
-/

namespace Cardroom

namespace Room

/-- What the members, the owner and the match of a room have to do with each other. -/
structure IsPeopled (id : Nat) (room : Room) : Prop where
  numbered : room.id = id
  distinct : room.memberIds.Nodup
  space : room.members.length ≤ places
  /-- The first member owns the room, so that there is one. -/
  owned : room.memberIds.head? = some room.owner
  playing : room.game.isSome ↔ room.status = .playing

/-- The invariant of a room: in addition, the status tells whether the room is full and everyone is
ready, as long as no match has begun. -/
structure IsWellKept (id : Nat) (room : Room) : Prop extends room.IsPeopled id where
  inhabited : 0 < room.members.length
  ready : room.status = .waiting ∨ room.status = .ready →
    (room.status = .ready ↔
      room.members.length = places ∧ ∀ member ∈ room.members, member.ready)
  counted : room.readyCount ≤ room.members.length

variable {id : Nat} {room : Room}

theorem allReady_iff :
    room.allReady ↔ room.members.length = places ∧ ∀ member ∈ room.members, member.ready := by
  simp [allReady, readyCount, List.countP_eq_length]

@[simp]
theorem refreshStatus_owner (room : Room) : room.refreshStatus.owner = room.owner := by
  unfold refreshStatus
  split <;> rfl

/-- Before a match has begun, and after the status has been brought into line, a room is ready just
if everyone is. -/
theorem refreshStatus_status_eq_ready (early : room.status = .waiting ∨ room.status = .ready) :
    room.refreshStatus.status = .ready ↔ room.allReady := by
  unfold refreshStatus
  rcases early with early | early <;> rw [early] <;> cases room.allReady <;> simp

theorem early_of_refreshStatus
    (early : room.refreshStatus.status = .waiting ∨ room.refreshStatus.status = .ready) :
    room.status = .waiting ∨ room.status = .ready := by
  cases stage : room.status with
  | waiting =>
      exact .inl rfl
  | ready =>
      exact .inr rfl
  | playing =>
      rw [(refreshStatus_status_eq_iff room (.inl rfl)).2 stage] at early
      simp at early
  | finished =>
      rw [(refreshStatus_status_eq_iff room (.inr rfl)).2 stage] at early
      simp at early

namespace IsPeopled

theorem inhabited (peopled : room.IsPeopled id) : 0 < room.members.length := by
  rw [← length_memberIds]
  exact List.length_pos_of_mem (List.mem_of_head? peopled.owned)

/-- Whatever has been done to the members, a room is well kept once its status is in line. -/
theorem refreshStatus (peopled : room.IsPeopled id) : room.refreshStatus.IsWellKept id where
  numbered := by
    rw [refreshStatus_id]
    exact peopled.numbered
  distinct := by
    rw [memberIds, refreshStatus_members]
    exact peopled.distinct
  space := by
    rw [refreshStatus_members]
    exact peopled.space
  owned := by
    rw [memberIds, refreshStatus_members, refreshStatus_owner]
    exact peopled.owned
  playing := by
    rw [refreshStatus_game, refreshStatus_status_eq_iff room (.inl rfl)]
    exact peopled.playing
  inhabited := by
    rw [refreshStatus_members]
    exact peopled.inhabited
  ready := by
    intro early
    rw [refreshStatus_status_eq_ready (early_of_refreshStatus early), refreshStatus_members]
    exact allReady_iff
  counted := List.countP_le_length

/-- Whether the members are ready does not matter for who they are. -/
theorem setMembers (peopled : room.IsPeopled id) {members : List Member}
    (same : members.map Member.session = room.memberIds) :
    ({ room with members } : Room).IsPeopled id where
  numbered := peopled.numbered
  distinct := by
    rw [memberIds, same]
    exact peopled.distinct
  space := by
    have length := congrArg List.length same
    rw [List.length_map, length_memberIds] at length
    exact length ▸ peopled.space
  owned := by
    rw [memberIds, same]
    exact peopled.owned
  playing := peopled.playing

/-- A match begins or ends together with the status. -/
theorem setStage (peopled : room.IsPeopled id) {game : Option Match} {status : Room.Status}
    (agree : game.isSome ↔ status = .playing) :
    ({ room with game, status } : Room).IsPeopled id where
  numbered := peopled.numbered
  distinct := peopled.distinct
  space := peopled.space
  owned := peopled.owned
  playing := agree

theorem resetReady (peopled : room.IsPeopled id) : room.resetReady.IsWellKept id :=
  (peopled.setMembers (by simp [memberIds])).refreshStatus

theorem beginMatch (peopled : room.IsPeopled id) (game : Match) :
    (room.beginMatch game).IsWellKept id :=
  (peopled.setStage (by simp)).resetReady

theorem finishMatch (peopled : room.IsPeopled id) : room.finishMatch.IsWellKept id :=
  (peopled.setStage (by simp)).resetReady

theorem opened (id : Nat) (name : String) (creator : Nat) :
    (Room.opened id name creator).IsPeopled id where
  numbered := rfl
  distinct := by
    simp [memberIds, Room.opened]
  space := Nat.le_succ 1
  owned := rfl
  playing := by
    simp [Room.opened]

/-- A newcomer comes last, so that the owner stays the same. -/
theorem join (peopled : room.IsPeopled id) {session : Nat} (stranger : session ∉ room.memberIds)
    (free : room.members.length < places) :
    ({ room with members := room.members ++ [({ session } : Member)] } : Room).IsPeopled id where
  numbered := peopled.numbered
  distinct := by
    rw [memberIds, List.map_append, List.nodup_append]
    exact ⟨peopled.distinct, by simp, by simpa [memberIds] using stranger⟩
  space := by
    rw [List.length_append, List.length_singleton]
    exact free
  owned := by
    rw [memberIds, List.map_append, List.head?_append]
    exact Option.or_eq_some_iff.2 (.inl peopled.owned)
  playing := peopled.playing

/-- Of two members one leaves, and the other one is the owner if the owner has not left. -/
theorem others_eq_singleton (peopled : room.IsPeopled id) {session lowest : Nat}
    (member : session ∈ room.memberIds) (least : (room.others session).min? = some lowest) :
    room.others session = [lowest] ∧ (room.owner ≠ session → room.owner = lowest) := by
  have distinct := peopled.distinct
  have owned := peopled.owned
  have space : room.memberIds.length ≤ places := by
    rw [length_memberIds]
    exact peopled.space
  rw [others] at least ⊢
  generalize room.memberIds = members at *
  cases members with
  | nil =>
      cases member
  | cons first others =>
      cases others with
      | nil =>
          obtain rfl := List.mem_singleton.1 member
          simp at least
      | cons second others =>
          cases others with
          | nil =>
              obtain rfl : first = room.owner := Option.some.inj owned
              have different : room.owner ≠ second := by
                simpa using distinct
              rcases List.mem_pair.1 member with rfl | rfl
              · have rest : [room.owner, second].filter (· != room.owner) = [second] := by
                  simp [different.symm]
                rw [rest] at least ⊢
                obtain rfl : second = lowest := Option.some.inj least
                exact ⟨rfl, fun stays => absurd rfl stays⟩
              · have rest : [room.owner, session].filter (· != session) = [room.owner] := by
                  simp [different]
                rw [rest] at least ⊢
                obtain rfl : room.owner = lowest := Option.some.inj least
                exact ⟨rfl, fun _ => rfl⟩
          | cons third others =>
              have many : 3 ≤ (first :: second :: third :: others).length :=
                Nat.le_add_left 3 others.length
              exact absurd (Nat.le_trans many space) (by decide)

/-- Whoever stays owns the room. -/
theorem leave (peopled : room.IsPeopled id) {session lowest : Nat}
    (member : session ∈ room.memberIds) (least : (room.others session).min? = some lowest) :
    ({ room with
      members := room.members.filter fun member => member.session != session
      owner := lowest
      game := none
      status := .waiting } : Room).IsPeopled id where
  numbered := peopled.numbered
  distinct := by
    rw [memberIds, map_session_filter]
    exact peopled.distinct.filter _
  space := Nat.le_trans (List.length_filter_le _ _) peopled.space
  owned := by
    rw [memberIds, map_session_filter, (peopled.others_eq_singleton member least).1]
    rfl
  playing := by
    simp

end IsPeopled

end Room

namespace Match

def starters (game : Match) : List Nat :=
  (game.seats.filter Seat.takesFifteen).map Seat.session

theorem starters_start (shuffle : Shuffle) (game : Match) :
    (game.start shuffle).starters = game.starters := by
  have dealt : ∀ pile seats,
      ((dealHands pile seats).1.filter Seat.takesFifteen).map Seat.session =
        (seats.filter Seat.takesFifteen).map Seat.session := by
    intro pile seats
    induction seats generalizing pile with
    | nil =>
        rfl
    | cons seat seats inductionHypothesis =>
        simp only [dealHands, List.filter_cons, Seat.dealt]
        split <;> simp [inductionHypothesis]
  exact dealt _ game.seats

theorem starters_seat (room : Nat) (members : List Nat) (shuffled : Bool) :
    (seat room members shuffled).starters = members.head?.toList := by
  cases members with
  | nil =>
      rfl
  | cons first rest =>
      have later : ∀ member ∈ rest.zipIdx 1, member.2 ≠ 0 := by
        intro member listed
        have := List.le_snd_of_mem_zipIdx listed
        omega
      simpa [starters, seat, List.zipIdx_cons, List.filter_map, Function.comp_def] using later

theorem currentSession?_start (shuffle : Shuffle) (room : Nat) (members : List Nat)
    (shuffled : Bool) :
    ((seat room members shuffled).start shuffle).currentSession? = members.head? := by
  cases members with
  | nil =>
      rfl
  | cons first rest =>
      simp [currentSession?, start, seat, List.zipIdx_cons, dealHands, Seat.dealt,
        List.findIdx?_cons]

end Match

namespace RoomTable

/-! ## Requests -/

inductive Request where
  | create (name : String) (creator : Nat)
  | join (id session : Nat)
  | leave (id session : Nat)
  | setReady (id session : Nat) (ready : Bool)
  | delete (id : Nat)
  | remove (id : Nat)
  | beginMatch (id : Nat) (game : Match)
  | finishMatch (id : Nat)
  | resetReady (id : Nat)

def Request.room? : Request → Option Nat
  | create _ _ => none
  | join id _ | leave id _ | setReady id _ _ | delete id | remove id => some id
  | beginMatch id _ | finishMatch id | resetReady id => some id

/-- What a request comes to, and the table after it, where the request is checked before anything is
written. -/
def answered {α : Type} (table : RoomTable) :
    Except RoomError (α × RoomTable) → Except RoomError α × RoomTable
  | .error error => (.error error, table)
  | .ok (result, after) => (.ok result, after)

/-- Takes a member out of a room in the table itself. The member is gone before the room is freed or
gets another owner, and freeing it could be refused. -/
def leaveInPlace (id session : Nat) (table : RoomTable) :
    Except RoomError (Option Nat) × RoomTable :=
  match table.get? id with
  | none => (.error .notFound, table)
  | some room =>
      if !room.isMember session then
        (.error .notMember, table)
      else
        let members := room.members.filter fun member => member.session != session
        let table := table.set id (some { room with members })
        if members = [] then
          match table.delete id with
          | .error error => (.error error, table)
          | .ok table => (.ok none, table)
        else
          let left := Room.refreshStatus { room with members, game := none, status := .waiting }
          let table := table.set id (some left)
          if left.owner = session then
            match left.memberIds.min? with
            | none => (.ok none, table)
            | some owner => (.ok (some owner), table.set id (some { left with owner }))
          else
            (.ok none, table)

def amend (id : Nat) (change : Room → Room) (table : RoomTable) :
    Except RoomError Nat × RoomTable :=
  match table.get? id with
  | none => (.error .notFound, table)
  | some _ => (.ok id, table.modify id change)

/-- Does what is requested in the table. A request that is granted gives the number of the room. -/
def Request.perform : Request → RoomTable → Except RoomError Nat × RoomTable
  | create name creator, table => table.answered (table.create name creator)
  | join id session, table =>
      table.answered ((table.join id session).map fun after => (id, after))
  | leave id session, table =>
      let (result, after) := table.leaveInPlace id session
      (result.map fun _ => id, after)
  | setReady id session ready, table =>
      table.answered ((table.setReady id session ready).map fun (_, after) => (id, after))
  | delete id, table => table.answered ((table.delete id).map fun after => (id, after))
  | remove id, table => (.ok id, table.remove id)
  | beginMatch id game, table => table.amend id (Room.beginMatch game)
  | finishMatch id, table => table.amend id Room.finishMatch
  | resetReady id, table => table.amend id Room.resetReady

def run (capacity : Nat) (requests : List Request) : RoomTable :=
  requests.foldl (fun table request => (request.perform table).2) (vacant capacity)

/-- Nobody can tell that somebody who leaves is taken out of the room step by step. -/
theorem leaveInPlace_eq (id session : Nat) (table : RoomTable) :
    table.leaveInPlace id session = table.answered (table.leave id session) := by
  unfold leaveInPlace leave
  cases found : table.get? id with
  | none =>
      rfl
  | some room =>
      have bound := lt_length_of_get? found
      by_cases member : room.isMember session
      · simp only [member, Bool.not_true, Bool.false_eq_true, if_false]
        generalize remain : (room.members.filter fun member => member.session != session) = members
        cases least : (members.map Member.session).min? with
        | none =>
            obtain rfl : members = [] := by
              simpa using least
            simp only [if_true, delete, get?_set_self bound, ne_eq, not_true_eq_false, if_false,
              set_set]
            rfl
        | some lowest =>
            have several : members ≠ [] := by
              rintro rfl
              cases least
            simp only [if_neg several, set_set, Room.refreshStatus_owner, Room.memberIds,
              Room.refreshStatus_members, least]
            split
            · rfl
            · rfl
      · simp only [member, Bool.not_false, if_true]
        rfl

/-- The invariant of the table. The room of each number is well kept. -/
def IsWellKept (table : RoomTable) : Prop :=
  ∀ id room, table.get? id = some room → room.IsWellKept id

/-- What a request does that is granted: the room changes, and stays well kept. -/
structure Grants (table : RoomTable) (id : Nat) (after : RoomTable) : Prop where
  others : table.EqExcept id after
  kept : after.IsWellKept

variable {table after : RoomTable} {id session : Nat}

theorem isWellKept_vacant (capacity : Nat) : (vacant capacity).IsWellKept := by
  intro id room found
  rw [get?_vacant] at found
  cases found

theorem IsWellKept.grants (kept : table.IsWellKept) (others : table.EqExcept id after)
    (changed : ∀ room, after.get? id = some room → room.IsWellKept id) :
    table.Grants id after where
  others
  kept := by
    intro other room found
    by_cases same : other = id
    · subst same
      exact changed room found
    · exact kept other room ((others other same).symm.trans found)

theorem IsWellKept.set_some (kept : table.IsWellKept) (bound : id < table.slots.length)
    {room : Room} (sound : room.IsWellKept id) :
    table.Grants id (table.set id (some room)) := by
  refine kept.grants (eqExcept_set_some bound room) fun other found => ?_
  obtain rfl := Option.some.inj ((get?_set_self bound room).symm.trans found)
  exact sound

theorem IsWellKept.set_none (kept : table.IsWellKept) (id : Nat) :
    table.Grants id (table.set id none) := by
  refine kept.grants (eqExcept_set_none id table) fun room found => ?_
  rw [get?_set_none, if_pos rfl] at found
  cases found

theorem IsWellKept.modify (kept : table.IsWellKept) {change : Room → Room}
    (sound : ∀ room : Room, room.IsWellKept id → (change room).IsWellKept id) :
    table.Grants id (table.modify id change) := by
  refine kept.grants (eqExcept_modify id change table) fun room found => ?_
  rw [get?_modify, if_pos rfl] at found
  obtain ⟨before, there, rfl⟩ := Option.map_eq_some_iff.1 found
  exact sound before (kept id before there)

theorem IsWellKept.create (kept : table.IsWellKept) {name : String} {creator : Nat}
    (granted : table.create name creator = .ok (id, after)) :
    table.Grants id after := by
  obtain ⟨-, others, opened⟩ := create_eq_ok granted
  refine kept.grants others fun room found => ?_
  obtain rfl := Option.some.inj (opened.symm.trans found)
  exact (Room.IsPeopled.opened id name creator).refreshStatus

theorem IsWellKept.join (kept : table.IsWellKept) (granted : table.join id session = .ok after) :
    table.Grants id after := by
  unfold RoomTable.join at granted
  split at granted
  · cases granted
  · next room found =>
      split at granted
      · cases granted
      · next stranger =>
          split at granted
          · cases granted
          · split at granted
            · cases granted
            · next free =>
                cases granted
                have joined := (kept id room found).toIsPeopled.join
                  (fun member => stranger (Room.isMember_iff.2 member)) (Nat.lt_of_not_le free)
                exact kept.set_some (lt_length_of_get? found) joined.refreshStatus

theorem IsWellKept.leave (kept : table.IsWellKept) {owner : Option Nat}
    (granted : table.leave id session = .ok (owner, after)) :
    table.Grants id after := by
  unfold RoomTable.leave at granted
  split at granted
  · cases granted
  · next room found =>
      have bound := lt_length_of_get? found
      simp only at granted
      split at granted
      · cases granted
      · next member =>
          split at granted
          · cases granted
            exact kept.set_none id
          · next lowest least =>
              have peopled := (kept id room found).toIsPeopled
              rw [Room.map_session_filter] at least
              have inside : session ∈ room.memberIds := Room.isMember_iff.1 (by simpa using member)
              have left := (peopled.leave inside least).refreshStatus
              split at granted
              · cases granted
                exact kept.set_some bound left
              · next stays =>
                  cases granted
                  obtain rfl := (peopled.others_eq_singleton inside least).2 stays
                  exact kept.set_some bound left

theorem IsWellKept.setReady (kept : table.IsWellKept) {ready : Bool} {count : Nat}
    (granted : table.setReady id session ready = .ok (count, after)) :
    table.Grants id after := by
  unfold RoomTable.setReady at granted
  split at granted
  · cases granted
  · next room found =>
      split at granted
      · cases granted
      · next place first =>
          cases granted
          have changed := (kept id room found).toIsPeopled.setMembers
            (Room.map_session_modify place ready room)
          exact kept.set_some (lt_length_of_get? found) changed.refreshStatus

theorem IsWellKept.delete (kept : table.IsWellKept) (granted : table.delete id = .ok after) :
    table.Grants id after := by
  unfold RoomTable.delete at granted
  split at granted
  · cases granted
  · split at granted
    · cases granted
    · cases granted
      exact kept.set_none id

/-- A request is refused, and the table stays as it is, or it is granted. Then it concerns the room
that it names, or a new one. -/
inductive Settled (table : RoomTable) (request : Request) :
    Except RoomError Nat × RoomTable → Prop
  | refused (error : RoomError) : Settled table request (.error error, table)
  | granted {id : Nat} {after : RoomTable}
      (addressed : request.room? = some id ∨ request.room? = none ∧ table.get? id = none)
      (grants : table.Grants id after) : Settled table request (.ok id, after)

theorem settled_answered {request : Request} {α : Type} {result : Except RoomError α}
    {change : α → RoomTable} (addressed : request.room? = some id)
    (grants : ∀ value, result = .ok value → table.Grants id (change value)) :
    table.Settled request (table.answered (result.map fun value => (id, change value))) := by
  cases result with
  | error error =>
      exact .refused error
  | ok value =>
      exact .granted (.inl addressed) (grants value rfl)

/-- Leaving is settled like the requests that are checked before anything is written. -/
theorem perform_leave (id session : Nat) (table : RoomTable) :
    (Request.leave id session).perform table =
      table.answered ((table.leave id session).map fun value => (id, value.2)) := by
  simp only [Request.perform, leaveInPlace_eq]
  cases table.leave id session with
  | error error =>
      rfl
  | ok value =>
      rfl

theorem IsWellKept.amend (kept : table.IsWellKept) {request : Request} {change : Room → Room}
    (addressed : request.room? = some id)
    (sound : ∀ room : Room, room.IsWellKept id → (change room).IsWellKept id) :
    table.Settled request (table.amend id change) := by
  unfold RoomTable.amend
  split
  · exact .refused _
  · exact .granted (.inl addressed) (kept.modify sound)

theorem IsWellKept.perform (kept : table.IsWellKept) (request : Request) :
    table.Settled request (request.perform table) := by
  cases request with
  | create name creator =>
      simp only [Request.perform]
      cases granted : table.create name creator with
      | error error =>
          exact .refused error
      | ok value =>
          exact .granted (.inr ⟨rfl, (create_eq_ok granted).1⟩) (kept.create granted)
  | join id session =>
      exact settled_answered rfl fun after granted => kept.join granted
  | leave id session =>
      rw [perform_leave]
      exact settled_answered rfl fun value granted => kept.leave granted
  | setReady id session ready =>
      exact settled_answered rfl fun value granted => kept.setReady granted
  | delete id =>
      exact settled_answered rfl fun after granted => kept.delete granted
  | remove id =>
      exact .granted (.inl rfl) (kept.set_none id)
  | beginMatch id game =>
      exact kept.amend rfl fun room sound => sound.toIsPeopled.beginMatch game
  | finishMatch id =>
      exact kept.amend rfl fun room sound => sound.toIsPeopled.finishMatch
  | resetReady id =>
      exact kept.amend rfl fun room sound => sound.toIsPeopled.resetReady

theorem Settled.isWellKept {request : Request} {outcome : Except RoomError Nat × RoomTable}
    (settled : table.Settled request outcome) (kept : table.IsWellKept) :
    outcome.2.IsWellKept := by
  cases settled with
  | refused error =>
      exact kept
  | granted addressed grants =>
      exact grants.kept

/-! ## Any number of requests -/

theorem run_isWellKept (capacity : Nat) (requests : List Request) :
    (run capacity requests).IsWellKept :=
  List.foldlRecOn requests _ (isWellKept_vacant capacity) fun _ kept request _ =>
    (kept.perform request).isWellKept kept

/-- What holds of a table after any requests, and of any other request to it. -/
structure IsGoverned (table : RoomTable) : Prop where
  kept : table.IsWellKept
  /-- A match for the members of a room begins with its owner, who takes fifteen cards. -/
  begun : ∀ id room, table.get? id = some room → ∀ shuffle shuffled,
    let game := (Match.seat room.id room.memberIds shuffled).start shuffle
    game.starters = [room.owner] ∧ game.currentSession? = some room.owner
  refused : ∀ (request : Request) (error : RoomError), (request.perform table).1 = .error error →
    (request.perform table).2 = table
  granted : ∀ (request : Request) (id : Nat), (request.perform table).1 = .ok id →
    (request.room? = some id ∨ request.room? = none ∧ table.get? id = none) ∧
      table.EqExcept id (request.perform table).2

theorem IsWellKept.isGoverned (kept : table.IsWellKept) : table.IsGoverned where
  kept := kept
  begun id room found shuffle shuffled := by
    have owned := (kept id room found).owned
    exact ⟨by rw [Match.starters_start, Match.starters_seat, owned, Option.toList_some],
      by rw [Match.currentSession?_start, owned]⟩
  refused request error refused := by
    have settled := kept.perform request
    generalize request.perform table = outcome at *
    cases settled with
    | refused error =>
        rfl
    | granted addressed grants =>
        cases refused
  granted request id granted := by
    have settled := kept.perform request
    generalize request.perform table = outcome at *
    cases settled with
    | refused error =>
        cases granted
    | granted addressed grants =>
        obtain rfl := Except.ok.inj granted
        exact ⟨addressed, grants.others⟩

/-- Whatever has been requested of a table of any size, its rooms are well kept, and any other
request changes the room that it concerns, or nothing if it is refused. -/
theorem run_isGoverned (capacity : Nat) (requests : List Request) :
    (run capacity requests).IsGoverned :=
  (run_isWellKept capacity requests).isGoverned

end RoomTable

end Cardroom
