import Cardroom.Proofs.Server.Tells

/-!
# What dropping silent players tells them

A sweep asks every connected player for a sign of life, and then drops those who have been silent.
Each of them is told so last of all, and the others are told at most of what became of their rooms.
-/

namespace Cardroom

/-- Whether the others in a room are told of a dropped player by frames of this type. -/
def MessageType.tellsOfDrop : MessageType → Bool
  | .owner | .roomInfo | .notice | .paused => true
  | _ => false

namespace Transition

/-- What a player is told who is dropped for having been silent. -/
def lossNotice : Frame where
  type := .lobby
  payload := "Connection lost (heartbeat)"

variable {state : Transition} {id other connection : Nat} {ids : List Nat} (now : Time)

/-- A player who is dropped is told so and hung up on, and then the others in the room are told. -/
theorem evict_tells (bound : state.tables.connectionOf? id = some connection) :
    ∃ cut : Transition,
      cut.outbox =
        (state.outbox.push connection lossNotice.type lossNotice.payload).close connection ∧
        (state.evict id now).Tells MessageType.tellsOfDrop cut := by
  obtain ⟨session, held, own⟩ := Tables.connectionOf?_eq_some.1 bound
  have held : state.sessions.get? id = some session := held
  simp only [evict, held, Option.bind_some, own, disconnect]
  rw [if_neg fun stale => stale rfl]
  split
  · exact ⟨_, Eq.refl _, .refl _⟩
  · refine ⟨_, ?_, Tells.afterDrop (.refl _) (by decide) id⟩
    rfl

theorem evict_eq_self (unbound : state.tables.connectionOf? id = none) :
    state.evict id now = state := by
  have nobody : (state.sessions.get? id).bind Session.connection = none := unbound
  simp only [evict, nobody]

theorem connectionOf?_evict (id other : Nat) (state : Transition) :
    (state.evict id now).tables.connectionOf? other =
      if id = other then none else state.tables.connectionOf? other := by
  have lost (occupant : Occupant) : (occupant.lose now).connection = none := by
    unfold Occupant.lose Occupant.leave
    split
    · split <;> rfl
    · next absent =>
        simpa using absent
  rw [Tables.connectionOf?_eq, Tables.connectionOf?_eq, evict_occupants, List.getElem?_modify]
  cases state.tables.occupants[other]? with
  | none =>
      simp
  | some occupant =>
      split
      · exact lost occupant
      · rfl

theorem isHeard_evict {id : Nat} :
    (state.evict id now).tables.IsHeard connection ↔
      ∃ other, id ≠ other ∧ state.tables.connectionOf? other = some connection := by
  unfold Tables.IsHeard
  refine exists_congr fun other => ?_
  rw [connectionOf?_evict]
  by_cases here : id = other <;> simp [here]

/-- The notice comes first, and what comes after it goes to connections that are still bound. -/
theorem evict_framesFor (id connection : Nat) (state : Transition) :
    ∃ added, (state.evict id now).outbox.framesFor connection =
        state.outbox.framesFor connection ++
          (if state.tables.connectionOf? id = some connection then [lossNotice] else []) ++ added ∧
      ∀ frame ∈ added, frame.type.tellsOfDrop ∧
        (state.evict id now).tables.IsHeard connection := by
  cases bound : state.tables.connectionOf? id with
  | none =>
      rw [evict_eq_self now bound]
      exact ⟨[], by simp, nofun⟩
  | some own =>
      obtain ⟨cut, said, tells⟩ := evict_tells now bound
      obtain ⟨added, extended, ofKind⟩ := tells.queued.framesFor connection
      refine ⟨added, ?_, fun frame listed => ?_⟩
      · have noticed := Outbox.framesFor_push connection own lossNotice.type lossNotice.payload
          state.outbox
        rw [extended, said]
        refine congrArg (· ++ added) (noticed.trans ?_)
        simp only [Option.some.injEq]
      · obtain ⟨allowed, heard⟩ := ofKind frame listed
        exact ⟨allowed, (Tables.isHeard_congr tells.occupants connection).2 heard⟩

theorem evict_framesFor_of_unheard (unheard : ¬(state.evict id now).tables.IsHeard connection) :
    (state.evict id now).outbox.framesFor connection =
      state.outbox.framesFor connection ++
        if state.tables.connectionOf? id = some connection then [lossNotice] else [] := by
  obtain ⟨added, frames, heard⟩ := evict_framesFor now id connection state
  have none : added = [] :=
    List.eq_nil_iff_forall_not_mem.2 fun frame listed => unheard (heard frame listed).2
  rw [frames, none, List.append_nil]

theorem evict_closing (id : Nat) (state : Transition) :
    (state.evict id now).outbox.closing =
      state.outbox.closing ++ (state.tables.connectionOf? id).toList := by
  cases bound : state.tables.connectionOf? id with
  | none =>
      rw [evict_eq_self now bound]
      simp
  | some own =>
      obtain ⟨cut, said, tells⟩ := evict_tells now bound
      rw [tells.queued.closing, said]
      rfl

theorem connectionOf?_foldl_evict (ids : List Nat) (other : Nat) (state : Transition) :
    (ids.foldl (fun state id => state.evict id now) state).tables.connectionOf? other =
      if other ∈ ids then none else state.tables.connectionOf? other := by
  induction ids generalizing state with
  | nil =>
      simp
  | cons id ids inductionHypothesis =>
      rw [List.foldl_cons, inductionHypothesis, connectionOf?_evict]
      by_cases here : id = other
      · simp [here]
      · simp [here, Ne.symm here]

/-- Nothing more is said to a connection that is not bound to any slot. -/
theorem foldl_evict_of_unheard (ids : List Nat) (unheard : ¬state.tables.IsHeard connection) :
    (ids.foldl (fun state id => state.evict id now) state).outbox.framesFor connection =
      state.outbox.framesFor connection := by
  induction ids generalizing state with
  | nil =>
      rfl
  | cons id ids inductionHypothesis =>
      have still : ¬(state.evict id now).tables.IsHeard connection := by
        intro heard
        obtain ⟨other, -, bound⟩ := (isHeard_evict now).1 heard
        exact unheard ⟨other, bound⟩
      rw [List.foldl_cons, inductionHypothesis still, evict_framesFor_of_unheard now still,
        if_neg fun bound => unheard ⟨id, bound⟩, List.append_nil]

/-- Somebody who is not dropped is told what has become of the room. -/
theorem foldl_evict_of_spared
    (spared : ∀ id ∈ ids, state.tables.connectionOf? id ≠ some connection) :
    ∃ added, (ids.foldl (fun state id => state.evict id now) state).outbox.framesFor connection =
        state.outbox.framesFor connection ++ added ∧
      ∀ frame ∈ added, frame.type.tellsOfDrop := by
  induction ids generalizing state with
  | nil =>
      exact ⟨[], by simp, nofun⟩
  | cons id ids inductionHypothesis =>
      have later : ∀ next ∈ ids,
          (state.evict id now).tables.connectionOf? next ≠ some connection := by
        intro next listed bound
        rw [connectionOf?_evict] at bound
        split at bound
        · cases bound
        · exact spared next (List.mem_cons_of_mem id listed) bound
      obtain ⟨first, frames, allowed⟩ := evict_framesFor now id connection state
      obtain ⟨rest, frames', allowed'⟩ := inductionHypothesis later
      rw [if_neg (spared id List.mem_cons_self), List.append_nil] at frames
      refine ⟨first ++ rest, ?_, fun frame listed => ?_⟩
      · rw [List.foldl_cons, frames', frames, List.append_assoc]
      · exact (List.mem_append.1 listed).elim (fun sooner => (allowed frame sooner).1)
          (allowed' frame)

theorem mem_closing_foldl_evict (ids : List Nat) (closed : connection ∈ state.outbox.closing) :
    connection ∈ (ids.foldl (fun state id => state.evict id now) state).outbox.closing := by
  refine List.foldlRecOn (motive := fun after : Transition => connection ∈ after.outbox.closing)
    ids _ closed fun after closed id _ => ?_
  rw [evict_closing]
  exact List.mem_append_left _ closed

/-- Somebody who is dropped is told so last of all, and hung up on. -/
theorem foldl_evict_of_lost (only : state.tables.IsOnly connection id) (listed : id ∈ ids) :
    let after := ids.foldl (fun state id => state.evict id now) state
    connection ∈ after.outbox.closing ∧
      ∃ added, after.outbox.framesFor connection =
          state.outbox.framesFor connection ++ added ++ [lossNotice] ∧
        ∀ frame ∈ added, frame.type.tellsOfDrop := by
  induction ids generalizing state with
  | nil =>
      cases listed
  | cons next ids inductionHypothesis =>
      by_cases here : next = id
      · subst here
        have bound : state.tables.connectionOf? next = some connection := (only next).2 rfl
        have unheard : ¬(state.evict next now).tables.IsHeard connection := by
          intro heard
          obtain ⟨other, different, own⟩ := (isHeard_evict now).1 heard
          exact different ((only other).1 own).symm
        refine ⟨?_, [], ?_, nofun⟩
        · refine mem_closing_foldl_evict now ids ?_
          rw [evict_closing, bound]
          simp
        · rw [List.foldl_cons, foldl_evict_of_unheard now ids unheard,
            evict_framesFor_of_unheard now unheard, if_pos bound, List.append_nil]
      · have only' : (state.evict next now).tables.IsOnly connection id := by
          intro other
          rw [connectionOf?_evict]
          by_cases dropped : next = other
          · rw [if_pos dropped]
            exact ⟨nofun, fun same => absurd (dropped.trans same) here⟩
          · rw [if_neg dropped]
            exact only other
        obtain ⟨first, frames, allowed⟩ := evict_framesFor now next connection state
        obtain ⟨closed, rest, frames', allowed'⟩ :=
          inductionHypothesis only' ((List.mem_cons.1 listed).resolve_left (Ne.symm here))
        refine ⟨closed, first ++ rest, ?_, fun frame listed => ?_⟩
        · rw [if_neg fun bound => here ((only next).1 bound), List.append_nil] at frames
          rw [List.foldl_cons, frames', frames]
          simp only [List.append_assoc]
        · exact (List.mem_append.1 listed).elim (fun sooner => (allowed frame sooner).1)
            (allowed' frame)

def lifeRequest : Frame where
  type := .ping
  payload := ""

theorem framesFor_foldl_ping (connections : List Nat) (connection : Nat) (outbox : Outbox) :
    (connections.foldl (fun outbox connection => outbox.push connection .ping "")
        outbox).framesFor connection =
      outbox.framesFor connection ++ List.replicate (connections.count connection) lifeRequest := by
  induction connections generalizing outbox with
  | nil =>
      simp
  | cons other connections inductionHypothesis =>
      rw [List.foldl_cons, inductionHypothesis, Outbox.framesFor_push, List.count_cons]
      by_cases own : other = connection
      · simp [own, List.replicate_succ, lifeRequest]
      · simp [own]

/-- A connection that is bound to one slot is listed once. -/
theorem count_connections (only : state.tables.IsOnly connection id) :
    state.sessions.connections.count connection = 1 := by
  have once : ∀ (slots : List Session) (id : Nat),
      (∀ other, (slots[other]?.bind Session.connection) = some connection ↔ other = id) →
        (slots.filterMap Session.connection).count connection = 1 := by
    intro slots
    induction slots with
    | nil =>
        intro id only
        cases (only id).2 rfl
    | cons session slots inductionHypothesis =>
        intro id only
        cases id with
        | zero =>
            have bound : session.connection = some connection := (only 0).2 rfl
            have later : connection ∉ slots.filterMap Session.connection := by
              intro member
              obtain ⟨other, listed, same⟩ := List.mem_filterMap.1 member
              obtain ⟨place, held⟩ := List.mem_iff_getElem?.1 listed
              refine absurd ((only (place + 1)).1 ?_) (Nat.succ_ne_zero place)
              rw [List.getElem?_cons_succ, held]
              exact same
            rw [List.filterMap_cons_some bound, List.count_cons_self,
              List.count_eq_zero_of_not_mem later]
        | succ id =>
            have apart : session.connection ≠ some connection := fun bound =>
              Nat.succ_ne_zero id ((only 0).1 bound).symm
            have rest := inductionHypothesis id fun other =>
              (only (other + 1)).trans (Nat.succ_inj)
            cases bound : session.connection with
            | none =>
                rw [List.filterMap_cons_none bound]
                exact rest
            | some other =>
                rw [List.filterMap_cons_some bound, List.count_cons_of_ne, rest]
                exact fun same => apart (bound.trans (congrArg some same))
  exact once state.sessions.slots id only

theorem framesFor_pingAll (only : state.tables.IsOnly connection id) :
    state.pingAll.outbox.framesFor connection =
      state.outbox.framesFor connection ++ [lifeRequest] := by
  have asked := framesFor_foldl_ping state.sessions.connections connection state.outbox
  rw [count_connections only] at asked
  exact asked

end Transition

end Cardroom
