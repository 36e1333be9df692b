import Cardroom.Proofs.Room.Requests
import Cardroom.Proofs.Text.Split

/-!
# Reading the list of rooms

The list has a line for each room, and a player takes from it which rooms there are. It says so
without ambiguity as long as no room's name looks like the end of a line with the number of another
room after it (`listed_eq_of_list?_eq`). Such names fit into the fifteen bytes that a name may have,
and are accepted: `list?_of_forged_name` shows one room that reads like two. What the members of a
room are told of each other has no such trouble, as no player's name has a bar in it.
-/

namespace Cardroom

/-- What the list of rooms tells of a room. -/
@[ext]
structure Room.Listed where
  id : Nat
  name : String
  memberCount : Nat
  status : Room.Status
deriving DecidableEq, Repr

def Room.listed (room : Room) : Room.Listed where
  id := room.id
  name := room.name
  memberCount := room.members.length
  status := room.status

namespace Room

theorem Status.symbol_inj {status status' : Room.Status} (same : status.symbol = status'.symbol) :
    status = status' := by
  revert same
  cases status <;> cases status' <;> decide

def lineTail (memberCount : Nat) (status : Room.Status) : List Char :=
  Nat.toDigits 10 memberCount ++ '/' :: '2' :: ')' :: '|' :: status.symbol :: [',', '\n']

def lineEnd (memberCount : Nat) (status : Room.Status) : List Char :=
  '|' :: '(' :: lineTail memberCount status

/-- Whether nothing in a name looks like the end of a line before the number of another room. -/
def IsPlainName (name : String) : Prop :=
  ∀ before after memberCount status digit, Char.isDigit digit = true →
    name.toList ≠ before ++ (lineEnd memberCount status ++ digit :: after)

/-- The end of a line has a line feed in it. -/
theorem isPlainName_of_not_mem {name : String} (single : '\n' ∉ name.toList) :
    IsPlainName name := by
  intro before after memberCount status digit _ whole
  refine single ?_
  rw [whole]
  simp [lineEnd, lineTail]

/-- The end of a line has no other bracket that opens. -/
theorem not_mem_lineTail (memberCount : Nat) (status : Room.Status) :
    '(' ∉ lineTail memberCount status := by
  have digits : '(' ∉ Nat.toDigits 10 memberCount := Text.not_mem_toDigits rfl memberCount
  cases status <;> simp [lineTail, digits, Status.symbol]

theorem lineTail_append_inj {count count' : Nat} {status status' : Room.Status}
    {rest rest' : List Char}
    (same : lineTail count status ++ rest = lineTail count' status' ++ rest') :
    count = count' ∧ status = status' ∧ rest = rest' := by
  simp only [lineTail, List.append_assoc, List.cons_append] at same
  obtain ⟨digits, others⟩ := Text.append_cons_inj (Text.not_mem_toDigits rfl count)
    (Text.not_mem_toDigits rfl count') same
  simp only [List.nil_append, List.cons.injEq, true_and] at others
  exact ⟨Text.toDigits_inj digits, Status.symbol_inj others.1, others.2⟩

namespace Listed

variable {listed listed' : Listed} {rest rest' : List Char}

def line (listed : Listed) : List Char :=
  Nat.toDigits 10 listed.id ++
    '|' :: (listed.name.toList ++ lineEnd listed.memberCount listed.status)

/-- Whether a text is empty or begins with a digit, as what follows a line does. -/
def Follows (rest : List Char) : Prop :=
  ∀ letter ∈ rest.head?, Char.isDigit letter = true

theorem not_follows_cons {letter : Char} (other : letter.isDigit = false) (rest : List Char) :
    ¬ Follows (letter :: rest) := by
  intro follows
  have digit := follows letter rfl
  rw [other] at digit
  cases digit

/-- The end of one line does not begin within that of another. -/
theorem eq_nil_of_overlap {more shared rest'' : List Char} {count : Nat} {status : Room.Status}
    (follows : Follows rest) (whole : lineEnd count status = more ++ shared)
    (overlap : '|' :: '(' :: rest'' = shared ++ rest) :
    more = [] := by
  match shared with
  | [] =>
      obtain rfl : _ = rest := overlap
      exact absurd follows (not_follows_cons rfl _)
  | [_] =>
      obtain rfl : _ = rest := (List.cons.inj overlap).2
      exact absurd follows (not_follows_cons rfl _)
  | _ :: _ :: shared =>
      obtain ⟨rfl, opening⟩ := List.cons.inj overlap
      obtain ⟨rfl, -⟩ := List.cons.inj opening
      match more with
      | [] =>
          rfl
      | [letter] =>
          simp [lineEnd] at whole
      | letter :: letter' :: more =>
          have inside : '(' ∈ lineTail count status := by
            rw [(List.cons.inj (List.cons.inj whole).2).2]
            simp
          exact absurd inside (not_mem_lineTail count status)

/-- Where the name of one line ends, a longer name goes on. It would have the end of that line and a
digit in it. -/
theorem eq_nil_of_longer {name : String} {before more rest'' : List Char} {count : Nat}
    {status : Room.Status} (plain : IsPlainName name) (longer : name.toList = before ++ more)
    (follows : Follows rest)
    (same : lineEnd count status ++ rest = more ++ '|' :: '(' :: rest'') :
    more = [] := by
  rcases List.append_eq_append_iff.1 same with ⟨after, rfl, shown⟩ | ⟨shared, whole, overlap⟩
  · cases after with
    | nil =>
        exact absurd (shown ▸ follows) (not_follows_cons rfl _)
    | cons digit after =>
        have numeral : digit.isDigit = true := follows digit (by rw [shown]; rfl)
        exact absurd longer (plain before after count status digit numeral)
  · exact eq_nil_of_overlap follows whole overlap

theorem name_eq (plain : IsPlainName listed.name) (plain' : IsPlainName listed'.name)
    (follows : Follows rest) (follows' : Follows rest')
    (same : listed.name.toList ++ (lineEnd listed.memberCount listed.status ++ rest) =
      listed'.name.toList ++ (lineEnd listed'.memberCount listed'.status ++ rest')) :
    listed.name = listed'.name := by
  rcases List.append_eq_append_iff.1 same with ⟨more, longer, ends⟩ | ⟨more, longer, ends⟩
  · rw [eq_nil_of_longer plain' longer follows ends, List.append_nil] at longer
    exact (String.toList_inj.1 longer).symm
  · rw [eq_nil_of_longer plain longer follows' ends, List.append_nil] at longer
    exact String.toList_inj.1 longer

/-- A line tells the room, and where the next line begins. -/
theorem separates_line : Text.Separates (fun listed => IsPlainName listed.name) Follows line where
  visible _ := by simp [line]
  nil letter shown := by cases shown
  append {listed} _ rest letter shown := by
    refine Nat.isDigit_of_mem_toDigits (b := 10) (n := listed.id) (by decide) (by decide) ?_
    obtain ⟨digit, digits, whole⟩ := List.exists_cons_of_ne_nil (l := Nat.toDigits 10 listed.id)
      (by simp)
    rw [line, whole] at shown
    obtain rfl := Option.some.inj shown
    rw [whole]
    exact List.mem_cons_self
  first {listed listed' rest rest'} plain plain' follows follows' same := by
    simp only [line, List.append_assoc, List.cons_append] at same
    obtain ⟨ids, others⟩ := Text.append_cons_inj (Text.not_mem_toDigits rfl _)
      (Text.not_mem_toDigits rfl _) same
    have names := name_eq plain plain' follows follows' others
    rw [names, List.append_cancel_left_eq, lineEnd, lineEnd] at others
    obtain ⟨counts, stages, rests⟩ :=
      lineTail_append_inj (List.cons.inj (List.cons.inj others).2).2
    exact ⟨Listed.ext (Text.toDigits_inj ids) names counts stages, rests⟩

end Listed

theorem toList_summary (room : Room) : room.summary.toList = room.listed.line := by
  simp [summary, Listed.line, listed, lineEnd, lineTail, places]
  rfl

end Room

/-- What the members of a room are told of one of them. -/
@[ext]
structure Member.Shown where
  nick : String
  ready : Bool
  owns : Bool
deriving DecidableEq, Repr

namespace Member.Shown

def line (shown : Member.Shown) : List Char :=
  shown.nick.toList ++ '|' :: ((if shown.ready then "READY" else "NOT READY").toList ++
    '|' :: ((if shown.owns then "OWNER" else "GUEST").toList ++ [',']))

/-- A member's part tells the member, and where the next one begins. -/
theorem separates_line :
    Text.Separates (fun shown => '|' ∉ shown.nick.toList) (fun _ => True) line where
  visible _ := by simp [line]
  nil := trivial
  append _ _ := trivial
  first {shown shown' rest rest'} plain plain' _ _ same := by
    simp only [line, List.append_assoc, List.cons_append] at same
    obtain ⟨nicks, others⟩ := Text.append_cons_inj plain plain' same
    have unbarred (ready : Bool) : '|' ∉ (if ready then "READY" else "NOT READY").toList := by
      cases ready <;> decide
    obtain ⟨ready, others⟩ := Text.append_cons_inj (unbarred _) (unbarred _) others
    have five (owns : Bool) : (if owns then "OWNER" else "GUEST").toList.length = 5 := by
      cases owns <;> decide
    obtain ⟨owns, rests⟩ := List.append_inj others (by rw [five, five])
    refine ⟨Member.Shown.ext (String.toList_inj.1 nicks) ?_ ?_, (List.cons.inj rests).2⟩
    · revert ready
      cases shown.ready <;> cases shown'.ready <;> decide
    · revert owns
      cases shown.owns <;> cases shown'.owns <;> decide

end Member.Shown

namespace Room

def shown (sessions : SessionTable) (room : Room) : List Member.Shown :=
  room.members.map fun member =>
    { nick := ((sessions.get? member.session).map Session.name).getD ""
      ready := member.ready
      owns := member.session = room.owner }

theorem toList_info (sessions : SessionTable) (room : Room) :
    (room.info sessions).toList = (room.shown sessions).flatMap Member.Shown.line := by
  rw [info, String.toList_join, shown, List.flatMap_map, List.flatMap_map]
  refine List.flatMap_congr fun member _ => ?_
  simp [memberInfo, Member.Shown.line]

/-- What the members are told shows who they are, as far as they are told. -/
theorem shown_eq_of_info_eq {sessions sessions' : SessionTable} {room room' : Room}
    (plain : ∀ shown ∈ room.shown sessions, '|' ∉ shown.nick.toList)
    (plain' : ∀ shown ∈ room'.shown sessions', '|' ∉ shown.nick.toList)
    (same : room.info sessions = room'.info sessions') :
    room.shown sessions = room'.shown sessions' := by
  refine Member.Shown.separates_line.flatMap_inj plain plain' ?_
  rw [← toList_info, ← toList_info, same]

end Room

namespace RoomTable

/-- The list, line after line. Without rooms there are no lines. -/
theorem toList_list? (table : RoomTable) :
    (table.list?.getD "").toList = (table.rooms.map Room.listed).flatMap Room.Listed.line := by
  have lines : table.list?.getD "" = String.join (table.rooms.map Room.summary) := by
    unfold list?
    split
    · next none =>
        rw [none]
        rfl
    · rfl
  rw [lines, String.toList_join, List.flatMap_map, List.flatMap_map]
  exact List.flatMap_congr fun room _ => room.toList_summary

/-- Two tables whose lists read the same have the same rooms, as far as the list tells of them, if
their names are plain. -/
theorem listed_eq_of_list?_eq {table table' : RoomTable}
    (plain : ∀ room ∈ table.rooms, Room.IsPlainName room.name)
    (plain' : ∀ room ∈ table'.rooms, Room.IsPlainName room.name)
    (same : table.list? = table'.list?) :
    table.rooms.map Room.listed = table'.rooms.map Room.listed := by
  refine Room.Listed.separates_line.flatMap_inj (List.forall_mem_map.2 plain)
    (List.forall_mem_map.2 plain') ?_
  rw [← toList_list?, ← toList_list?, same]

/-- The list does not tell who owns a room. -/
theorem listed_eq_of_other_owners :
    let table := run 2 [.create "den" 0, .create "hut" 1]
    let table' := run 2 [.create "den" 4, .create "hut" 3, .join 0 1, .leave 0 4]
    table ≠ table' ∧ table.list? = table'.list? ∧
      table.rooms.map Room.listed = table'.rooms.map Room.listed := by
  have plain : ∀ name ∈ ["den", "hut"], Room.IsPlainName name := fun name listed =>
    Room.isPlainName_of_not_mem (by revert name; decide)
  exact ⟨by decide +kernel, by decide +kernel,
    listed_eq_of_list?_eq (fun room found => plain _ (by revert room; decide +kernel))
      (fun room found => plain _ (by revert room; decide +kernel)) (by decide +kernel)⟩

/-- A name of fourteen bytes that reads like the rest of one line and the beginning of another. -/
theorem list?_of_forged_name :
    let forged := run 2 [.create "a|(1/2)|W,\n1|b" 0]
    let honest := run 2 [.create "a" 0, .create "b" 1]
    forged.list? = honest.list? ∧
      forged.rooms.map Room.listed ≠ honest.rooms.map Room.listed := by
  decide +kernel

end RoomTable

end Cardroom
