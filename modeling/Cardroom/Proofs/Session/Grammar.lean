import Cardroom.Proofs.Session.Login

/-!
# The grammar of login requests

What a payload asks for is said here by its bytes and letters alone. `ofPayload_asks` says that
every payload is read as what it asks for, and that a player whose name was accepted once can come
back with any token.
-/

namespace Cardroom

/-- The text of a token: ten letters or digits. -/
def Token.IsText (text : String) : Prop :=
  text.length = 10 ∧ ∀ letter ∈ text.toList, letter.isAlphanum

namespace LoginRequest

def HasNickSize (nick : String) : Prop :=
  1 ≤ nick.utf8ByteSize ∧ nick.utf8ByteSize ≤ 31

/-- What a payload asks for, or what is wrong with it. The name ends before the first bar, and the
token may hold others. -/
inductive Asks (payload : String) : Except LoginError LoginRequest → Prop
  | new :
      '|' ∉ payload.toList → HasNickSize payload →
      Asks payload (.ok (.new payload))
  | reconnect {nick token : String} :
      payload = nick ++ "|" ++ token → '|' ∉ nick.toList → HasNickSize nick →
      Token.IsText token →
      Asks payload (.ok (.reconnect nick token))
  | badNick {nick : String} :
      (payload = nick ∨ ∃ rest, payload = nick ++ "|" ++ rest) → '|' ∉ nick.toList →
      ¬ HasNickSize nick →
      Asks payload (.error .badNick)
  | badToken {nick token : String} :
      payload = nick ++ "|" ++ token → '|' ∉ nick.toList → HasNickSize nick →
      ¬ Token.IsText token →
      Asks payload (.error .badToken)

variable {payload nick token : String}

theorem isNick_iff : isNick nick = true ↔ HasNickSize nick := by
  have empty : nick ≠ "" ↔ 1 ≤ nick.utf8ByteSize := by
    rw [Nat.one_le_iff_ne_zero, ne_eq, ne_eq, String.utf8ByteSize_eq_zero_iff]
  rw [isNick, Bool.and_eq_true, decide_eq_true_eq, decide_eq_true_eq, empty]
  rfl

/-- Letters and digits are one byte each. -/
theorem isWellFormed_iff : Token.isWellFormed token = true ↔ Token.IsText token := by
  rw [Token.isWellFormed, Bool.and_eq_true, beq_iff_eq, List.all_eq_true]
  refine and_congr_left fun plain => ?_
  have ascii : ∀ letter ∈ token.toList, letter.toNat < 128 :=
    fun letter member => Token.toNat_lt_of_isAlphanum (plain letter member)
  have size : token.utf8ByteSize = token.length := by
    rw [← Text.length_bytes, ← String.ofList_toList (s := token), Text.bytes_ofList_of_ascii ascii,
      List.length_map, String.length_ofList]
  rw [size]
  rfl

/-- A payload is read as what it asks for. -/
theorem asks_ofPayload (payload : String) : Asks payload (ofPayload payload) := by
  unfold ofPayload
  split
  · next whole =>
      have plain := Text.cut?_eq_none.1 whole
      split
      · next sized =>
          exact .new plain (isNick_iff.1 sized)
      · next sized =>
          exact .badNick (.inl rfl) plain (mt isNick_iff.2 sized)
  · next nick token parts =>
      obtain ⟨whole, plain⟩ := Text.cut?_eq_some.1 parts
      split
      · next sized =>
          have wrong : ¬ isNick nick = true := by simpa using sized
          exact .badNick (.inr ⟨token, whole⟩) plain (mt isNick_iff.2 wrong)
      · next sized =>
          have right : isNick nick = true := by simpa using sized
          split
          · next formed =>
              exact .reconnect whole plain (isNick_iff.1 right) (isWellFormed_iff.1 formed)
          · next formed =>
              exact .badToken whole plain (isNick_iff.1 right) (mt isWellFormed_iff.2 formed)

/-- A payload asks for one thing only. -/
theorem Asks.eq_ofPayload {result : Except LoginError LoginRequest}
    (asks : Asks payload result) : ofPayload payload = result := by
  unfold ofPayload
  cases asks with
  | new plain sized =>
      rw [Text.cut?_eq_none.2 plain]
      simp only [isNick_iff.2 sized, if_true]
  | reconnect whole plain sized formed =>
      rw [Text.cut?_eq_some.2 ⟨whole, plain⟩]
      simp [isNick_iff.2 sized, isWellFormed_iff.2 formed]
  | badNick parts plain wrong =>
      have refused := eq_false_of_ne_true (mt isNick_iff.1 wrong)
      rcases parts with rfl | ⟨rest, whole⟩
      · rw [Text.cut?_eq_none.2 plain]
        simp [refused]
      · rw [Text.cut?_eq_some.2 ⟨whole, plain⟩]
        simp [refused]
  | badToken whole plain sized wrong =>
      have refused := eq_false_of_ne_true (mt isWellFormed_iff.1 wrong)
      rw [Text.cut?_eq_some.2 ⟨whole, plain⟩]
      simp [isNick_iff.2 sized, refused]

/-- What a payload is read as depends on its name, up to the first bar, and on the token behind it.
A name that is read as a new one is read again in front of any token. -/
theorem ofPayload_asks (payload : String) (result : Except LoginError LoginRequest) :
    (ofPayload payload = result ↔ Asks payload result) ∧
      ∀ nick token, ofPayload payload = .ok (.new nick) → Token.IsText token →
        ofPayload (nick ++ "|" ++ token) = .ok (.reconnect nick token) := by
  refine ⟨⟨fun read => read ▸ asks_ofPayload payload, Asks.eq_ofPayload⟩, ?_⟩
  intro nick token read formed
  have asks := asks_ofPayload payload
  rw [read] at asks
  cases asks with
  | new plain sized =>
      exact Asks.eq_ofPayload (.reconnect rfl plain sized formed)

end LoginRequest

end Cardroom
