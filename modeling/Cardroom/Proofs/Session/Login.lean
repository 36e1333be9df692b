import Cardroom.Session.Login
import Cardroom.Text.Utf8

/-!
# Reading login requests

A bar parts the name from the token, and no name has a bar in it. So a payload names one player and
one token, and only one payload does.
-/

namespace Cardroom

namespace Text

theorem cutChars?_eq_none {letters : List Char} :
    cutChars? letters = none ↔ separator ∉ letters := by
  induction letters with
  | nil =>
      simp [cutChars?]
  | cons letter letters inductionHypothesis =>
      by_cases here : letter = separator
      · simp [cutChars?, here]
      · simp [cutChars?, here, inductionHypothesis, Ne.symm here]

theorem cutChars?_eq_some {letters left right : List Char} :
    cutChars? letters = some (left, right) ↔
      letters = left ++ separator :: right ∧ separator ∉ left := by
  induction letters generalizing left with
  | nil =>
      simp [cutChars?]
  | cons letter letters inductionHypothesis =>
      by_cases here : letter = separator
      · subst here
        simp only [cutChars?, if_true, Option.some.injEq, Prod.mk.injEq]
        constructor
        · rintro ⟨rfl, rfl⟩
          simp
        · rintro ⟨whole, plain⟩
          cases left with
          | nil =>
              exact ⟨rfl, (List.cons.inj whole).2⟩
          | cons first left =>
              exact absurd ((List.cons.inj whole).1 ▸ List.mem_cons_self) plain
      · simp only [cutChars?, if_neg here, Option.map_eq_some_iff, Prod.mk.injEq, Prod.exists]
        constructor
        · rintro ⟨first, rest, found, rfl, rfl⟩
          obtain ⟨rfl, plain⟩ := inductionHypothesis.1 found
          simp [plain, Ne.symm here]
        · rintro ⟨whole, plain⟩
          cases left with
          | nil =>
              exact absurd (List.cons.inj whole).1 here
          | cons first left =>
              obtain ⟨rfl, rest⟩ := List.cons.inj whole
              refine ⟨left, right, inductionHypothesis.2 ⟨rest, ?_⟩, rfl, rfl⟩
              exact fun later => plain (List.mem_cons_of_mem _ later)

theorem cut?_eq_none {text : String} : cut? text = none ↔ separator ∉ text.toList := by
  rw [cut?, Option.map_eq_none_iff, cutChars?_eq_none]

theorem cut?_eq_some {text left right : String} :
    cut? text = some (left, right) ↔
      text = left ++ "|" ++ right ∧ separator ∉ left.toList := by
  have parts : text = left ++ "|" ++ right ↔
      text.toList = left.toList ++ separator :: right.toList := by
    rw [← String.toList_inj, String.toList_append, String.toList_append, List.append_assoc]
    rfl
  rw [parts, cut?, ← cutChars?_eq_some, Option.map_eq_some_iff]
  constructor
  · rintro ⟨⟨first, rest⟩, found, same⟩
    cases same
    simpa using found
  · intro found
    exact ⟨_, found, by simp⟩

end Text

namespace Token

theorem toNat_lt_of_isAlphanum {letter : Char} (plain : letter.isAlphanum) :
    letter.toNat < 128 := by
  delta Char.isAlphanum Char.isAlpha Char.isUpper Char.isLower Char.isDigit at plain
  simp only [Bool.or_eq_true, Bool.and_eq_true, decide_eq_true_eq, ge_iff_le,
    UInt32.le_iff_toNat_le] at plain
  have capital : 'Z'.val.toNat = 90 := rfl
  have small : 'z'.val.toNat = 122 := rfl
  have digit : '9'.val.toNat = 57 := rfl
  simp only [Char.toNat]
  omega

theorem isWellFormed_text (token : Token) : isWellFormed token.text := by
  have ascii : ∀ letter ∈ token.letters, letter.toNat < 128 :=
    fun letter member => toNat_lt_of_isAlphanum (token.alphanumeric letter member)
  have size : token.text.utf8ByteSize = Token.size := by
    rw [← Text.length_bytes, text, Text.bytes_ofList_of_ascii ascii, List.length_map,
      token.length_letters]
  rw [isWellFormed, size, Bool.and_eq_true]
  refine ⟨rfl, ?_⟩
  rw [text, String.toList_ofList]
  exact List.all_eq_true.2 token.alphanumeric

end Token

namespace LoginRequest

variable {payload nick token : String}

structure IsName (nick : String) : Prop where
  isNick : isNick nick
  plain : Text.separator ∉ nick.toList

theorem IsName.short (name : IsName nick) : nick.utf8ByteSize ≤ longestNick := by
  have fits := name.isNick
  simp only [LoginRequest.isNick, Bool.and_eq_true, decide_eq_true_eq] at fits
  exact fits.2

theorem ofPayload_eq_new (accepted : ofPayload payload = .ok (.new nick)) :
    payload = nick ∧ IsName nick := by
  unfold ofPayload at accepted
  split at accepted
  · next whole =>
      split at accepted
      · next fits =>
          cases accepted
          exact ⟨rfl, fits, Text.cut?_eq_none.1 whole⟩
      · cases accepted
  · split at accepted
    · cases accepted
    · split at accepted <;> cases accepted

theorem ofPayload_eq_reconnect :
    ofPayload payload = .ok (.reconnect nick token) ↔
      payload = nick ++ "|" ++ token ∧ IsName nick ∧ Token.isWellFormed token := by
  unfold ofPayload
  constructor
  · intro accepted
    split at accepted
    · split at accepted <;> cases accepted
    · next parts =>
        obtain ⟨whole, plain⟩ := Text.cut?_eq_some.1 parts
        split at accepted
        · cases accepted
        · next fits =>
            split at accepted
            · next sound =>
                cases accepted
                exact ⟨whole, ⟨by simpa using fits, plain⟩, sound⟩
            · cases accepted
  · rintro ⟨whole, name, sound⟩
    rw [Text.cut?_eq_some.2 ⟨whole, name.plain⟩]
    simp [name.isNick, sound]

end LoginRequest

end Cardroom
