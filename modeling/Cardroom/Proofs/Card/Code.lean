import Cardroom.Card.Code
import Cardroom.Proofs.Text.Size
import Cardroom.Proofs.Text.Split

/-!
# Reading codes

A text is read as a card, or as a list of cards, exactly if it is the code of that card or the codes
of these cards. `ofCode_eq_ok_iff` and `ofListCode_eq_ok_iff` say so; before them stands what the
characters of a code are.
-/

namespace Cardroom

theorem Rank.symbol_of_ofSymbol? {letter : Char} {rank : Rank}
    (found : ofSymbol? letter = some rank) : rank.symbol = letter := by
  have named := List.find?_some found
  exact beq_iff_eq.1 named

theorem Suit.symbol_of_ofSymbol? {letter : Char} {suit : Suit}
    (found : ofSymbol? letter = some suit) : suit.symbol = letter := by
  have named := List.find?_some found
  exact beq_iff_eq.1 named

namespace Card

theorem length_codeChars (card : Card) : card.codeChars.length = 2 := by
  cases card <;> rfl

theorem isAlphanum_of_mem_codeChars {card : Card} {letter : Char}
    (member : letter ∈ card.codeChars) : letter.isAlphanum = true := by
  cases card with
  | joker =>
      obtain rfl : letter = jokerLetter := by simpa [codeChars] using member
      rfl
  | standard rank suit =>
      have ranks : ∀ rank ∈ Rank.all, rank.symbol.isAlphanum = true := by decide
      have suits : suit.symbol.isAlphanum = true := by cases suit <;> rfl
      rcases List.mem_pair.1 member with rfl | rfl
      · exact ranks rank rank.mem_all
      · exact suits

/-- A list of codes holds no mark that is neither a letter nor a digit. -/
theorem not_mem_listCode {mark : Char} (plain : mark.isAlphanum = false) (cards : List Card) :
    mark ∉ (listCode cards).toList := by
  rw [listCode, String.toList_ofList]
  intro member
  obtain ⟨card, -, letter⟩ := List.mem_flatMap.1 member
  rw [isAlphanum_of_mem_codeChars letter] at plain
  cases plain

theorem codeChars_inj {card card' : Card} (same : card.codeChars = card'.codeChars) :
    card = card' := by
  have read := ofCode_code card
  rw [show card.code = card'.code from congrArg String.ofList same, ofCode_code] at read
  exact (Except.ok.inj read).symm

/-- A code ends after its second character. -/
theorem separates_codeChars : Text.Separates (fun _ => True) (fun _ => True) codeChars where
  visible {card} _ empty := by
    have two := length_codeChars card
    rw [empty] at two
    cases two
  nil := trivial
  append _ _ := trivial
  first {card card' _ _} _ _ _ _ same := by
    obtain ⟨codes, rest⟩ := List.append_inj same (by rw [length_codeChars, length_codeChars])
    exact ⟨codeChars_inj codes, rest⟩

theorem listCode_inj {cards cards' : List Card} (same : listCode cards = listCode cards') :
    cards = cards' :=
  separates_codeChars.flatMap_inj (fun _ _ => trivial) (fun _ _ => trivial)
    (String.ofList_injective same)

theorem listCode_ne_empty {cards : List Card} (some : cards ≠ []) : listCode cards ≠ "" :=
  fun empty => some (listCode_inj (empty.trans rfl : listCode cards = listCode []))

theorem toNat_lt_of_mem_codeChars {card : Card} {letter : Char}
    (member : letter ∈ card.codeChars) : letter.toNat < 128 := by
  cases card with
  | joker =>
      obtain rfl : letter = jokerLetter := by simpa [codeChars] using member
      decide
  | standard rank suit =>
      have ranks : ∀ rank ∈ Rank.all, rank.symbol.toNat < 128 := by decide
      have suits : suit.symbol.toNat < 128 := by cases suit <;> decide
      rcases List.mem_pair.1 member with rfl | rfl
      · exact ranks rank rank.mem_all
      · exact suits

theorem size_of_ascii {letters : List Char} (ascii : ∀ letter ∈ letters, letter.toNat < 128) :
    Text.size letters = letters.length :=
  Text.size_eq_length fun letter member =>
    Char.utf8Size_eq_one_iff.2 (Nat.le_of_lt_succ (ascii letter member))

/-- The two characters of a code are one byte each. -/
theorem size_codeChars (card : Card) : Text.size card.codeChars = 2 :=
  (size_of_ascii fun _ => toNat_lt_of_mem_codeChars).trans card.length_codeChars

theorem utf8ByteSize_code (card : Card) : card.code.utf8ByteSize = 2 := by
  rw [code, Text.utf8ByteSize_ofList, size_codeChars]

theorem utf8ByteSize_listCode (cards : List Card) :
    (listCode cards).utf8ByteSize = 2 * cards.length := by
  rw [listCode, Text.utf8ByteSize_ofList]
  induction cards with
  | nil =>
      rfl
  | cons card cards inductionHypothesis =>
      rw [List.flatMap_cons, Text.size_append, size_codeChars, inductionHypothesis,
        List.length_cons]
      omega

theorem ofPair_eq_ok_iff {first second : Char} {card : Card} :
    ofPair first second = .ok card ↔ [first, second] = card.codeChars := by
  constructor
  · intro read
    unfold ofPair at read
    split at read
    · next jokers =>
        cases read
        rw [jokers.1, jokers.2]
        rfl
    · split at read
      · cases read
      · next rank named =>
          split at read
          · cases read
          · next suit suited =>
              cases read
              rw [codeChars, Rank.symbol_of_ofSymbol? named, Suit.symbol_of_ofSymbol? suited]
  · intro same
    have code : card.code = String.ofList [first, second] := congrArg String.ofList same.symm
    have read := ofCode_code card
    rwa [code, ofCode, String.toList_ofList] at read

theorem ofCode_eq_ok_iff {code : String} {card : Card} :
    ofCode code = .ok card ↔ code = card.code := by
  constructor
  · intro read
    unfold ofCode at read
    split at read
    · next first second letters =>
        rw [← String.ofList_toList (s := code), letters, ofPair_eq_ok_iff.1 read, Card.code]
    · cases read
  · rintro rfl
    exact ofCode_code card

theorem ofPairs_flatMap_codeChars (cards : List Card) :
    ofPairs (cards.flatMap codeChars) = .ok cards := by
  induction cards with
  | nil =>
      rfl
  | cons card cards inductionHypothesis =>
      obtain ⟨first, second, pair⟩ := List.length_eq_two.1 card.length_codeChars
      rw [List.flatMap_cons, pair, List.cons_append, List.singleton_append, ofPairs,
        ofPair_eq_ok_iff.2 pair.symm, inductionHypothesis]
      rfl

/-- Characters that fall into pairs are read pair by pair. -/
theorem flatMap_codeChars_of_ofPairs {letters : List Char} {cards : List Card}
    (even : letters.length % 2 = 0) (read : ofPairs letters = .ok cards) :
    cards.flatMap codeChars = letters := by
  fun_induction ofPairs letters generalizing cards with
  | case1 =>
      cases read
  | case2 first second rest card pair inductionHypothesis =>
      cases others : ofPairs rest with
      | error error =>
          rw [others] at read
          cases read
      | ok later =>
          rw [others] at read
          cases read
          have rest : rest.length % 2 = 0 := by
            simp only [List.length_cons] at even
            omega
          rw [List.flatMap_cons, ← ofPair_eq_ok_iff.1 pair, inductionHypothesis rest others]
          rfl
  | case3 letters short =>
      cases read
      match letters with
      | [] => rfl
      | [_] => cases even
      | first :: second :: rest => exact absurd rfl (short first second rest)

theorem ofListCode_listCode (cards : List Card) : ofListCode (listCode cards) = .ok cards := by
  have whole : (listCode cards).utf8ByteSize % 2 = 0 := by
    rw [utf8ByteSize_listCode]
    omega
  have ascii : (listCode cards).toList.all fun letter => letter.toNat < 128 := by
    rw [listCode, String.toList_ofList, List.all_eq_true]
    intro letter member
    obtain ⟨card, -, present⟩ := List.mem_flatMap.1 member
    exact decide_eq_true (toNat_lt_of_mem_codeChars present)
  rw [ofListCode, if_pos ⟨whole, ascii⟩, listCode, String.toList_ofList,
    ofPairs_flatMap_codeChars]

/-- A text is read as some cards exactly if it is their codes. -/
theorem ofListCode_eq_ok_iff {codes : String} {cards : List Card} :
    ofListCode codes = .ok cards ↔ codes = listCode cards := by
  constructor
  · intro read
    unfold ofListCode at read
    split at read
    · next well =>
        obtain ⟨even, ascii⟩ := well
        have narrow : ∀ letter ∈ codes.toList, letter.toNat < 128 := fun letter member =>
          of_decide_eq_true (List.all_eq_true.1 ascii letter member)
        rw [Text.utf8ByteSize_eq, size_of_ascii narrow] at even
        rw [listCode, flatMap_codeChars_of_ofPairs even read, String.ofList_toList]
    · cases read
  · rintro rfl
    exact ofListCode_listCode cards

end Card

end Cardroom
