import Cardroom.Proofs.Card.Code

/-!
# The grammar of card lists

Which texts are lists of cards is said here by the letters alone. A text that is no list has an odd
number of bytes or a character that is not ASCII, or else a first pair of letters that is no code.
`ofListCode_reads` says that a list is read exactly if it is one, as the cards that it was written
from, and otherwise which of these flaws is found.
-/

namespace Cardroom.Card

def rankLetters : List Char :=
  ['A', '2', '3', '4', '5', '6', '7', '8', '9', 'X', 'J', 'Q', 'K']

def suitLetters : List Char :=
  ['H', 'D', 'C', 'S']

/-- The letters of one card: of its rank and its suit, or of a joker. -/
inductive IsCode : List Char → Prop
  | joker : IsCode ['Y', 'Y']
  | standard {rank suit : Char} :
      rank ∈ rankLetters → suit ∈ suitLetters → IsCode [rank, suit]

/-- Why two letters are not those of a card. The rank is looked at first. -/
inductive IsFlaw (first second : Char) : CodeError → Prop
  | rank :
      first ∉ rankLetters → ¬(first = 'Y' ∧ second = 'Y') →
      IsFlaw first second (.unknownRank (String.ofList [first, second]))
  | suit :
      first ∈ rankLetters → second ∉ suitLetters →
      IsFlaw first second (.unknownSuit (String.ofList [first, second]))

/-- A text that cannot be taken apart into pairs of ASCII characters. -/
def IsUneven (codes : String) : Prop :=
  codes.utf8ByteSize % 2 = 1 ∨ ∃ letter ∈ codes.toList, 128 ≤ letter.toNat

/-- Why a text is not a list of cards. -/
inductive IsMalformed (codes : String) : CodeError → Prop
  | oddLength : IsUneven codes → IsMalformed codes (.oddLength codes)
  | pair {before : List (List Char)} {first second : Char} {behind : List Char}
      {error : CodeError} :
      ¬ IsUneven codes →
      codes.toList = before.flatten ++ first :: second :: behind →
      (∀ code ∈ before, IsCode code) →
      IsFlaw first second error →
      IsMalformed codes error

theorem mem_rankLetters {letter : Char} :
    letter ∈ rankLetters ↔ ∃ rank : Rank, rank.symbol = letter := by
  have table : Rank.all.map Rank.symbol = rankLetters := by decide
  rw [← table, List.mem_map]
  exact ⟨fun ⟨rank, _, same⟩ => ⟨rank, same⟩, fun ⟨rank, same⟩ => ⟨rank, rank.mem_all, same⟩⟩

theorem mem_suitLetters {letter : Char} :
    letter ∈ suitLetters ↔ ∃ suit : Suit, suit.symbol = letter := by
  have table : Suit.all.map Suit.symbol = suitLetters := rfl
  rw [← table, List.mem_map]
  refine ⟨fun ⟨suit, _, same⟩ => ⟨suit, same⟩, fun ⟨suit, same⟩ => ⟨suit, ?_, same⟩⟩
  cases suit <;> decide

theorem ofSymbol?_rank_eq_none {letter : Char} :
    Rank.ofSymbol? letter = none ↔ letter ∉ rankLetters := by
  rw [mem_rankLetters, Rank.ofSymbol?, List.find?_eq_none]
  simp only [beq_iff_eq, not_exists]
  exact ⟨fun none rank => none rank rank.mem_all, fun none rank _ => none rank⟩

theorem ofSymbol?_suit_eq_none {letter : Char} :
    Suit.ofSymbol? letter = none ↔ letter ∉ suitLetters := by
  rw [mem_suitLetters, Suit.ofSymbol?, List.find?_eq_none]
  simp only [beq_iff_eq, not_exists]
  refine ⟨fun none suit => none suit ?_, fun none suit _ => none suit⟩
  cases suit <;> decide

/-- The letters of a card are those of its code. -/
theorem isCode_iff {letters : List Char} :
    IsCode letters ↔ ∃ card : Card, card.codeChars = letters := by
  constructor
  · rintro (_ | ⟨ranked, suited⟩)
    · exact ⟨.joker, rfl⟩
    · obtain ⟨rank, rfl⟩ := mem_rankLetters.1 ranked
      obtain ⟨suit, rfl⟩ := mem_suitLetters.1 suited
      exact ⟨.standard rank suit, rfl⟩
  · rintro ⟨card, rfl⟩
    cases card with
    | joker =>
        exact .joker
    | standard rank suit =>
        exact .standard (mem_rankLetters.2 ⟨rank, rfl⟩) (mem_suitLetters.2 ⟨suit, rfl⟩)

theorem ofPair_eq_error_iff {first second : Char} {error : CodeError} :
    ofPair first second = .error error ↔ IsFlaw first second error := by
  constructor
  · intro refused
    unfold ofPair at refused
    split at refused
    · cases refused
    · next standard =>
        split at refused
        · next none =>
            cases refused
            exact .rank (ofSymbol?_rank_eq_none.1 none) standard
        · next rank ranked =>
            split at refused
            · next none =>
                cases refused
                exact .suit (mem_rankLetters.2 ⟨rank, Rank.symbol_of_ofSymbol? ranked⟩)
                  (ofSymbol?_suit_eq_none.1 none)
            · cases refused
  · rintro (⟨unranked, standard⟩ | ⟨ranked, unsuited⟩)
    · have none := ofSymbol?_rank_eq_none.2 unranked
      have real : ¬(first = jokerLetter ∧ second = jokerLetter) := standard
      rw [ofPair, if_neg real, none]
    · obtain ⟨rank, rfl⟩ := mem_rankLetters.1 ranked
      have standard : ¬(rank.symbol = jokerLetter ∧ second = jokerLetter) :=
        fun joker => symbol_ne_jokerLetter rank joker.1
      rw [ofPair, if_neg standard, rank.ofSymbol?_symbol]
      simp only [ofSymbol?_suit_eq_none.2 unsuited]

/-- What stands in front of a list of codes does not keep the list from being read. -/
theorem ofPairs_flatMap_append (cards : List Card) (letters : List Char) :
    ofPairs (cards.flatMap codeChars ++ letters) = (ofPairs letters).map (cards ++ ·) := by
  induction cards with
  | nil =>
      rw [List.flatMap_nil, List.nil_append]
      cases ofPairs letters <;> rfl
  | cons card cards inductionHypothesis =>
      obtain ⟨first, second, pair⟩ := List.length_eq_two.1 card.length_codeChars
      rw [List.flatMap_cons, List.append_assoc, pair, List.cons_append, List.singleton_append,
        ofPairs, ofPair_eq_ok_iff.2 pair.symm, inductionHypothesis]
      cases ofPairs letters <;> rfl

/-- The first pair that is no code decides the error. -/
theorem ofPairs_eq_error_iff {letters : List Char} {error : CodeError} :
    ofPairs letters = .error error ↔
      ∃ (cards : List Card) (first second : Char) (behind : List Char),
        letters = cards.flatMap codeChars ++ first :: second :: behind ∧
          ofPair first second = .error error := by
  constructor
  · intro refused
    fun_induction ofPairs letters with
    | case1 first second behind other refusal =>
        cases refused
        exact ⟨[], first, second, behind, rfl, refusal⟩
    | case2 first second rest card read inductionHypothesis =>
        cases later : ofPairs rest with
        | ok cards =>
            rw [later] at refused
            cases refused
        | error other =>
            rw [later] at refused
            cases refused
            obtain ⟨cards, third, fourth, behind, rfl, flaw⟩ := inductionHypothesis later
            refine ⟨card :: cards, third, fourth, behind, ?_, flaw⟩
            rw [List.flatMap_cons, ← ofPair_eq_ok_iff.1 read]
            rfl
    | case3 =>
        cases refused
  · rintro ⟨cards, first, second, behind, rfl, flaw⟩
    rw [ofPairs_flatMap_append, ofPairs, flaw]
    rfl

/-- Codes one after the other are those of some cards. -/
theorem exists_cards_of_codes {codes : List (List Char)} (all : ∀ code ∈ codes, IsCode code) :
    ∃ cards : List Card, cards.flatMap codeChars = codes.flatten := by
  induction codes with
  | nil =>
      exact ⟨[], rfl⟩
  | cons code codes inductionHypothesis =>
      obtain ⟨first, others⟩ := List.forall_mem_cons.1 all
      obtain ⟨card, rfl⟩ := isCode_iff.1 first
      obtain ⟨cards, same⟩ := inductionHypothesis others
      exact ⟨card :: cards, by rw [List.flatMap_cons, same, List.flatten_cons]⟩

theorem forall_isCode_map_codeChars (cards : List Card) :
    ∀ code ∈ cards.map codeChars, IsCode code :=
  List.forall_mem_map.2 fun card _ => isCode_iff.2 ⟨card, rfl⟩

theorem ofListCode_of_isUneven {codes : String} (uneven : IsUneven codes) :
    ofListCode codes = .error (.oddLength codes) := by
  refine if_neg ?_
  rintro ⟨even, ascii⟩
  rcases uneven with odd | ⟨letter, member, wide⟩
  · omega
  · have narrow := of_decide_eq_true (List.all_eq_true.1 ascii letter member)
    omega

theorem ofListCode_of_not_isUneven {codes : String} (even : ¬ IsUneven codes) :
    ofListCode codes = ofPairs codes.toList := by
  rw [IsUneven, not_or, not_exists] at even
  obtain ⟨pairs, ascii⟩ := even
  refine if_pos ⟨by omega, List.all_eq_true.2 fun letter member => decide_eq_true ?_⟩
  exact Nat.lt_of_not_le fun wide => ascii letter ⟨member, wide⟩

theorem ofListCode_eq_error_iff {codes : String} {error : CodeError} :
    ofListCode codes = .error error ↔ IsMalformed codes error := by
  by_cases uneven : IsUneven codes
  · rw [ofListCode_of_isUneven uneven]
    constructor
    · rintro ⟨⟩
      exact .oddLength uneven
    · rintro (_ | even)
      · rfl
      · exact absurd uneven even
  · rw [ofListCode_of_not_isUneven uneven, ofPairs_eq_error_iff]
    constructor
    · rintro ⟨cards, first, second, behind, whole, flaw⟩
      rw [List.flatMap_def] at whole
      exact .pair uneven whole (forall_isCode_map_codeChars cards) (ofPair_eq_error_iff.1 flaw)
    · rintro (odd | ⟨-, whole, coded, flaw⟩)
      · exact absurd odd uneven
      · obtain ⟨cards, same⟩ := exists_cards_of_codes coded
        exact ⟨cards, _, _, _, by rw [whole, same], ofPair_eq_error_iff.2 flaw⟩

theorem exists_ofListCode_eq_ok_iff {codes : String} :
    (∃ cards, ofListCode codes = .ok cards) ↔
      ∃ pieces : List (List Char), codes.toList = pieces.flatten ∧
        ∀ code ∈ pieces, IsCode code := by
  constructor
  · rintro ⟨cards, read⟩
    refine ⟨cards.map codeChars, ?_, forall_isCode_map_codeChars cards⟩
    rw [ofListCode_eq_ok_iff.1 read, listCode, String.toList_ofList, List.flatMap_def]
  · rintro ⟨pieces, whole, coded⟩
    obtain ⟨cards, same⟩ := exists_cards_of_codes coded
    refine ⟨cards, ofListCode_eq_ok_iff.2 ?_⟩
    rw [listCode, same, ← whole, String.ofList_toList]

/-- No pair is refused for the length of the list. -/
theorem ofListCode_eq_oddLength_iff {codes : String} :
    (∃ text, ofListCode codes = .error (.oddLength text)) ↔ IsUneven codes := by
  constructor
  · rintro ⟨text, refused⟩
    rcases ofListCode_eq_error_iff.1 refused with uneven | ⟨-, -, -, flaw⟩
    · exact uneven
    · cases flaw
  · exact fun uneven => ⟨codes, ofListCode_of_isUneven uneven⟩

/-- Cards are read from the list that is written of them, and only from that. A text is read exactly
if it is a list of codes, and refused for its length, or else for the first of its pairs that is no
code. -/
theorem ofListCode_reads (codes : String) (cards : List Card) :
    ofListCode (listCode cards) = .ok cards ∧
      (ofListCode codes = .ok cards → listCode cards = codes) ∧
      ((∃ read, ofListCode codes = .ok read) ↔
        ∃ pieces : List (List Char), codes.toList = pieces.flatten ∧
          ∀ code ∈ pieces, IsCode code) ∧
      ((∃ text, ofListCode codes = .error (.oddLength text)) ↔
        codes.utf8ByteSize % 2 = 1 ∨ ∃ letter ∈ codes.toList, 128 ≤ letter.toNat) ∧
      ∀ error, ofListCode codes = .error error ↔ IsMalformed codes error :=
  ⟨ofListCode_listCode cards, fun read => (ofListCode_eq_ok_iff.1 read).symm,
    exists_ofListCode_eq_ok_iff, ofListCode_eq_oddLength_iff, fun _ => ofListCode_eq_error_iff⟩

end Cardroom.Card
