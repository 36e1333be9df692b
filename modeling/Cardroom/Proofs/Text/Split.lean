import Mathlib.Data.List.Basic
import Cardroom.Text.Fields

/-!
# Texts that fall apart in one way

What the server tells is put together from parts, and a mark between two parts that neither of them
holds shows where they meet. Parts that are written one after the other can all be told from the
text, if it shows where the first of them ends.
-/

namespace Cardroom.Text

section Mark

variable {mark : Char} {left right left' right' : List Char}

/-- A mark that is in neither first part tells where both end. -/
theorem append_cons_inj (clear : mark ∉ left) (clear' : mark ∉ left')
    (same : left ++ mark :: right = left' ++ mark :: right') :
    left = left' ∧ right = right' := by
  rcases List.append_eq_append_iff.1 same with ⟨more, longer, rest⟩ | ⟨more, longer, rest⟩ <;>
    cases more with
    | nil =>
        simp_all
    | cons letter more =>
        obtain ⟨rfl, -⟩ := List.cons.inj rest
        simp_all

/-- A mark that is in neither last part tells where both begin. -/
theorem append_cons_inj_right (clear : mark ∉ right) (clear' : mark ∉ right')
    (same : left ++ mark :: right = left' ++ mark :: right') :
    left = left' ∧ right = right' := by
  have reversed : right.reverse ++ mark :: left.reverse =
      right'.reverse ++ mark :: left'.reverse := by
    simpa using congrArg List.reverse same
  obtain ⟨last, first⟩ := append_cons_inj (by simpa using clear) (by simpa using clear') reversed
  exact ⟨List.reverse_inj.1 first, List.reverse_inj.1 last⟩

end Mark

@[simp]
theorem toList_toString (number : Nat) : (toString number).toList = Nat.toDigits 10 number :=
  Nat.toList_repr

theorem toDigits_inj {number number' : Nat}
    (same : Nat.toDigits 10 number = Nat.toDigits 10 number') :
    number = number' := by
  rw [← Nat.ofDigitChars_toDigits (b := 10) (n := number) (by decide) (by decide), same,
    Nat.ofDigitChars_toDigits (by decide) (by decide)]

/-- No mark but a digit stands in a number. -/
theorem not_mem_toDigits {mark : Char} (plain : mark.isDigit = false) (number : Nat) :
    mark ∉ Nat.toDigits 10 number := by
  intro member
  rw [Nat.isDigit_of_mem_toDigits (by decide) (by decide) member] at plain
  cases plain

theorem toList_joined_cons (mark : Char) (text : String) {texts : List String} (more : texts ≠ []) :
    (joined (String.singleton mark) (text :: texts)).toList =
      text.toList ++ mark :: (joined (String.singleton mark) texts).toList := by
  rw [joined, String.toList_append, String.toList_append, String.toList_singleton,
    List.append_assoc, List.singleton_append]
  exact more

/-- Each text but the first has the separator in front of it. -/
theorem joined_cons (between text : String) (texts : List String) :
    joined between (text :: texts) = text ++ String.join (texts.map (between ++ ·)) := by
  induction texts generalizing text with
  | nil =>
      simp [joined]
  | cons next texts inductionHypothesis =>
      rw [joined, inductionHypothesis, List.map_cons, String.join_cons, String.append_assoc,
        String.append_assoc]
      exact List.cons_ne_nil next texts

theorem not_mem_joined {mark between : Char} (different : mark ≠ between) {texts : List String}
    (clear : ∀ text ∈ texts, mark ∉ text.toList) :
    mark ∉ (joined (String.singleton between) texts).toList := by
  induction texts with
  | nil =>
      exact List.not_mem_nil
  | cons text texts inductionHypothesis =>
      obtain ⟨plain, others⟩ := List.forall_mem_cons.1 clear
      by_cases last : texts = []
      · rw [last]
        exact plain
      · rw [toList_joined_cons between text last]
        simp [plain, different, inductionHypothesis others]

/-- Texts without the mark can be told from the text that joins them. One empty text reads like no
text at all. -/
theorem joined_inj {mark : Char} {texts texts' : List String}
    (clear : ∀ text ∈ texts, mark ∉ text.toList) (clear' : ∀ text ∈ texts', mark ∉ text.toList)
    (inhabited : texts ≠ []) (inhabited' : texts' ≠ [])
    (same : joined (String.singleton mark) texts = joined (String.singleton mark) texts') :
    texts = texts' := by
  induction texts generalizing texts' with
  | nil =>
      exact absurd rfl inhabited
  | cons text texts inductionHypothesis =>
      obtain ⟨text', texts', rfl⟩ := List.exists_cons_of_ne_nil inhabited'
      obtain ⟨plain, others⟩ := List.forall_mem_cons.1 clear
      obtain ⟨plain', others'⟩ := List.forall_mem_cons.1 clear'
      by_cases last : texts = [] <;> by_cases last' : texts' = []
      · rw [last, last'] at same ⊢
        exact congrArg (fun only => [only]) same
      · rw [last, ← String.toList_inj, toList_joined_cons mark text' last'] at same
        exact absurd (same ▸ List.mem_append_right _ List.mem_cons_self) plain
      · rw [last', ← String.toList_inj, toList_joined_cons mark text last] at same
        exact absurd (same ▸ List.mem_append_right _ List.mem_cons_self) plain'
      · rw [← String.toList_inj, toList_joined_cons mark text last,
          toList_joined_cons mark text' last'] at same
        obtain ⟨first, rest⟩ := append_cons_inj plain plain' same
        rw [String.toList_inj.1 first,
          inductionHypothesis others others' last last' (String.toList_inj.1 rest)]

/-- Texts of which none is empty can also be told from no text at all. -/
theorem joined_inj_of_visible {mark : Char} {texts texts' : List String}
    (clear : ∀ text ∈ texts, mark ∉ text.toList) (clear' : ∀ text ∈ texts', mark ∉ text.toList)
    (visible : ∀ text ∈ texts, text ≠ "") (visible' : ∀ text ∈ texts', text ≠ "")
    (same : joined (String.singleton mark) texts = joined (String.singleton mark) texts') :
    texts = texts' := by
  have shown {texts : List String} (visible : ∀ text ∈ texts, text ≠ "")
      (empty : joined (String.singleton mark) texts = "") : texts = [] := by
    cases texts with
    | nil =>
        rfl
    | cons text texts =>
        by_cases last : texts = []
        · rw [last] at empty
          exact absurd empty (visible text List.mem_cons_self)
        · rw [← String.toList_inj, toList_joined_cons mark text last] at empty
          simp at empty
  by_cases none : texts = [] <;> by_cases none' : texts' = []
  · rw [none, none']
  · rw [none] at same
    exact absurd (shown visible' same.symm) none'
  · rw [none'] at same
    exact absurd (shown visible same) none
  · exact joined_inj clear clear' none none' same

/-- A way of writing items one after the other from which they can be told: what is written begins
with the first item, and shows where it ends. What can come after an item may be restricted. -/
structure Separates {Item : Type} (accepts : Item → Prop) (follows : List Char → Prop)
    (write : Item → List Char) : Prop where
  visible : ∀ {item}, accepts item → write item ≠ []
  nil : follows []
  append : ∀ {item}, accepts item → ∀ rest, follows (write item ++ rest)
  first : ∀ {item item' rest rest'}, accepts item → accepts item' → follows rest → follows rest' →
    write item ++ rest = write item' ++ rest' → item = item' ∧ rest = rest'

namespace Separates

variable {Item : Type} {accepts : Item → Prop} {follows : List Char → Prop}
  {write : Item → List Char} {items items' : List Item}

theorem follows_flatMap (separates : Separates accepts follows write)
    (accepted : ∀ item ∈ items, accepts item) :
    follows (items.flatMap write) := by
  cases items with
  | nil =>
      exact separates.nil
  | cons item items =>
      rw [List.flatMap_cons]
      exact separates.append (accepted item List.mem_cons_self) _

/-- The items can be told from what is written. -/
theorem flatMap_inj (separates : Separates accepts follows write)
    (accepted : ∀ item ∈ items, accepts item) (accepted' : ∀ item ∈ items', accepts item)
    (same : items.flatMap write = items'.flatMap write) :
    items = items' := by
  induction items generalizing items' with
  | nil =>
      cases items' with
      | nil =>
          rfl
      | cons item' items' =>
          have empty := (List.append_eq_nil_iff.1 (same.symm.trans List.flatMap_nil)).1
          exact absurd empty (separates.visible (accepted' item' List.mem_cons_self))
  | cons item items inductionHypothesis =>
      obtain ⟨first, others⟩ := List.forall_mem_cons.1 accepted
      cases items' with
      | nil =>
          exact absurd (List.append_eq_nil_iff.1 same).1 (separates.visible first)
      | cons item' items' =>
          obtain ⟨first', others'⟩ := List.forall_mem_cons.1 accepted'
          obtain ⟨rfl, rest⟩ := separates.first first first' (separates.follows_flatMap others)
            (separates.follows_flatMap others') same
          rw [inductionHypothesis others others' rest]

end Separates

end Cardroom.Text
