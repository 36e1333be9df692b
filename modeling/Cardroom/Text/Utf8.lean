/-!
# Text as bytes

Text travels in UTF-8. Bytes that ought to be text and are not can still be shown: each piece of
them that could not be continued to a character is shown as a replacement character.
-/

namespace Cardroom.Text

def bytes (text : String) : List UInt8 :=
  text.toList.flatMap String.utf8EncodeChar

def ofBytes? (bytes : List UInt8) : Option String :=
  String.fromUTF8? bytes.toByteArray

theorem toByteArray_bytes (text : String) : (bytes text).toByteArray = text.toByteArray := by
  rw [← String.ofList_toList (s := text), String.toByteArray_ofList, List.utf8Encode, bytes,
    String.toList_ofList]

@[simp]
theorem length_bytes (text : String) : (bytes text).length = text.utf8ByteSize := by
  rw [← List.size_toByteArray, toByteArray_bytes, String.size_toByteArray]

theorem ofBytes?_bytes (text : String) : ofBytes? (bytes text) = some text := by
  rw [ofBytes?, toByteArray_bytes, String.fromUTF8?, dif_pos text.isValidUTF8]
  rfl

theorem bytes_of_ofBytes? {bytes : List UInt8} {text : String} (read : ofBytes? bytes = some text) :
    Text.bytes text = bytes := by
  rw [ofBytes?, String.fromUTF8?] at read
  split at read
  · next valid =>
      cases read
      exact List.toByteArray_inj.1 (toByteArray_bytes _)
  · cases read

/-- An ASCII character is one byte, which is its number. -/
theorem bytes_ofList_of_ascii {letters : List Char}
    (ascii : ∀ letter ∈ letters, letter.toNat < 128) :
    bytes (String.ofList letters) = letters.map fun letter => UInt8.ofNat letter.toNat := by
  rw [bytes, String.toList_ofList]
  induction letters with
  | nil =>
      rfl
  | cons letter letters inductionHypothesis =>
      have first : letter.toNat < 128 := ascii letter List.mem_cons_self
      have single : String.utf8EncodeChar letter = [UInt8.ofNat letter.toNat] :=
        if_pos (Nat.le_of_lt_succ first)
      have rest := inductionHypothesis fun other member =>
        ascii other (List.mem_cons_of_mem letter member)
      rw [List.flatMap_cons, single, rest, List.map_cons, List.singleton_append]

/-- The bytes that may follow a first byte, one range for each, both ends included; `none` if no
character of two or more bytes starts with the byte. -/
def followers? (first : UInt8) : Option (List (UInt8 × UInt8)) :=
  let any : UInt8 × UInt8 := (0x80, 0xbf)
  if 0xc2 ≤ first ∧ first ≤ 0xdf then some [any]
  else if first = 0xe0 then some [(0xa0, 0xbf), any]
  else if first = 0xed then some [(0x80, 0x9f), any]
  else if 0xe1 ≤ first ∧ first ≤ 0xef then some [any, any]
  else if first = 0xf0 then some [(0x90, 0xbf), any, any]
  else if 0xf1 ≤ first ∧ first ≤ 0xf3 then some [any, any, any]
  else if first = 0xf4 then some [(0x80, 0x8f), any, any]
  else none

/-- How many of the leading bytes fit the ranges, each byte its own. -/
def fitting : List (UInt8 × UInt8) → List UInt8 → Nat
  | (low, high) :: ranges, byte :: rest =>
      if low ≤ byte ∧ byte ≤ high then fitting ranges rest + 1 else 0
  | _, _ => 0

def codePointOf (first : UInt8) (rest : List UInt8) : Nat :=
  let lead :=
    match rest.length with
    | 0 => first.toNat
    | 1 => first.toNat % 0x20
    | 2 => first.toNat % 0x10
    | _ => first.toNat % 0x8
  rest.foldl (fun number byte => number * 0x40 + byte.toNat % 0x40) lead

def replacement : Char := '\ufffd'

/-- The characters that the bytes encode. Where they encode none, the longest piece that starts a
character, or else a single byte, is shown as one replacement character. -/
def lossyChars : List UInt8 → List Char
  | [] => []
  | first :: rest =>
      if first < 0x80 then
        Char.ofNat first.toNat :: lossyChars rest
      else
        match followers? first with
        | none => replacement :: lossyChars rest
        | some ranges =>
            let count := fitting ranges rest
            let letter :=
              if count = ranges.length then
                Char.ofNat (codePointOf first (rest.take count))
              else
                replacement
            letter :: lossyChars (rest.drop count)
termination_by bytes => bytes.length
decreasing_by all_goals simp only [List.length_cons, List.length_drop]; omega

def lossy (bytes : List UInt8) : String :=
  String.ofList (lossyChars bytes)

end Cardroom.Text
