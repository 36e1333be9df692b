/-!
# Fields of a text

A bar separates the fields of a request.
-/

namespace Cardroom.Text

def separator : Char := '|'

def cutChars? : List Char → Option (List Char × List Char)
  | [] => none
  | letter :: rest =>
      if letter = separator then
        some ([], rest)
      else
        (cutChars? rest).map fun parts => (letter :: parts.1, parts.2)

def cut? (text : String) : Option (String × String) :=
  (cutChars? text.toList).map fun parts => (String.ofList parts.1, String.ofList parts.2)

def joined (between : String) : List String → String
  | [] => ""
  | [text] => text
  | text :: rest => text ++ between ++ joined between rest

end Cardroom.Text
