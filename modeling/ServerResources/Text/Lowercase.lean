import ServerResources.Text.Cased
import ServerResources.Text.CaseIgnorable
import ServerResources.Text.Lowering

/-!
# Texts in small letters

Every capital letter becomes its small letter.  Two letters need more than that:
the dotted capital I becomes two characters, and the capital sigma becomes the
final small sigma where it ends a word.
-/

namespace ServerResources.Text

/-- The capital sigma, which has two small letters. -/
def capitalSigma : Char := '\u03a3'

/-- The small sigma inside a word. -/
def medialSigma : Char := '\u03c3'

/-- The small sigma at the end of a word. -/
def finalSigma : Char := '\u03c2'

/-- The capital I with a dot, whose small letters are an i and a dot above. -/
def dottedCapitalI : Char := '\u0130'

/-- Whether the next character that has a say about case is a letter with case. -/
def beginsWithLetter (characters : List Char) : Bool :=
  match characters.dropWhile isCaseIgnorable with
  | [] => false
  | character :: _ => isCased character

/-- The small letters of a text, given the characters before it in reverse. -/
def lowercaseFrom (before : List Char) : List Char → List Char
  | [] => []
  | character :: rest =>
      let small :=
        if character = capitalSigma then
          if beginsWithLetter before && !beginsWithLetter rest then [finalSigma]
          else [medialSigma]
        else if character = dottedCapitalI then ['i', '\u0307']
        else [lowerCharacter character]
      small ++ lowercaseFrom (character :: before) rest

/-- A text in small letters. -/
def lowercase (text : String) : String :=
  String.ofList (lowercaseFrom [] text.toList)

end ServerResources.Text
