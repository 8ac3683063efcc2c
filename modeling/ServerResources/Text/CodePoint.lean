/-!
# Code points

A text is a sequence of code points, and not every code point is a character: an
escape can name a surrogate without its partner.  Such a code point is held as
two characters, a mark and a character for private use that tells which one it
is.  The mark is the last character before the surrogates and is held in the
same way; every other code point is held as the character that it names.

The form keeps what is asked about texts.  Two texts are equal, begin alike and
are in order just as their code points are; the form of two texts one after the
other is the one of both; and neither the mark nor a character for private use
has a case.  Only to write a text down, or to quote it, its code points have to
be read back.
-/

namespace ServerResources.Text

/-- The last character before the surrogates. -/
def mark : Char := '\ud7ff'

/-- Whether a code point is one half of a pair that names a character. -/
def isSurrogate (code : Nat) : Bool :=
  0xD800 ≤ code && code < 0xE000

/-- Whether a code point is held behind a mark. -/
def isMarked (code : Nat) : Bool :=
  code = mark.toNat || isSurrogate code

/-- The distance from a marked code point to the character behind its mark. -/
def privateOffset : Nat := 0x801

/-- The characters that hold a code point. -/
def held (code : Nat) : List Char :=
  if isMarked code then [mark, Char.ofNat (code + privateOffset)] else [Char.ofNat code]

/-- The text of some code points. -/
def ofCodePoints (codes : List Nat) : String :=
  String.ofList (codes.flatMap held)

/-- The code points that characters hold. -/
def heldCodes : List Char → List Nat
  | [] => []
  | [character] => [character.toNat]
  | first :: second :: rest =>
      let code := second.toNat - privateOffset
      if first = mark ∧ isMarked code then code :: heldCodes rest
      else first.toNat :: heldCodes (second :: rest)

/-- The code points of a text. -/
def codePoints (text : String) : List Nat :=
  heldCodes text.toList

/-- Whether a text can be written in UTF-8, which has no form for a surrogate. -/
def isEncodable (text : String) : Bool :=
  !(codePoints text).any isSurrogate

end ServerResources.Text
