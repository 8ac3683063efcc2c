import ServerResources.Text.CodePoint

/-!
# Percent encoding

Characters that may not stand in an address are written as the bytes of their
UTF-8 form, each as a percent sign and two hexadecimal digits.  The texts come
from an address, where only characters can be written.
-/

namespace ServerResources.Text

/-- A byte as an escape. -/
def percentByte (byte : UInt8) : List Char :=
  let digit (value : Nat) : Char := (Nat.digitChar value).toUpper
  ['%', digit (byte.toNat / 16), digit (byte.toNat % 16)]

/-- A text with escapes for the characters that may not stay. -/
def percentEncode (stays : Char → Bool) (text : String) : String :=
  String.ofList <| (codePoints text).flatMap fun code =>
    let character := Char.ofNat code
    if stays character then [character]
    else (String.singleton character).toUTF8.toList.flatMap percentByte

/-- The characters that have no meaning of their own in an address. -/
def isUnreserved (character : Char) : Bool :=
  character.isAlphanum || "-._~".toList.contains character

/-- The characters that may stand in a path.  A question mark would begin a query,
and a number sign would end the address. -/
def staysInPath (character : Char) : Bool :=
  isUnreserved character || ":/%=@[]!$&'()*+,;".toList.contains character

/-- A path as it stands in an address. -/
def encodePath (path : String) : String :=
  percentEncode staysInPath path

/-- Names and values as the query of an address. -/
def encodeQuery (entries : List (String × String)) : String :=
  String.intercalate "&" <| entries.map fun entry =>
    percentEncode isUnreserved entry.1 ++ "=" ++ percentEncode isUnreserved entry.2

end ServerResources.Text
