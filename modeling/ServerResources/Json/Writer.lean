import ServerResources.Json
import ServerResources.Binary64.Shortest
import ServerResources.Text.CodePoint

/-!
# Writing JSON

Text without blanks.  Strings escape the quote, the backslash, the control
characters and the surrogates, which are no characters; every other code point
stands for itself.
-/

namespace ServerResources.Json

/-- Numbers keep a point, so that they read back as floating-point numbers. -/
def numberLayout : Binary64.Layout where
  positionalFrom := -4
  positionalBelow := 16
  integralSuffix := ".0"
  exponentWidth := 2
  infinity := "1e999"

/-- A code point inside a string. -/
def quotedCode (code : Nat) : String :=
  if code = '"'.toNat then "\\\""
  else if code = '\\'.toNat then "\\\\"
  else if code < 0x20 ∨ Text.isSurrogate code then
    let digits := Nat.toDigits 16 code
    "\\u" ++ String.ofList (List.replicate (4 - digits.length) '0' ++ digits)
  else String.singleton (Char.ofNat code)

/-- A string in quotes. -/
def quoted (text : String) : String :=
  "\"" ++ String.join ((Text.codePoints text).map quotedCode) ++ "\""

mutual

/-- The text of a value. -/
def text : Json → String
  | .null => "null"
  | .bool true => "true"
  | .bool false => "false"
  | .int value => toString value
  | .float value => numberLayout.text value
  | .string value => quoted value
  | .array items => "[" ++ String.intercalate "," (itemTexts items) ++ "]"
  | .object fields => "\x7b" ++ String.intercalate "," (fieldTexts fields) ++ "\x7d"

/-- The texts of the items of an array. -/
def itemTexts : List Json → List String
  | [] => []
  | item :: rest => text item :: itemTexts rest

/-- The texts of the fields of an object. -/
def fieldTexts : List (String × Json) → List String
  | [] => []
  | (name, value) :: rest => (quoted name ++ ":" ++ text value) :: fieldTexts rest

end

end ServerResources.Json
