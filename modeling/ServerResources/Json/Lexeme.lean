import ServerResources.Json
import ServerResources.Text.CodePoint

/-!
# Lexemes of JSON text

The text is read one character at a time by a machine with five states: between
lexemes, inside a bare word, inside a string, after a backslash, and inside a
`\u` escape.  Reading is a fold of that machine over the characters.

Escapes name units of 16 bits, so a character beyond them is written as a pair
of surrogates; `joinSurrogates` puts such pairs together once a string is
complete.  A surrogate that has no partner is not refused: it stays in the
string as a code point of its own.
-/

namespace ServerResources.Json

/-- The smallest pieces of JSON text that mean something. -/
inductive Lexeme where
  | openArray
  | closeArray
  | openObject
  | closeObject
  | comma
  | colon
  | text (value : String)
  /-- `null`, a truth value or a numeral. -/
  | scalar (value : Json)

namespace Lexeme

/-- The blanks that separate lexemes. -/
def isBlank (character : Char) : Bool :=
  character = ' ' || character = '\t' || character = '\n' || character = '\r'

/-- The lexemes of one character. -/
def ofPunctuation? : Char → Option Lexeme
  | '[' => some .openArray
  | ']' => some .closeArray
  | '{' => some .openObject
  | '}' => some .closeObject
  | ',' => some .comma
  | ':' => some .colon
  | _ => none

/-- The value of a run of decimal digits. -/
def digitsValue (digits : List Char) : Nat :=
  digits.foldl (fun value digit => value * 10 + (digit.toNat - '0'.toNat)) 0

/-- The exponent part of a numeral: empty, or a mark, a sign and digits. -/
def exponent? : List Char → Option Int
  | [] => some 0
  | mark :: rest =>
      let digits := match rest with
        | '+' :: digits => digits
        | '-' :: digits => digits
        | digits => digits
      if (mark = 'e' || mark = 'E') && !digits.isEmpty && digits.all Char.isDigit then
        let magnitude := Int.ofNat (digitsValue digits)
        some (if rest.head? = some '-' then -magnitude else magnitude)
      else none

/-- A numeral without its sign. -/
def unsigned? (negative : Bool) (characters : List Char) : Option Json :=
  let whole := characters.takeWhile Char.isDigit
  let rest := characters.dropWhile Char.isDigit
  let canonical := whole = ['0'] || (!whole.isEmpty && whole.head? != some '0')
  if !canonical then none
  else
    match rest with
    | [] =>
        let magnitude := Int.ofNat (digitsValue whole)
        some (.int (if negative then -magnitude else magnitude))
    | '.' :: rest =>
        let fraction := rest.takeWhile Char.isDigit
        if fraction.isEmpty then none
        else
          (exponent? (rest.dropWhile Char.isDigit)).map fun exponent =>
            .float (.ofDecimal negative (digitsValue (whole ++ fraction))
              (exponent - Int.ofNat fraction.length))
    | rest =>
        (exponent? rest).map fun exponent =>
          .float (.ofDecimal negative (digitsValue whole) exponent)

/-- The lexeme of a bare word. -/
def ofWord? (word : List Char) : Option Lexeme :=
  match word with
  | ['n', 'u', 'l', 'l'] => some (.scalar .null)
  | ['t', 'r', 'u', 'e'] => some (.scalar (.bool true))
  | ['f', 'a', 'l', 's', 'e'] => some (.scalar (.bool false))
  | '-' :: rest => (unsigned? true rest).map .scalar
  | characters => (unsigned? false characters).map .scalar

/-- Joins each pair of surrogates to the code point that it stands for.  Every other
unit is a code point itself, also a surrogate without a partner. -/
def joinSurrogates : List Nat → List Nat
  | [] => []
  | [unit] => [unit]
  | high :: low :: rest =>
      if 0xD800 ≤ high ∧ high < 0xDC00 ∧ 0xDC00 ≤ low ∧ low < 0xE000 then
        (0x10000 + (high - 0xD800) * 0x400 + (low - 0xDC00)) :: joinSurrogates rest
      else high :: joinSurrogates (low :: rest)

/-- The value of a hexadecimal digit. -/
def hexDigit? (character : Char) : Option Nat :=
  if '0' ≤ character ∧ character ≤ '9' then some (character.toNat - '0'.toNat)
  else if 'a' ≤ character ∧ character ≤ 'f' then some (character.toNat - 'a'.toNat + 10)
  else if 'A' ≤ character ∧ character ≤ 'F' then some (character.toNat - 'A'.toNat + 10)
  else none

/-- The character that a letter after a backslash stands for. -/
def escaped? : Char → Option Char
  | '"' => some '"'
  | '\\' => some '\\'
  | '/' => some '/'
  | 'b' => some '\x08'
  | 'f' => some '\x0c'
  | 'n' => some '\n'
  | 'r' => some '\r'
  | 't' => some '\t'
  | _ => none

/-- Where the machine stands inside the text; characters and units are held in
reverse. -/
inductive Place where
  | between
  | word (characters : List Char)
  | string (units : List Nat)
  | escape (units : List Nat)
  /-- After `count` of the four digits of an escape. -/
  | unit (units : List Nat) (count : Nat) (value : Nat)

/-- The machine: the lexemes so far, in reverse, and the place. -/
structure Scanner where
  lexemes : List Lexeme
  place : Place

namespace Scanner

/-- The machine before any text. -/
def start : Scanner :=
  ⟨[], .between⟩

/-- Reads a character that is not part of a word or a string. -/
def outside (lexemes : List Lexeme) (character : Char) : Scanner :=
  if isBlank character then ⟨lexemes, .between⟩
  else if character = '"' then ⟨lexemes, .string []⟩
  else
    match ofPunctuation? character with
    | some lexeme => ⟨lexeme :: lexemes, .between⟩
    | none => ⟨lexemes, .word [character]⟩

/-- Reads one character. -/
def step (scanner : Scanner) (character : Char) : Option Scanner :=
  match scanner.place with
  | .between => some (outside scanner.lexemes character)
  | .word characters =>
      if isBlank character || character = '"' || (ofPunctuation? character).isSome then
        (ofWord? characters.reverse).map fun lexeme =>
          outside (lexeme :: scanner.lexemes) character
      else some ⟨scanner.lexemes, .word (character :: characters)⟩
  | .string units =>
      if character = '"' then
        let text := Text.ofCodePoints (joinSurrogates units.reverse)
        some ⟨.text text :: scanner.lexemes, .between⟩
      else if character = '\\' then some ⟨scanner.lexemes, .escape units⟩
      else if character.toNat < 0x20 then none
      else some ⟨scanner.lexemes, .string (character.toNat :: units)⟩
  | .escape units =>
      if character = 'u' then some ⟨scanner.lexemes, .unit units 0 0⟩
      else
        (escaped? character).map fun meant =>
          ⟨scanner.lexemes, .string (meant.toNat :: units)⟩
  | .unit units count value =>
      (hexDigit? character).map fun digit =>
        let value := value * 16 + digit
        if count = 3 then ⟨scanner.lexemes, .string (value :: units)⟩
        else ⟨scanner.lexemes, .unit units (count + 1) value⟩

/-- The lexemes read, if the text may end here. -/
def finish? (scanner : Scanner) : Option (List Lexeme) :=
  match scanner.place with
  | .between => some scanner.lexemes.reverse
  | .word characters =>
      (ofWord? characters.reverse).map fun lexeme => (lexeme :: scanner.lexemes).reverse
  | _ => none

end Scanner

/-- The lexemes of a text. -/
def ofText? (text : String) : Option (List Lexeme) := do
  let scanner ← text.toList.foldlM Scanner.step Scanner.start
  scanner.finish?

end Lexeme

end ServerResources.Json
