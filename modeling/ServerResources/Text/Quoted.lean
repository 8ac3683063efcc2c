import ServerResources.Text.CodePoint
import ServerResources.Text.Printable

/-!
# Quoted texts

How messages quote a name.  It stands between single quotes, or between double
quotes if it has single quotes and no double ones, so that it seldom needs
escapes for quotes.  The quote around it and the backslash are escaped, and so is
everything that cannot be shown: three characters by a letter, all else by the code
point.
-/

namespace ServerResources.Text

/-- The last hexadecimal digits of a number, the first of them first. -/
def hexDigits : Nat → Nat → List Char
  | 0, _ => []
  | count + 1, number => hexDigits count (number / 16) ++ [Nat.digitChar (number % 16)]

/-- The escape for a code point, as short as it can be. -/
def escapeByCode (code : Nat) : List Char :=
  if code < 0x100 then '\\' :: 'x' :: hexDigits 2 code
  else if code < 0x10000 then '\\' :: 'u' :: hexDigits 4 code
  else '\\' :: 'U' :: hexDigits 8 code

/-- A character as it stands between two of these quotes. -/
def quoteCharacter (quote character : Char) : List Char :=
  if character = quote ∨ character = '\\' then ['\\', character]
  else if character = '\t' then ['\\', 't']
  else if character = '\n' then ['\\', 'n']
  else if character = '\r' then ['\\', 'r']
  else if isPrintable character then [character]
  else escapeByCode character.toNat

/-- A code point as it stands between two of these quotes. -/
def quoteCode (quote : Char) (code : Nat) : List Char :=
  if isSurrogate code then escapeByCode code else quoteCharacter quote (Char.ofNat code)

/-- The quote that a text is put between. -/
def quoteFor (characters : List Char) : Char :=
  if characters.contains '\'' && !characters.contains '"' then '"' else '\''

/-- A text between quotes. -/
def quoted (text : String) : String :=
  let quote := quoteFor text.toList
  String.ofList (quote :: (codePoints text).flatMap (quoteCode quote) ++ [quote])

theorem length_hexDigits (count number : Nat) : (hexDigits count number).length = count := by
  induction count generalizing number with
  | zero => rfl
  | succ count ih => simp [hexDigits, ih]

/-- Between quotes, the quote stands only behind a backslash. -/
theorem quoteCharacter_self (quote : Char) : quoteCharacter quote quote = ['\\', quote] := by
  simp [quoteCharacter]

/-- A text is put between double quotes only if it has none. -/
theorem not_mem_of_quoteFor_eq {characters : List Char} (double : quoteFor characters = '"') :
    '"' ∉ characters := by
  by_cases single : '\'' ∈ characters
  · by_cases present : '"' ∈ characters
    · simp [quoteFor, single, present] at double
    · exact present
  · simp [quoteFor, single] at double

end ServerResources.Text
