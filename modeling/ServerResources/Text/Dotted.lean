/-!
# Dotted names

Names with parts that are separated by dots, as those of modules and classes.
-/

namespace ServerResources.Text

/-- What stands before and after the last dot. -/
def splitLastDot : List Char → Option (List Char × List Char)
  | [] => none
  | character :: rest =>
      match splitLastDot rest with
      | some (before, after) => some (character :: before, after)
      | none => if character = '.' then some ([], rest) else none

/-- What stands before each dot and the whole, from the shortest to the longest. -/
def dottedBeginnings : List Char → List (List Char)
  | [] => [[]]
  | character :: rest =>
      let longer := (dottedBeginnings rest).map (character :: ·)
      if character = '.' then [] :: longer else longer

/-- A dotted name and the names that it lies within, from the inside out. -/
def enclosing (name : String) : List String :=
  (dottedBeginnings name.toList).reverse.map String.ofList

theorem splitLastDot_eq_some {characters before after : List Char}
    (split : splitLastDot characters = some (before, after)) :
    characters = before ++ '.' :: after := by
  induction characters generalizing before with
  | nil => simp [splitLastDot] at split
  | cons character rest ih =>
      cases inRest : splitLastDot rest with
      | some parts =>
          simp only [splitLastDot, inRest, Option.some.injEq, Prod.mk.injEq] at split
          obtain ⟨rfl, rfl⟩ := split
          simp [ih inRest]
      | none =>
          by_cases dot : character = '.'
          · simp only [splitLastDot, inRest, dot, if_true, Option.some.injEq,
              Prod.mk.injEq] at split
            obtain ⟨rfl, rfl⟩ := split
            simp [dot]
          · simp [splitLastDot, inRest, dot] at split

end ServerResources.Text
