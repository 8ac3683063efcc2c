import ServerResources.Json.Lexeme
import ServerResources.Text.Begins
import ServerResources.Text.CodePoint
import ServerResources.Text.Lowercase

/-!
# The form in which texts hold code points

The form can be read back, and two texts compare as their code points do: they are equal, one
begins with the other, or one comes before the other in the ascending order exactly if that is
so for the code points.  All of this follows from how the forms of two code points compare in
front of any other characters.
-/

namespace ServerResources.Text

/-- A number that is a code point. -/
def IsCodePoint (code : Nat) : Prop :=
  code < 0x110000

variable {code other : Nat} {codes others : List Nat}

theorem isMarked_iff (code : Nat) : isMarked code = true ↔ 0xD7FF ≤ code ∧ code < 0xE000 := by
  have first : mark.toNat = 0xD7FF := rfl
  simp only [isMarked, isSurrogate, first, Bool.or_eq_true, Bool.and_eq_true, decide_eq_true_eq]
  omega

theorem toNat_ofNat (valid : code.isValidChar) : (Char.ofNat code).toNat = code := by
  rw [Char.ofNat, dif_pos valid]
  rfl

/-! ## What holds a code point -/

/-- The character behind a mark is one for private use. -/
theorem toNat_behind_mark (marked : isMarked code = true) :
    (Char.ofNat (code + privateOffset)).toNat = code + privateOffset := by
  rw [isMarked_iff] at marked
  refine toNat_ofNat ?_
  simp only [Nat.isValidChar, privateOffset]
  omega

/-- A code point without a mark is a character. -/
theorem toNat_unmarked (valid : IsCodePoint code) (unmarked : isMarked code = false) :
    (Char.ofNat code).toNat = code := by
  rw [← Bool.not_eq_true, isMarked_iff] at unmarked
  refine toNat_ofNat ?_
  simp only [IsCodePoint] at valid
  simp only [Nat.isValidChar]
  omega

theorem held_marked (marked : isMarked code = true) :
    held code = [mark, Char.ofNat (code + privateOffset)] :=
  if_pos marked

theorem held_unmarked (unmarked : isMarked code = false) : held code = [Char.ofNat code] := by
  rw [held, unmarked]
  rfl

theorem ne_mark_of_unmarked (valid : IsCodePoint code) (unmarked : isMarked code = false) :
    Char.ofNat code ≠ mark := by
  intro equal
  have same : code = mark.toNat := by rw [← equal, toNat_unmarked valid unmarked]
  rw [same] at unmarked
  cases unmarked

/-! ## Reading back -/

/-- What holds a code point is read as that code point, whatever follows. -/
theorem heldCodes_held_append (valid : IsCodePoint code) (rest : List Char) :
    heldCodes (held code ++ rest) = code :: heldCodes rest := by
  cases marked : isMarked code with
  | true =>
      have back : (Char.ofNat (code + privateOffset)).toNat - privateOffset = code := by
        rw [toNat_behind_mark marked, Nat.add_sub_cancel]
      rw [held_marked marked]
      simp only [List.cons_append, List.nil_append, heldCodes, back, marked, and_self, if_true]
  | false =>
      have back := toNat_unmarked valid marked
      have different := ne_mark_of_unmarked valid marked
      rw [held_unmarked marked]
      cases rest with
      | nil => simp only [List.append_nil, heldCodes, back]
      | cons next rest =>
          simp only [List.cons_append, List.nil_append, heldCodes, back, different, false_and,
            if_false]

/-- A text holds the code points that it was made from. -/
theorem codePoints_ofCodePoints (valid : ∀ code ∈ codes, IsCodePoint code) :
    codePoints (ofCodePoints codes) = codes := by
  rw [codePoints, ofCodePoints, String.toList_ofList]
  induction codes with
  | nil => rfl
  | cons code rest ih =>
      rw [List.flatMap_cons, heldCodes_held_append (valid code List.mem_cons_self),
        ih fun other member => valid other (List.mem_cons_of_mem _ member)]

/-- Different code points make different texts. -/
theorem ofCodePoints_inj (valid : ∀ code ∈ codes, IsCodePoint code)
    (validOthers : ∀ code ∈ others, IsCodePoint code) :
    ofCodePoints codes = ofCodePoints others ↔ codes = others := by
  constructor
  · intro equal
    rw [← codePoints_ofCodePoints valid, equal, codePoints_ofCodePoints validOthers]
  · exact congrArg ofCodePoints

/-- Of two texts one after the other the form is the one of both. -/
theorem ofCodePoints_append (codes others : List Nat) :
    ofCodePoints (codes ++ others) = ofCodePoints codes ++ ofCodePoints others := by
  rw [ofCodePoints, List.flatMap_append, String.ofList_append]
  rfl

/-- A text can be written exactly if none of its code points is a surrogate. -/
theorem isEncodable_ofCodePoints (valid : ∀ code ∈ codes, IsCodePoint code) :
    isEncodable (ofCodePoints codes) = true ↔ ∀ code ∈ codes, isSurrogate code = false := by
  simp [isEncodable, codePoints_ofCodePoints valid]

/-! ## Strings of JSON text -/

theorem isCodePoint_of_mem_joinSurrogates {units : List Nat}
    (valid : ∀ unit ∈ units, IsCodePoint unit) :
    ∀ code ∈ Json.Lexeme.joinSurrogates units, IsCodePoint code := by
  fun_induction Json.Lexeme.joinSurrogates units with
  | case1 => simp
  | case2 unit => simpa using valid
  | case3 high low rest pair ih =>
      rw [List.forall_mem_cons]
      refine ⟨?_, ih fun unit member => valid unit (by simp [member])⟩
      simp only [IsCodePoint]
      omega
  | case4 high low rest unpaired ih =>
      rw [List.forall_mem_cons] at valid ⊢
      exact ⟨valid.1, ih valid.2⟩

/-- A string of JSON text has the code points that its units join to, an unpaired surrogate
being one of them. -/
theorem codePoints_of_units {units : List Nat} (valid : ∀ unit ∈ units, IsCodePoint unit) :
    codePoints (ofCodePoints (Json.Lexeme.joinSurrogates units)) =
      Json.Lexeme.joinSurrogates units :=
  codePoints_ofCodePoints (isCodePoint_of_mem_joinSurrogates valid)

example : Json.Lexeme.joinSurrogates [0xD83D, 0xDE00, 0xD83D] = [0x1F600, 0xD83D] := by
  decide

/-! ## Order and beginnings -/

/-- Characters are in order as their code points are. -/
theorem cons_lt_cons_iff (first second : Char) (left right : List Char) :
    first :: left < second :: right ↔
      first.toNat < second.toNat ∨ first.toNat = second.toNat ∧ left < right := by
  rw [List.cons_lt_cons_iff, ← Char.toNat_inj]
  rfl

/-- In front of any characters, the forms of two code points are in order as these are. -/
theorem held_append_lt_iff (valid : IsCodePoint code) (validOther : IsCodePoint other)
    (left right : List Char) :
    held code ++ left < held other ++ right ↔ code < other ∨ code = other ∧ left < right := by
  have first : mark.toNat = 0xD7FF := rfl
  have span := isMarked_iff code
  have spanOther := isMarked_iff other
  cases marked : isMarked code <;> cases markedOther : isMarked other
  case true.true =>
    simp only [held_marked marked, held_marked markedOther, List.cons_append, List.nil_append,
      cons_lt_cons_iff, toNat_behind_mark marked, toNat_behind_mark markedOther,
      Nat.lt_irrefl, false_or, true_and, Nat.add_lt_add_iff_right, Nat.add_right_cancel_iff]
  case true.false =>
    simp only [held_marked marked, held_unmarked markedOther, List.cons_append, List.nil_append,
      cons_lt_cons_iff, toNat_unmarked validOther markedOther, first]
    simp only [marked, markedOther, true_iff, Bool.false_eq_true, false_iff] at span spanOther
    omega
  case false.true =>
    simp only [held_unmarked marked, held_marked markedOther, List.cons_append, List.nil_append,
      cons_lt_cons_iff, toNat_unmarked valid marked, first]
    simp only [marked, markedOther, true_iff, Bool.false_eq_true, false_iff] at span spanOther
    omega
  case false.false =>
    simp only [held_unmarked marked, held_unmarked markedOther, List.cons_append, List.nil_append,
      cons_lt_cons_iff, toNat_unmarked valid marked, toNat_unmarked validOther markedOther]

/-- Two texts are in order as their code points are. -/
theorem ofCodePoints_lt_iff (valid : ∀ code ∈ codes, IsCodePoint code)
    (validOthers : ∀ code ∈ others, IsCodePoint code) :
    ofCodePoints codes < ofCodePoints others ↔ codes < others := by
  rw [String.lt_iff, ofCodePoints, ofCodePoints, String.toList_ofList, String.toList_ofList]
  induction codes generalizing others with
  | nil =>
      cases others with
      | nil => simp
      | cons other others =>
          cases marked : isMarked other <;> simp [held, marked]
  | cons code codes ih =>
      cases others with
      | nil => simp
      | cons other others =>
          rw [List.forall_mem_cons] at valid validOthers
          rw [List.flatMap_cons, List.flatMap_cons, held_append_lt_iff valid.1 validOthers.1,
            ih valid.2 validOthers.2, List.cons_lt_cons_iff]

/-- The form of a code point begins with the one of another one only if they are the same. -/
theorem held_append_prefix_iff (valid : IsCodePoint code) (validOther : IsCodePoint other)
    (left right : List Char) :
    held code ++ left <+: held other ++ right ↔ code = other ∧ left <+: right := by
  constructor
  · rintro ⟨rest, equal⟩
    rw [List.append_assoc] at equal
    have codesEqual := congrArg heldCodes equal
    rw [heldCodes_held_append valid, heldCodes_held_append validOther] at codesEqual
    have same : code = other := (List.cons.inj codesEqual).1
    rw [same] at equal
    exact ⟨same, rest, List.append_cancel_left equal⟩
  · rintro ⟨rfl, rest, rfl⟩
    exact ⟨rest, List.append_assoc _ _ _⟩

/-- A text begins with another one exactly if its code points begin with those of the other. -/
theorem begins_ofCodePoints (valid : ∀ code ∈ codes, IsCodePoint code)
    (validOthers : ∀ code ∈ others, IsCodePoint code) :
    begins (ofCodePoints codes) (ofCodePoints others) = true ↔ codes <+: others := by
  rw [begins_iff, ofCodePoints, ofCodePoints, String.toList_ofList, String.toList_ofList]
  induction codes generalizing others with
  | nil => simp
  | cons code codes ih =>
      cases others with
      | nil =>
          cases marked : isMarked code <;> simp [held, marked]
      | cons other others =>
          rw [List.forall_mem_cons] at valid validOthers
          rw [List.flatMap_cons, List.flatMap_cons, held_append_prefix_iff valid.1 validOthers.1,
            ih valid.2 validOthers.2, List.cons_prefix_cons]

/-! ## Case -/

/-- What holds a marked code point lies from the mark to the last character behind one. -/
theorem toNat_of_mem_held (marked : isMarked code = true) {character : Char}
    (member : character ∈ held code) : 0xD7FF ≤ character.toNat ∧ character.toNat ≤ 0xE800 := by
  rw [held_marked marked, List.mem_cons, List.mem_singleton] at member
  rcases member with equal | equal
  · have first : mark.toNat = 0xD7FF := rfl
    rw [equal, first]
    omega
  · rw [equal, toNat_behind_mark marked, privateOffset]
    rw [isMarked_iff] at marked
    omega

theorem casedSpans_apart : ∀ span ∈ casedSpans, span.2 < 0xD7FF ∨ 0xE800 < span.1 := by
  decide +kernel

theorem caseIgnorableSpans_apart :
    ∀ span ∈ caseIgnorableSpans, span.2 < 0xD7FF ∨ 0xE800 < span.1 := by
  decide +kernel

theorem lowerings_apart : ∀ span ∈ lowerings, span.2.1 < 0xD7FF ∨ 0xE800 < span.1 := by
  decide +kernel

/-- What holds a marked code point has no case, is not looked through where the case of a
neighbour matters, and stays as it is in small letters. -/
theorem caseless_of_mem_held (marked : isMarked code = true) {character : Char}
    (member : character ∈ held code) :
    isCased character = false ∧ isCaseIgnorable character = false ∧
      lowerCharacter character = character := by
  obtain ⟨least, most⟩ := toNat_of_mem_held marked member
  refine ⟨?cased, ?ignorable, ?lower⟩
  case cased =>
    rw [isCased, List.any_eq_false]
    intro span found
    have apart := casedSpans_apart span found
    simp only [Bool.and_eq_true, decide_eq_true_eq]
    omega
  case ignorable =>
    rw [isCaseIgnorable, List.any_eq_false]
    intro span found
    have apart := caseIgnorableSpans_apart span found
    simp only [Bool.and_eq_true, decide_eq_true_eq]
    omega
  case lower =>
    have unfound : lowerings.find? (fun span =>
        span.1 ≤ character.toNat && character.toNat ≤ span.2.1 &&
          (character.toNat - span.1) % span.2.2.1 = 0) = none := by
      rw [List.find?_eq_none]
      intro span found
      have apart := lowerings_apart span found
      simp only [Bool.and_eq_true, decide_eq_true_eq]
      omega
    simp only [lowerCharacter, unfound]

end ServerResources.Text
