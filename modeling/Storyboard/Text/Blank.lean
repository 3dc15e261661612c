/-!
# Blank characters

The blanks trimmed from expressions, paths and number texts are the characters of the
Unicode `White_Space` property: the ASCII tab, line feed, vertical tab, form feed,
carriage return and space, and eighteen more (next line, no-break space, the Ogham
space mark, the spaces from en quad to hair space, the line and paragraph separators,
the narrow no-break space, the medium mathematical space and the ideographic space).
-/

namespace Storyboard

namespace Text

/-- Whether a character has the Unicode `White_Space` property. -/
def isBlank (c : Char) : Bool :=
  let n := c.toNat
  (9 ≤ n && n ≤ 13) || n == 32 || n == 0x85 || n == 0xa0 || n == 0x1680
    || (0x2000 ≤ n && n ≤ 0x200a) || n == 0x2028 || n == 0x2029 || n == 0x202f
    || n == 0x205f || n == 0x3000

/-- Drop blanks from the front of a list of characters. -/
def dropBlanks : List Char → List Char
  | [] => []
  | c :: cs => if isBlank c then dropBlanks cs else c :: cs

/-- Drop blanks from both ends of a list of characters. -/
def trimChars (cs : List Char) : List Char :=
  (dropBlanks (dropBlanks cs).reverse).reverse

theorem length_dropBlanks_le (cs : List Char) : (dropBlanks cs).length ≤ cs.length := by
  induction cs with
  | nil => simp [dropBlanks]
  | cons c cs ih =>
    unfold dropBlanks
    split
    · simp <;> omega
    · simp

/-- Trimming never lengthens a text. -/
theorem length_trimChars_le (cs : List Char) : (trimChars cs).length ≤ cs.length := by
  unfold trimChars
  simp only [List.length_reverse]
  have h1 := length_dropBlanks_le cs
  have h2 := length_dropBlanks_le (dropBlanks cs).reverse
  simp only [List.length_reverse] at h2
  omega

/-- A string without blanks at either end. -/
def trim (s : String) : String := String.ofList (trimChars s.toList)

/-- Every ASCII blank that core knows is a blank here too. -/
theorem isBlank_of_isWhitespace (c : Char) (h : c.isWhitespace = true) : isBlank c = true := by
  simp only [Char.isWhitespace, Bool.or_eq_true, decide_eq_true_eq] at h
  simp only [isBlank, Bool.or_eq_true, Bool.and_eq_true, decide_eq_true_eq, beq_iff_eq]
  rcases h with ((h | h) | h) | h <;> subst h <;> decide

end Text

end Storyboard
