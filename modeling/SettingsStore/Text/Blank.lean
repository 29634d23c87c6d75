import SettingsStore.Text.Basic

/-!
# Blank code points

White space in the sense of the Unicode property, together with the four
information separators.  Values taken from the environment and the command line
are stripped of it at both ends.
-/

namespace SettingsStore

/-- First and last code points of the runs of white space. -/
def blankRuns : List (Nat × Nat) :=
  [(0x09, 0x0D), (0x1C, 0x20), (0x85, 0x85), (0xA0, 0xA0), (0x1680, 0x1680),
  (0x2000, 0x200A), (0x2028, 0x2029), (0x202F, 0x202F), (0x205F, 0x205F),
  (0x3000, 0x3000)]

/-- White space and information separators. -/
def CodePoint.isBlank (point : CodePoint) : Bool :=
  blankRuns.any fun run => run.1 ≤ point.val && point.val ≤ run.2

/-- The text without the blanks at both ends. -/
def Text.strip (text : Text) : Text :=
  ((text.dropWhile CodePoint.isBlank).reverse.dropWhile
      CodePoint.isBlank).reverse

/-- What the core library takes for white space is blank. -/
theorem isBlank_of_isWhitespace
    (character : Char)
    (white : character.isWhitespace) :
    (CodePoint.ofChar character).isBlank := by
  simp only [Char.isWhitespace, Bool.or_eq_true, decide_eq_true_eq] at white
  rcases white with ((rfl | rfl) | rfl) | rfl <;> decide

end SettingsStore
