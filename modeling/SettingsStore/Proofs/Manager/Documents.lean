import SettingsStore.Manager.Save
import SettingsStore.Proofs.Json.Printing
import SettingsStore.Proofs.Text.Characters

/-!
# Documents in files

Each character of what is printed is one octet, and no line of it ends in a
carriage return.  So reading the octets of a printed document gives its
characters, unifying their line ends changes nothing, and the document is found.
-/

namespace SettingsStore

theorem unifyLinesFrom_of_noReturn
    {characters : List Char}
    (noReturn : '\r' ∉ characters)
    (read : List Char) :
    unifyLinesFrom false characters read = read.reverse ++ characters := by
  induction characters generalizing read with
  | nil => rw [unifyLinesFrom, List.append_nil]
  | cons character characters induction =>
      obtain ⟨first, others⟩ := not_or.mp (List.mem_cons.not.mp noReturn)
      rw [unifyLinesFrom, if_neg (Ne.symm first), Bool.false_and,
        if_neg Bool.false_ne_true,
        induction others, List.reverse_cons, List.append_assoc]
      rfl

/-- Without carriage returns the line ends are what they should be. -/
theorem unifyLines_of_noReturn
    {characters : List Char}
    (noReturn : '\r' ∉ characters) :
    unifyLines characters = characters :=
  unifyLinesFrom_of_noReturn noReturn []

/-- A faithful document is what its text in a file is read as. -/
theorem readDocument_render
    {document : Json}
    (faithful : Json.Faithful Json.levelLimit document)
    (layout : Json.Layout)
    (path : Path) :
    readDocument path
      ⟨(Utf8.encode (Json.render layout document ++ ['\n'])).toArray⟩ =
      .ok document := by
  have printed : ∀ character ∈ Json.render layout document ++ ['\n'],
      Json.Visible character ∨ character = '\n' := by
    refine List.forall_mem_append.mpr ⟨fun character member => ?_, by simp⟩
    exact (Json.printed_render layout document character member).imp_right
      And.right
  have ascii :
      ∀ character ∈ Json.render layout document ++ ['\n'],
        character.toNat < 0x80 := by
    intro character member
    rcases printed character member with visible | rfl
    · exact Nat.lt_succ_of_le (Nat.le_succ_of_le visible.2)
    · decide
  have noReturn : '\r' ∉ Json.render layout document ++ ['\n'] := by
    intro member
    exact absurd (printed '\r' member) (by decide)
  rw [readDocument, List.toList_toArray, Utf8.decode_encode ascii]
  dsimp only
  rw [unifyLines_of_noReturn noReturn,
    Json.parse_render faithful (List.forall_mem_singleton.mpr rfl)]

end SettingsStore
