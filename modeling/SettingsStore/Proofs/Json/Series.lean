import SettingsStore.Proofs.Json.Numbers
import SettingsStore.Proofs.Json.Strings
import SettingsStore.Proofs.Text.Characters

/-!
# Series that are read back

The items of an array and the members of an object are written and read in the
same way: one after the other, with a separator between them and a bracket
behind the last.  If each of them is read back from what is written for it,
whatever stops a number follows, then so is the whole series, in either layout
and at any level.
-/

namespace SettingsStore.Json

/-! ## Space -/

theorem skipSpace_append
    {space : List Char}
    (all : ∀ character ∈ space, isSpace character = true)
    (rest : List Char) :
    skipSpace (Text.ofChars (space ++ rest)) =
      skipSpace (Text.ofChars rest) := by
  induction space with
  | nil => rfl
  | cons character space induction =>
      have first := all character (List.mem_cons_self ..)
      have others :=
        induction fun other member => all other (List.mem_cons_of_mem _ member)
      rw [← others]
      simp [skipSpace, Text.ofChars, first]

theorem skipSpace_of_not
    {mark : CodePoint}
    (visible : isSpace mark = false)
    (rest : Text) :
    skipSpace (mark :: rest) = mark :: rest := by
  simp [skipSpace, visible]

theorem isSpace_of_mem_edge
    {layout : Layout}
    {level : Nat}
    {character : Char}
    (member : character ∈ layout.edge level) :
    isSpace character = true := by
  cases layout with
  | line => cases member
  | indented =>
      rcases List.mem_cons.mp member with rfl | member
      · decide
      · rw [List.eq_of_mem_replicate member]
        decide

theorem separator_eq (layout : Layout) (level : Nat) :
    ∃ space, layout.separator level = ',' :: space ∧
      ∀ character ∈ space, isSpace character = true := by
  cases layout with
  | line => exact ⟨[' '], rfl, List.forall_mem_singleton.mpr rfl⟩
  | indented => exact ⟨_, rfl, fun _ member => isSpace_of_mem_edge member⟩

/-! ## Series -/

variable {Element : Type}

/-- Writes the elements after the first and the closing bracket. -/
def writeSeries
    (layout : Layout)
    (level : Nat)
    (close : Char)
    (writeElement : Element → List Char → List Char) :
    List Element → List Char → List Char
  | [], rest => layout.edge level ++ close :: rest
  | element :: elements, rest =>
    layout.separator (level + 1) ++
      writeElement element
        (writeSeries layout level close writeElement elements rest)

/-- Writes the elements and the closing bracket. -/
def writeBracketed
    (layout : Layout)
    (level : Nat)
    (close : Char)
    (writeElement : Element → List Char → List Char) :
    List Element → List Char → List Char
  | [], rest => close :: rest
  | element :: elements, rest =>
    layout.edge (level + 1) ++
      writeElement element
        (writeSeries layout level close writeElement elements rest)

/-- Writes a member before the rest. -/
def writeMember
    (layout : Layout)
    (level : Nat)
    (member : Text × Json)
    (rest : List Char) :
    List Char :=
  writeString member.1 (':' :: ' ' :: write layout level member.2 rest)

theorem writeItems_eq
    (layout : Layout)
    (level : Nat)
    (items : List Json)
    (rest : List Char) :
    writeItems layout level items rest =
      writeSeries layout level ']' (write layout (level + 1)) items rest := by
  induction items with
  | nil => rw [writeItems, writeSeries]
  | cons item items induction => rw [writeItems, writeSeries, induction]

theorem writeMembers_eq
    (layout : Layout)
    (level : Nat)
    (members : List (Text × Json))
    (rest : List Char) :
    writeMembers layout level members rest =
      writeSeries layout level '\x7d'
        (writeMember layout (level + 1)) members rest := by
  induction members with
  | nil => rw [writeMembers, writeSeries]
  | cons member members induction =>
      obtain ⟨key, value⟩ := member
      rw [writeMembers, writeSeries, induction, writeMember]

theorem write_array
    (layout : Layout)
    (level : Nat)
    (items : List Json)
    (rest : List Char) :
    write layout level (.array items) rest =
      '[' :: writeBracketed layout level ']'
        (write layout (level + 1)) items rest := by
  cases items with
  | nil => rw [write, writeBracketed]
  | cons item items => rw [write, writeItems_eq, writeBracketed]

theorem write_object
    (layout : Layout)
    (level : Nat)
    (members : List (Text × Json))
    (rest : List Char) :
    write layout level (.object members) rest =
      '\x7b' :: writeBracketed layout level '\x7d'
        (writeMember layout (level + 1)) members rest := by
  cases members with
  | nil => rw [write, writeBracketed]
  | cons member members =>
      obtain ⟨key, value⟩ := member
      rw [write, writeMembers_eq, writeBracketed, writeMember]

/--
An element is read back from what is written for it, which begins with no space
and no closing bracket.
-/
structure ReadBack
    (element : Text → Except Failure (Element × Text))
    (writeElement : Element → List Char → List Char)
    (found : Element) :
    Prop where
  read :
    ∀ rest, Stops (Text.ofChars rest) →
      element (Text.ofChars (writeElement found rest)) =
        .ok (found, Text.ofChars rest)
  begins :
    ∀ rest, ∃ mark others, writeElement found rest = mark :: others ∧
      isSpace mark = false ∧ mark ≠ ']' ∧ mark ≠ '\x7d'
  longer : ∀ rest, rest.length < (writeElement found rest).length

section

variable {element : Text → Except Failure (Element × Text)}
variable {writeElement : Element → List Char → List Char}
variable {layout : Layout} {level : Nat} {close : Char} {rest : List Char}

theorem stops_writeSeries
    (closes : close = ']' ∨ close = '\x7d')
    (elements : List Element) :
    Stops
      (Text.ofChars
        (writeSeries layout level close writeElement elements rest)) := by
  have mark : ∀ {first : Char} {others : List Char},
      (first = ',' ∨ first = '\n' ∨ first = ']' ∨ first = '\x7d') →
        Stops (Text.ofChars (first :: others)) := by
    rintro first others marks point ⟨⟩
    rcases marks with rfl | rfl | rfl | rfl <;> decide
  cases elements with
  | nil =>
      rw [writeSeries]
      cases layout with
      | line => exact mark (Or.inr (Or.inr closes))
      | indented => exact mark (Or.inr (Or.inl rfl))
  | cons first elements =>
      obtain ⟨space, separator, _⟩ := separator_eq layout (level + 1)
      rw [writeSeries, separator]
      exact mark (Or.inl rfl)

theorem length_writeSeries
    {elements : List Element}
    (back : ∀ found ∈ elements, ReadBack element writeElement found) :
    elements.length + rest.length <
      (writeSeries layout level close writeElement elements rest).length := by
  induction elements with
  | nil =>
      rw [writeSeries, List.length_append, List.length_cons, List.length_nil]
      omega
  | cons first elements induction =>
      have others :=
        induction fun found member => back found (List.mem_cons_of_mem _ member)
      have longer := (back first (List.mem_cons_self ..)).longer
        (writeSeries layout level close writeElement elements rest)
      rw [writeSeries, List.length_append, List.length_cons]
      omega

theorem ReadBack.skipSpace
    {found : Element}
    (back : ReadBack element writeElement found)
    (rest : List Char) :
    skipSpace (Text.ofChars (writeElement found rest)) =
      Text.ofChars (writeElement found rest) := by
  obtain ⟨mark, others, same, visible, _⟩ := back.begins rest
  rw [same]
  exact skipSpace_of_not visible _

/-- A series is read back if its elements are. -/
theorem series_writeSeries
    (closes : close = ']' ∨ close = '\x7d')
    {first : Element}
    {elements : List Element}
    (back : ∀ found ∈ first :: elements, ReadBack element writeElement found)
    {fuel : Nat}
    (enough : elements.length < fuel)
    (read : List Element) :
    series element close fuel
        (Text.ofChars
            (writeElement first (writeSeries layout level close writeElement
              elements rest))) read =
      .ok (read.reverse ++ first :: elements, Text.ofChars rest) := by
  have closing : isSpace close = false ∧ (close : CodePoint) ≠ ',' := by
    rcases closes with rfl | rfl <;> decide
  induction elements generalizing first fuel read with
  | nil =>
      obtain ⟨fuel, rfl⟩ :=
        Nat.exists_eq_add_one_of_ne_zero (Nat.ne_of_gt enough)
      have bracket :
          Text.ofChars (close :: rest) =
            CodePoint.ofChar close :: Text.ofChars rest := rfl
      rw [series, (back first (List.mem_cons_self ..)).read _
          (stops_writeSeries closes _)]
      dsimp only
      rw [writeSeries, skipSpace_append fun _ member =>
          isSpace_of_mem_edge member, bracket,
        skipSpace_of_not closing.1]
      dsimp only
      rw [if_neg closing.2, if_pos rfl, List.reverse_cons]
  | cons second elements induction =>
      obtain ⟨fuel, rfl⟩ :=
        Nat.exists_eq_add_one_of_ne_zero (Nat.ne_zero_of_lt enough)
      obtain ⟨space, separator, all⟩ := separator_eq layout (level + 1)
      have others :=
        fun found member => back found (List.mem_cons_of_mem _ member)
      have comma : ∀ tail, Text.ofChars (',' :: space ++ tail) =
          CodePoint.ofChar ',' :: Text.ofChars (space ++ tail) := fun _ => rfl
      rw [series, (back first (List.mem_cons_self ..)).read _
          (stops_writeSeries closes _)]
      dsimp only
      rw [writeSeries, separator, comma, skipSpace_of_not (by decide)]
      dsimp only
      rw [if_pos rfl, skipSpace_append all,
        (others second (List.mem_cons_self ..)).skipSpace,
        induction others (Nat.lt_of_succ_lt_succ enough) (first :: read),
        List.reverse_cons,
        List.append_assoc]
      rfl

theorem length_writeBracketed
    {elements : List Element}
    (back : ∀ found ∈ elements, ReadBack element writeElement found) :
    rest.length <
      (writeBracketed layout level close writeElement elements
        rest).length := by
  cases elements with
  | nil => exact Nat.lt_succ_self _
  | cons first elements =>
      have others :=
        @length_writeSeries Element element writeElement layout level close
          rest elements
          fun found member => back found (List.mem_cons_of_mem _ member)
      have longer := (back first (List.mem_cons_self ..)).longer
        (writeSeries layout level close writeElement elements rest)
      rw [writeBracketed, List.length_append]
      omega

/-- What stands between brackets is read back if its elements are. -/
theorem bracketed_writeBracketed
    (closes : close = ']' ∨ close = '\x7d')
    {elements : List Element}
    (back : ∀ found ∈ elements, ReadBack element writeElement found) :
    bracketed element close
      (Text.ofChars
        (writeBracketed layout level close writeElement elements rest)) =
      .ok (elements, Text.ofChars rest) := by
  cases elements with
  | nil =>
      have closing : isSpace close = false := by
        rcases closes with rfl | rfl <;> decide
      have bracket :
          Text.ofChars (close :: rest) =
            CodePoint.ofChar close :: Text.ofChars rest := rfl
      rw [writeBracketed, bracketed, bracket, skipSpace_of_not closing]
      dsimp only
      rw [if_pos rfl]
  | cons first elements =>
      have firstBack := back first (List.mem_cons_self ..)
      have length :=
        @length_writeSeries Element element writeElement layout level close
          rest elements
          fun found member => back found (List.mem_cons_of_mem first member)
      have longer :=
        firstBack.longer
          (writeSeries layout level close writeElement elements rest)
      have whole :=
        @series_writeSeries Element element writeElement layout level close rest
          closes first
          elements back
      obtain ⟨mark, tail, same, _, noArray, noObject⟩ := firstBack.begins
        (writeSeries layout level close writeElement elements rest)
      have head :
          Text.ofChars (mark :: tail) =
            CodePoint.ofChar mark :: Text.ofChars tail := rfl
      have other : CodePoint.ofChar mark ≠ CodePoint.ofChar close := by
        intro equal
        have character := CodePoint.ofChar_injective equal
        rcases closes with rfl | rfl
        · exact noArray character
        · exact noObject character
      rw [writeBracketed, bracketed, skipSpace_append fun _ member =>
          isSpace_of_mem_edge member,
        firstBack.skipSpace]
      rw [same] at longer whole ⊢
      rw [head] at whole ⊢
      dsimp only
      rw [if_neg other, whole ?_ []]
      · rfl
      · rw [List.length_cons] at longer
        rw [Text.ofChars, List.length_map]
        omega

end

end SettingsStore.Json
