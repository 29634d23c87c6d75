import SettingsStore.Proofs.Json.RoundTrip

/-!
# What is printed

Whatever the value, its text is visible ASCII, with line ends where items are
placed on lines of their own and nowhere else.  So a document on one line is one
line, and what is kept in a file is the same before and after line ends are
unified and characters are turned into octets.  Printed and put before another
text, a document is read back.
-/

namespace SettingsStore.Json

/-- The visible characters of ASCII and the space. -/
def Visible (character : Char) : Prop :=
  0x20 ≤ character.toNat ∧ character.toNat ≤ 0x7E

instance (character : Char) : Decidable (Visible character) :=
  inferInstanceAs (Decidable (_ ∧ _))

-- the list is gone through, not all characters
theorem visible_of_all
    {characters : List Char}
    (all :
      (characters.all fun character => decide (Visible character)) = true) :
    ∀ character ∈ characters, Visible character :=
  fun character member => of_decide_eq_true
    (List.all_eq_true.mp all character member)

/--
What stands in a text of a layout: what is visible, and line ends if items stand
on lines of their own.
-/
def Printed (layout : Layout) (character : Char) : Prop :=
  Visible character ∨ layout = .indented ∧ character = '\n'

/-- A writer puts printed characters before the rest. -/
def Puts (layout : Layout) (writer : List Char → List Char) : Prop :=
  ∃ body, (∀ character ∈ body, Printed layout character) ∧
    ∀ rest, writer rest = body ++ rest

namespace Puts

variable {layout : Layout}

theorem printed
    {body : List Char}
    (printed : ∀ character ∈ body, Printed layout character) :
    Puts layout (body ++ ·) :=
  ⟨body, printed, fun _ => rfl⟩

theorem visible
    {body : List Char}
    (visible : ∀ character ∈ body, Visible character) :
    Puts layout (body ++ ·) :=
  printed fun character member => Or.inl (visible character member)

theorem comp
    {first second : List Char → List Char}
    (putsFirst : Puts layout first)
    (putsSecond : Puts layout second) :
    Puts layout (fun rest => first (second rest)) := by
  obtain ⟨body, printed, written⟩ := putsFirst
  obtain ⟨others, printedToo, writtenToo⟩ := putsSecond
  refine ⟨body ++ others, List.forall_mem_append.mpr ⟨printed, printedToo⟩,
    fun rest => ?_⟩
  dsimp only
  rw [writtenToo, written, List.append_assoc]

end Puts

/-! ## Numbers -/

theorem visible_of_mem_toDigits
    {number : Nat}
    {character : Char}
    (member : character ∈ Nat.toDigits 10 number) :
    Visible character := by
  have digit := Nat.isDigit_of_mem_toDigits (by decide) (by decide) member
  simp only [Char.isDigit, Bool.and_eq_true, decide_eq_true_eq, ge_iff_le]
    at digit
  have bounds : 48 ≤ character.toNat ∧ character.toNat ≤ 57 := digit
  exact ⟨by omega, by omega⟩

theorem visible_of_mem_replicate
    {count : Nat}
    {character mark : Char}
    (visible : Visible mark)
    (member : character ∈ List.replicate count mark) :
    Visible character := by
  rw [List.eq_of_mem_replicate member]
  exact visible

theorem visible_exponentText (exponent : Int) :
    ∀ character ∈ doubleStyle.exponentText exponent, Visible character := by
  rw [DoubleStyle.exponentText]
  simp only [List.forall_mem_cons, List.forall_mem_append]
  refine
    ⟨by decide, ?_, fun _ => visible_of_mem_replicate (by decide),
      fun _ => visible_of_mem_toDigits⟩
  split <;> decide

theorem visible_decimalText (decimal : Decimal) :
    ∀ character ∈ doubleStyle.decimalText decimal, Visible character := by
  have digits :
      ∀ character ∈ Nat.toDigits 10 decimal.digits, Visible character :=
    fun _ => visible_of_mem_toDigits
  have taken :=
    fun count character
        (member : character ∈ (Nat.toDigits 10 decimal.digits).take count) =>
    digits character (List.mem_of_mem_take member)
  have left :=
    fun count character
        (member : character ∈ (Nat.toDigits 10 decimal.digits).drop count) =>
    digits character (List.mem_of_mem_drop member)
  rw [DoubleStyle.decimalText]
  dsimp only
  split
  · split
    · simp only [List.forall_mem_cons, List.forall_mem_append]
      exact
        ⟨by decide, by decide,
          fun _ => visible_of_mem_replicate (by decide), digits⟩
    · split
      · simp only [List.forall_mem_append]
        exact ⟨⟨digits, fun _ => visible_of_mem_replicate (by decide)⟩,
          visible_of_all (by decide)⟩
      · simp only [List.forall_mem_cons, List.forall_mem_append]
        exact ⟨taken _, by decide, left _⟩
  · simp only [List.forall_mem_append]
    refine ⟨⟨taken _, ?_⟩, visible_exponentText _⟩
    split
    · exact fun _ member => (List.not_mem_nil member).elim
    · exact List.forall_mem_cons.mpr ⟨by decide, left _⟩

theorem visible_text (value : Double) :
    ∀ character ∈ doubleStyle.text value, Visible character := by
  cases value with
  | notANumber => exact visible_of_all (by decide)
  | infinite negative => cases negative <;> exact visible_of_all (by decide)
  | finite negative significand exponent =>
      rw [DoubleStyle.text]
      refine List.forall_mem_append.mpr
        ⟨by cases negative <;> exact visible_of_all (by decide), ?_⟩
      split
      · exact visible_of_all (by decide)
      · exact visible_decimalText _

/-! ## Strings -/

theorem visible_unitDigit (value : Nat) : Visible (value % 16).digitChar := by
  have all : ∀ digit : Fin 16, Visible digit.val.digitChar := by decide
  exact all ⟨value % 16, Nat.mod_lt _ (by decide)⟩

theorem visible_unitEscape
    (unit : Nat) :
    ∀ character ∈ unitEscape unit, Visible character := by
  rw [unitEscape, unitDigits]
  simp only [List.map_cons, List.map_nil, List.forall_mem_cons]
  exact ⟨by decide, by decide, visible_unitDigit _, visible_unitDigit _,
    visible_unitDigit _,
    visible_unitDigit _, fun _ member => (List.not_mem_nil member).elim⟩

theorem visible_pointText
    (point : CodePoint) :
    ∀ character ∈ pointText point, Visible character := by
  rw [pointText]
  iterate 7
    split
    · exact visible_of_all (by decide)
  split
  · rename_i visible
    have code : (Char.ofNat point.val).toNat = point.val :=
      val_ofChar_ofNat (Or.inl (by omega))
    rw [List.forall_mem_singleton, Visible, code]
    exact visible
  split
  · exact visible_unitEscape _
  · exact List.forall_mem_append.mpr
      ⟨visible_unitEscape _, visible_unitEscape _⟩

variable {layout : Layout}

theorem puts_writeString (text : Text) : Puts layout (writeString text) := by
  refine ⟨'"' :: (text.flatMap pointText ++ ['"']), ?_,
  fun rest => by simp [writeString]⟩
  simp only [List.forall_mem_cons, List.forall_mem_append]
  refine ⟨Or.inl (by decide), fun character member => ?_,
    Or.inl (by decide), by simp⟩
  obtain ⟨point, _, among⟩ := List.mem_flatMap.mp member
  exact Or.inl (visible_pointText point character among)

/-! ## Series -/

theorem puts_mark
    {mark : Char}
    (visible : Visible mark) :
    Puts layout (mark :: ·) :=
  @Puts.visible layout [mark] (List.forall_mem_singleton.mpr visible)

theorem printed_edge
    (level : Nat) :
    ∀ character ∈ layout.edge level, Printed layout character := by
  cases layout with
  | line => simp [Layout.edge]
  | indented =>
      refine List.forall_mem_cons.mpr
        ⟨Or.inr ⟨rfl, rfl⟩, fun _ member => Or.inl ?_⟩
      exact visible_of_mem_replicate (by decide) member

theorem printed_separator (level : Nat) :
    ∀ character ∈ layout.separator level, Printed layout character := by
  cases layout with
  | line =>
      have visible : ∀ character ∈ [',', ' '], Visible character :=
        visible_of_all (by decide)
      exact fun character member => Or.inl (visible character member)
  | indented =>
      exact List.forall_mem_cons.mpr ⟨Or.inl (by decide), printed_edge level⟩

section

variable {Element : Type} {writeElement : Element → List Char → List Char}
  {elements : List Element}

theorem puts_writeSeries
    (level : Nat)
    {close : Char}
    (visible : Visible close)
    (puts : ∀ element ∈ elements, Puts layout (writeElement element)) :
    Puts layout (writeSeries layout level close writeElement elements) := by
  induction elements with
  | nil => exact (Puts.printed (printed_edge level)).comp (puts_mark visible)
  | cons element elements induction =>
      have first := puts element (List.mem_cons_self ..)
      have others :=
        induction fun other member => puts other (List.mem_cons_of_mem _ member)
      exact (Puts.printed (printed_separator (level + 1))).comp
        (first.comp others)

theorem puts_writeBracketed
    (level : Nat)
    {close : Char}
    (visible : Visible close)
    (puts : ∀ element ∈ elements, Puts layout (writeElement element)) :
    Puts layout (writeBracketed layout level close writeElement elements) := by
  cases elements with
  | nil => exact puts_mark visible
  | cons element elements =>
      have first := puts element (List.mem_cons_self ..)
      have others := puts_writeSeries level visible fun other member =>
        puts other (List.mem_cons_of_mem _ member)
      exact (Puts.printed (printed_edge (level + 1))).comp (first.comp others)

end

/-! ## Values -/

/-- The text of a value is put before the rest, and it is printed. -/
theorem puts_write
    (level : Nat)
    (document : Json) :
    Puts layout (write layout level document) := by
  induction document using nestedInduction generalizing level with
  | null =>
      exact @Puts.visible layout "null".toList (visible_of_all (by decide))
  | bool truth =>
      cases truth with
      | false =>
          exact @Puts.visible layout "false".toList (visible_of_all (by decide))
      | true =>
          exact @Puts.visible layout "true".toList (visible_of_all (by decide))
  | integer number =>
      have sign :
          ∀ character ∈ if number < 0 then ['-'] else [],
            Visible character := by
        split <;> exact visible_of_all (by decide)
      exact (Puts.visible sign).comp
        (Puts.visible fun _ => visible_of_mem_toDigits)
  | double number => exact Puts.visible (visible_text number)
  | string text => exact puts_writeString text
  | array items induction =>
      have inside :=
        @puts_writeBracketed layout _
          (write layout (level + 1)) items level ']' (by decide)
          fun item member => induction item member (level + 1)
      rw [funext (write_array layout level items)]
      exact (puts_mark (by decide)).comp inside
  | object members induction =>
      have inside :=
        @puts_writeBracketed layout _
          (writeMember layout (level + 1)) members level '\x7d'
          (by decide) fun member among => (puts_writeString member.1).comp
            ((puts_mark (by decide)).comp
                ((puts_mark (by decide)).comp
                  (induction member among (level + 1))))
      rw [funext (write_object layout level members)]
      exact (puts_mark (by decide)).comp inside

theorem write_eq_render
    (layout : Layout)
    (document : Json)
    (rest : List Char) :
    write layout 0 document rest = render layout document ++ rest := by
  obtain ⟨body, _, written⟩ := @puts_write layout 0 document
  rw [render, written, written, List.append_nil]

/-- What is printed of a document is visible, but for the ends of lines. -/
theorem printed_render
    (layout : Layout)
    (document : Json) :
    ∀ character ∈ render layout document, Printed layout character := by
  obtain ⟨body, printed, written⟩ := @puts_write layout 0 document
  rw [render, written, List.append_nil]
  exact printed

/-! ## Reading it again -/

theorem stops_of_space
    {space : List Char}
    (all : ∀ character ∈ space, isSpace character = true) :
    Stops (Text.ofChars space) := by
  cases space with
  | nil => rintro point ⟨⟩
  | cons character space =>
      rintro point ⟨⟩
      have first := all character (List.mem_cons_self ..)
      simp only [isSpace, Bool.or_eq_true, decide_eq_true_eq, or_assoc] at first
      rcases first with same | same | same | same
      all_goals
        rw [same]
        decide

theorem startsWith_byteOrderMark_render
    (layout : Layout)
    {document : Json}
    (faithful : Faithful levelLimit document)
    (rest : List Char) :
    (Text.ofChars (render layout document ++ rest)).startsWith "\uFEFF" =
      false := by
  obtain ⟨mark, others, same, _⟩ :=
    (@Faithful.readBack layout 0 _ _ faithful).begins []
  rw [← render] at same
  have printed :=
    printed_render layout document mark (same ▸ List.mem_cons_self ..)
  have differs : CodePoint.ofChar '\uFEFF' ≠ CodePoint.ofChar mark := by
    intro equal
    rw [← CodePoint.ofChar_injective equal] at printed
    rcases printed with visible | ⟨_, lineEnd⟩
    · exact absurd visible (by decide)
    · exact absurd lineEnd (by decide)
  have head : Text.ofChars (mark :: others ++ rest) =
      CodePoint.ofChar mark :: Text.ofChars (others ++ rest) := rfl
  have beginning : Text.ofString "\uFEFF" = [CodePoint.ofChar '\uFEFF'] := rfl
  rw [same, head, Text.startsWith, beginning, List.isPrefixOf,
    beq_false_of_ne differs, Bool.false_and]

/--
A faithful document is read back from its text, with space behind it or not.
-/
theorem parse_render
    {layout : Layout}
    {document : Json}
    (faithful : Faithful levelLimit document)
    {space : List Char}
    (all : ∀ character ∈ space, isSpace character = true) :
    parse (Text.ofChars (render layout document ++ space)) = .ok document := by
  have back := @Faithful.readBack layout 0 _ _ faithful
  have left : skipSpace (Text.ofChars space) = [] := by
    have skipped := skipSpace_append all []
    rw [List.append_nil] at skipped
    exact skipped
  rw [parse, startsWith_byteOrderMark_render layout faithful,
    if_neg Bool.false_ne_true, readText,
    ← write_eq_render, back.skipSpace, back.read space (stops_of_space all)]
  dsimp only
  rw [left]

/-- A faithful document is read back from its text with one item a line. -/
theorem parse_toIndented
    {document : Json}
    (faithful : Faithful levelLimit document) :
    parse (Text.ofString document.toIndented) = .ok document := by
  have back := @parse_render .indented _ faithful [] nofun
  rw [List.append_nil] at back
  rw [Text.ofString, toIndented, String.toList_ofList]
  exact back

end SettingsStore.Json
