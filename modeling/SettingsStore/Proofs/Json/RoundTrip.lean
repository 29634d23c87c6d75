import SettingsStore.Proofs.Json.Nesting
import SettingsStore.Proofs.Json.Series

/-!
# Values that are read back

What is written for a value, in either layout and at any level, is read back as
that value, and reading goes on right behind it.  A value of this kind is nested
no deeper than the reader goes, holds no key twice and no whole number that is
too long, and its strings and doubles are such that they are read back by
themselves.  What is known of the items of an array and of the members of an
object at one level is known of these themselves one level further out.
-/

namespace SettingsStore

namespace Members

variable {members : Members} {key : Text}

theorem put_of_absent
    (absent : ∀ member ∈ members, member.1 ≠ key)
    (value : Json) :
    members.put key value = members ++ [(key, value)] := by
  induction members with
  | nil => rfl
  | cons member members induction =>
      obtain ⟨first, held⟩ := member
      rw [put, if_neg (absent _ (List.mem_cons_self ..)),
        induction fun other among =>
          absent other (List.mem_cons_of_mem _ among)]
      rfl

/-- Members with distinct keys are kept as they are. -/
theorem ofPairs_of_distinct
    (distinct : members.Pairwise fun first second => first.1 ≠ second.1) :
    ofPairs members = members := by
  suffices onto : ∀ held : Members,
      (held ++ members).Pairwise (fun first second => first.1 ≠ second.1) →
        members.foldl (fun read pair => read.put pair.1 pair.2) held =
          held ++ members by
    exact onto [] distinct
  intro held apart
  clear distinct
  induction members generalizing held with
  | nil => exact (List.append_nil held).symm
  | cons member members induction =>
      have absent : ∀ other ∈ held, other.1 ≠ member.1 := fun other among =>
        (List.pairwise_append.mp apart).2.2 other among member
          (List.mem_cons_self ..)
      have together :
          held ++ [(member.1, member.2)] ++ members =
            held ++ member :: members := by
        rw [List.append_assoc]
        rfl
      rw [List.foldl_cons, put_of_absent absent, induction, together]
      rw [together]
      exact apart

end Members

namespace Json

/-! ## Values that can be read back -/

mutual

/-- The strings and doubles in the value are read back by themselves. -/
def Spelled : Json → Prop
  | .double value => ReadsBack value
  | .string text => text.Unpaired
  | .array items => SpelledInItems items
  | .object members => SpelledInMembers members
  | _ => True

/-- The strings and doubles in the items are read back by themselves. -/
def SpelledInItems : List Json → Prop
  | [] => True
  | item :: rest => item.Spelled ∧ SpelledInItems rest

/--
The keys of the members and the strings and doubles in their values are read
back by themselves.
-/
def SpelledInMembers : List (Text × Json) → Prop
  | [] => True
  | (key, value) :: rest => key.Unpaired ∧ value.Spelled ∧ SpelledInMembers rest

end

/--
A value that is read back from what is written for it by a reader of that many
levels.
-/
structure Faithful (levels : Nat) (document : Json) : Prop where
  shallow : document.depth ≤ levels
  distinct : document.DistinctKeys
  small : document.hasHugeInteger = false
  spelled : document.Spelled

section

variable {levels : Nat} {items : List Json} {members : List (Text × Json)}

theorem spelledInItems_iff :
    SpelledInItems items ↔ ∀ item ∈ items, item.Spelled := by
  induction items with
  | nil => simp [SpelledInItems]
  | cons item items induction => simp [SpelledInItems, induction]

theorem spelledInMembers_iff :
    SpelledInMembers members ↔
      ∀ member ∈ members, member.1.Unpaired ∧ member.2.Spelled := by
  induction members with
  | nil => simp [SpelledInMembers]
  | cons member members induction =>
      simp [SpelledInMembers, induction, and_assoc]

/-- An array is faithful if its items are, one level further in. -/
theorem faithful_array_iff :
    Faithful (levels + 1) (.array items) ↔
      ∀ item ∈ items, Faithful levels item := by
  constructor
  · rintro ⟨shallow, distinct, small, spelled⟩ item member
    rw [depth, Nat.add_le_add_iff_right] at shallow
    exact ⟨depthOfItems_le_iff.mp shallow item member,
      distinctKeysInItems_iff.mp distinct item member,
      hasHugeIntegerInItems_eq_false_iff.mp small item member,
      spelledInItems_iff.mp spelled item member⟩
  · intro faithful
    refine ⟨?_, distinctKeysInItems_iff.mpr ?_,
      hasHugeIntegerInItems_eq_false_iff.mpr ?_, spelledInItems_iff.mpr ?_⟩
    · rw [depth, Nat.add_le_add_iff_right]
      exact depthOfItems_le_iff.mpr fun item member =>
        (faithful item member).shallow
    · exact fun item member => (faithful item member).distinct
    · exact fun item member => (faithful item member).small
    · exact fun item member => (faithful item member).spelled

/--
An object is faithful if its keys are distinct and unpaired and its values are
faithful one level further in.
-/
theorem faithful_object_iff :
    Faithful (levels + 1) (.object members) ↔
      members.Pairwise (fun first second => first.1 ≠ second.1) ∧
        ∀ member ∈ members, member.1.Unpaired ∧ Faithful levels member.2 := by
  constructor
  · rintro ⟨shallow, distinct, small, spelled⟩
    rw [depth, Nat.add_le_add_iff_right] at shallow
    refine ⟨distinct.1, fun member among => ?_⟩
    have each := spelledInMembers_iff.mp spelled member among
    exact ⟨each.1, depthOfMembers_le_iff.mp shallow member among,
      distinctKeysInMembers_iff.mp distinct.2 member among,
      hasHugeIntegerInMembers_eq_false_iff.mp small member among, each.2⟩
  · rintro ⟨apart, faithful⟩
    refine ⟨?_, ⟨apart, distinctKeysInMembers_iff.mpr ?_⟩,
      hasHugeIntegerInMembers_eq_false_iff.mpr ?_, spelledInMembers_iff.mpr ?_⟩
    · rw [depth, Nat.add_le_add_iff_right]
      exact depthOfMembers_le_iff.mpr fun member among =>
        (faithful member among).2.shallow
    · exact fun member among => (faithful member among).2.distinct
    · exact fun member among => (faithful member among).2.small
    · exact fun member among =>
        ⟨(faithful member among).1, (faithful member among).2.spelled⟩

end

/-! ## Scalars -/

section

variable {layout : Layout} {level levels : Nat} {document : Json}

/-- A character that begins no string, no brackets and no space. -/
def BeginsScalar (mark : Char) : Prop :=
  isSpace mark = false ∧ mark ≠ '"' ∧ mark ≠ '[' ∧ mark ≠ ']' ∧ mark ≠ '\x7b' ∧
    mark ≠ '\x7d'

instance (mark : Char) : Decidable (BeginsScalar mark) :=
  inferInstanceAs (Decidable (_ ∧ _))

theorem beginsScalar_of_digit
    {mark : Char}
    (digit : (CodePoint.ofChar mark).isDigit = true) :
    BeginsScalar mark := by
  have apart := fun {other : CodePoint} => @ne_of_isDigit _ other digit
  have differs :
      ∀ {other : Char}, (CodePoint.ofChar other).isDigit = false →
        mark ≠ other :=
    fun noDigit same => apart noDigit (congrArg CodePoint.ofChar same)
  refine ⟨?_, differs rfl, differs rfl, differs rfl, differs rfl, differs rfl⟩
  have space := @apart (CodePoint.ofChar ' ') rfl
  have tab := @apart (CodePoint.ofChar '\t') rfl
  have lineFeed := @apart (CodePoint.ofChar '\n') rfl
  have carriageReturn := @apart (CodePoint.ofChar '\r') rfl
  simp [isSpace, space, tab, lineFeed, carriageReturn]

theorem ReadBack.of_scalar
    {mark : Char}
    {body : List Char}
    (written :
      ∀ rest, write layout level document rest = mark :: (body ++ rest))
    (begins : BeginsScalar mark)
    (read : ∀ rest, Stops (Text.ofChars rest) →
      scalar (Text.ofChars (mark :: (body ++ rest))) =
        .ok (document, Text.ofChars rest)) :
    ReadBack (value levels) (write layout level) document where
  read := by
    intro rest stops
    obtain ⟨_, noString, noArray, _, noObject, _⟩ := begins
    have apart :
        ∀ {other : Char}, mark ≠ other →
          CodePoint.ofChar mark ≠ CodePoint.ofChar other :=
      fun differs same => differs (CodePoint.ofChar_injective same)
    have head : Text.ofChars (mark :: (body ++ rest)) =
        CodePoint.ofChar mark :: Text.ofChars (body ++ rest) := rfl
    rw [written, head, value_cons, if_neg (apart noString),
      if_neg (apart noArray), if_neg (apart noObject), ← head]
    exact read rest stops
  begins :=
    fun rest => ⟨mark, body ++ rest, written rest, begins.1, begins.2.2.2.1,
      begins.2.2.2.2.2⟩
  longer := by
    intro rest
    rw [written, List.length_cons, List.length_append]
    omega

/--
A text that begins like a number begins no string, no brackets and no space.
-/
theorem Numeral.eq_cons
    {characters : List Char}
    (numeral : Numeral (Text.ofChars characters)) :
    ∃ mark body, characters = mark :: body ∧ BeginsScalar mark := by
  obtain ⟨sign, digit, others, same, signs, isDigit⟩ := numeral
  cases characters with
  | nil =>
      rcases signs with rfl | rfl
      · cases same
      · cases same
  | cons mark body =>
      refine ⟨mark, body, rfl, ?_⟩
      obtain ⟨rfl⟩ | ⟨rfl⟩ := signs
      · obtain ⟨rfl, _⟩ := List.cons.inj same
        exact beginsScalar_of_digit isDigit
      · obtain ⟨minus, _⟩ := List.cons.inj same
        rw [CodePoint.ofChar_injective minus]
        decide

theorem text_eq_cons (value : Double) :
    ∃ mark body, doubleStyle.text value = mark :: body ∧ BeginsScalar mark := by
  cases value with
  | notANumber => exact ⟨_, _, rfl, by decide⟩
  | infinite negative =>
      cases negative with
      | false => exact ⟨_, _, rfl, by decide⟩
      | true => exact ⟨_, _, rfl, by decide⟩
  | finite negative significand exponent =>
      exact (numeral_text negative significand exponent).eq_cons

theorem readBack_integer
    {value : Int}
    (small : value.natAbs < Nat.pow 10 digitLimit) :
    ReadBack (Json.value levels) (write layout level) (.integer value) := by
  obtain ⟨mark, body, same, begins⟩ := (numeral_writeInteger value []).eq_cons
  have written : ∀ rest, writeInteger value rest = mark :: (body ++ rest) := by
    intro rest
    have parts : writeInteger value rest = writeInteger value [] ++ rest := by
      simp [writeInteger]
    rw [parts, same, List.cons_append]
  refine ReadBack.of_scalar written begins fun rest stops => ?_
  rw [← written]
  exact scalar_writeInteger small stops

theorem readBack_double
    {value : Double}
    (readsBack : ReadsBack value) :
    ReadBack (Json.value levels) (write layout level) (.double value) := by
  obtain ⟨mark, body, same, begins⟩ := text_eq_cons value
  have written :
      ∀ rest, doubleStyle.text value ++ rest = mark :: (body ++ rest) := by
    intro rest
    rw [same, List.cons_append]
  refine ReadBack.of_scalar written begins fun rest stops => ?_
  rw [← written]
  exact readsBack.scalar_text stops

/-! ## Strings, arrays and objects -/

theorem length_writeString
    (text : Text)
    (rest : List Char) :
    rest.length < (writeString text rest).length := by
  rw [writeString, List.length_cons, List.length_append, List.length_cons]
  omega

theorem readBack_string
    {text : Text}
    (unpaired : text.Unpaired) :
    ReadBack (value levels) (write layout level) (.string text) where
  read := by
    intro rest _
    obtain ⟨body, written, read⟩ :=
      stringBody_writeString unpaired
        (Text.ofChars (writeString text rest)) rest
    rw [written] at read
    rw [write, written, value_cons, if_pos rfl, read]
  begins := fun rest => ⟨'"', _, rfl, by decide⟩
  longer := length_writeString text

theorem readBack_member
    {key : Text}
    {document : Json}
    (unpaired : key.Unpaired)
    (back : ReadBack (value levels) (write layout level) document) :
    ReadBack (entry (value levels)) (writeMember layout level)
      (key, document) where
  read := by
    intro rest stops
    obtain ⟨body, written, read⟩ := stringBody_writeString unpaired
      (Text.ofChars (writeMember layout level (key, document) rest))
      (':' :: ' ' :: write layout level document rest)
    have colon :
        skipSpace
          (Text.ofChars (':' :: ' ' :: write layout level document rest)) =
        CodePoint.ofChar ':' ::
          Text.ofChars (' ' :: write layout level document rest) :=
      skipSpace_of_not rfl _
    have space :
        skipSpace (Text.ofChars (' ' :: write layout level document rest)) =
        Text.ofChars (write layout level document rest) := by
      rw [← back.skipSpace rest]
      exact @skipSpace_append [' '] (List.forall_mem_singleton.mpr rfl)
        (write layout level document rest)
    rw [writeMember] at read ⊢
    rw [written] at read
    rw [entry, written, Text.after?, if_pos rfl]
    dsimp only
    rw [read]
    dsimp only
    rw [colon, Text.after?, if_pos rfl]
    dsimp only
    rw [space, back.read rest stops]
  begins := fun rest => ⟨'"', _, rfl, by decide⟩
  longer := by
    intro rest
    have inside := back.longer rest
    have around :=
      length_writeString key (':' :: ' ' :: write layout level document rest)
    rw [List.length_cons, List.length_cons] at around
    change rest.length <
      (writeString key (':' :: ' ' :: write layout level document rest)).length
    omega

theorem readBack_array
    {items : List Json}
    (back :
      ∀ item ∈ items, ReadBack (value levels) (write layout (level + 1)) item) :
    ReadBack (value (levels + 1)) (write layout level) (.array items) where
  read := by
    intro rest _
    have head :
        ∀ tail, Text.ofChars ('[' :: tail) =
          CodePoint.ofChar '[' :: Text.ofChars tail :=
      fun _ => rfl
    rw [write_array, head, value_cons, if_neg (by decide), if_pos rfl]
    dsimp only
    rw [bracketed_writeBracketed (Or.inl rfl) back]
  begins := fun rest => ⟨'[', _, write_array layout level items rest, by decide⟩
  longer := by
    intro rest
    have longer := @length_writeBracketed _ _ _ layout level ']' rest items back
    rw [write_array, List.length_cons]
    omega

theorem readBack_object
    {members : List (Text × Json)}
    (distinct : members.Pairwise fun first second => first.1 ≠ second.1)
    (back : ∀ member ∈ members, member.1.Unpaired ∧
      ReadBack (value levels) (write layout (level + 1)) member.2) :
    ReadBack (value (levels + 1)) (write layout level) (.object members) := by
  have entries : ∀ member ∈ members,
      ReadBack (entry (value levels)) (writeMember layout (level + 1)) member :=
        fun member among =>
    readBack_member (back member among).1 (back member among).2
  refine ⟨fun rest _ => ?_,
    fun rest => ⟨'\x7b', _, write_object layout level members rest, by decide⟩,
    fun rest => ?_⟩
  · have head :
        ∀ tail, Text.ofChars ('\x7b' :: tail) =
          CodePoint.ofChar '\x7b' :: Text.ofChars tail :=
      fun _ => rfl
    rw [write_object, head, value_cons, if_neg (by decide),
      if_neg (by decide), if_pos rfl]
    dsimp only
    rw [bracketed_writeBracketed (Or.inr rfl) entries]
    dsimp only
    rw [Members.ofPairs_of_distinct distinct]
  · have longer :=
      @length_writeBracketed _ _ _ layout level '\x7d' rest members entries
    rw [write_object, List.length_cons]
    omega

/-- A faithful value is read back from what is written for it. -/
theorem Faithful.readBack
    (faithful : Faithful levels document) :
    ReadBack (value levels) (write layout level) document := by
  induction document using nestedInduction generalizing level levels with
  | null =>
      exact @ReadBack.of_scalar _ _ _ _ 'n' "ull".toList (fun _ => rfl)
        (by decide) fun _ _ => rfl
  | bool truth =>
      cases truth with
      | false =>
          exact @ReadBack.of_scalar _ _ _ _ 'f' "alse".toList (fun _ => rfl)
            (by decide) fun _ _ => rfl
      | true =>
          exact @ReadBack.of_scalar _ _ _ _ 't' "rue".toList (fun _ => rfl)
            (by decide) fun _ _ => rfl
  | integer number =>
      have small := faithful.small
      rw [hasHugeInteger, decide_eq_false_iff_not, Nat.not_le] at small
      exact readBack_integer small
  | double number => exact readBack_double faithful.spelled
  | string text => exact readBack_string faithful.spelled
  | array items induction =>
      obtain ⟨inner, rfl⟩ :=
        Nat.exists_eq_add_one_of_ne_zero (Nat.ne_zero_of_lt faithful.shallow)
      have inside := faithful_array_iff.mp faithful
      exact readBack_array fun item member =>
        induction item member (inside item member)
  | object members induction =>
      obtain ⟨inner, rfl⟩ :=
        Nat.exists_eq_add_one_of_ne_zero (Nat.ne_zero_of_lt faithful.shallow)
      obtain ⟨distinct, inside⟩ := faithful_object_iff.mp faithful
      exact readBack_object distinct fun member among =>
        ⟨(inside member among).1,
          induction member among (inside member among).2⟩

end

end Json

end SettingsStore
