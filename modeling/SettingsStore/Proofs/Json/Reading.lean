import SettingsStore.Json.Parser

/-!
# What reading leaves

A reader leaves a rest of the text that it was given, and a reader that refuses
a whole number for its length has come to a run of that many digits.  Both go
from the readers of numbers and strings to arrays and objects, whatever their
elements are, and from there by the levels of nesting to every value.
-/

namespace SettingsStore.Json

/-- A run of a number of digits stands in a text. -/
def HoldsDigits (text : Text) (count : Nat) : Prop :=
  ∃ run, run <:+: text ∧ run.length = count ∧
    ∀ digit ∈ run, digit.isDigit = true

theorem HoldsDigits.of_suffix
    {text rest : Text}
    {count : Nat}
    (holds : HoldsDigits rest count)
    (suffix : rest <:+ text) :
    HoldsDigits text count := by
  obtain ⟨run, infix_, length, digits⟩ := holds
  exact ⟨run, infix_.trans suffix.isInfix, length, digits⟩

/-- A whole number is refused for its length only where so many digits stand. -/
def Justified (text : Text) : Failure → Prop
  | .hugeInteger digits => digitLimit < digits ∧ HoldsDigits text digits
  | _ => True

theorem Justified.of_suffix
    {text rest : Text}
    {failure : Failure}
    (justified : Justified rest failure)
    (suffix : rest <:+ text) :
    Justified text failure := by
  cases failure with
  | hugeInteger digits => exact ⟨justified.1, justified.2.of_suffix suffix⟩
  | _ => trivial

/--
What was read of a text leaves a rest of it, or the failure is justified by it.
-/
inductive HonestAbout
    {Found : Type}
    (text : Text) :
    Except Failure (Found × Text) → Prop where
  | read {found : Found} {rest : Text}
      (suffix : rest <:+ text) :
      HonestAbout text (.ok (found, rest))
  | failed {failure : Failure}
      (justified : Justified text failure) :
      HonestAbout text (.error failure)

theorem HonestAbout.of_suffix
    {Found : Type}
    {text rest : Text}
    {outcome : Except Failure (Found × Text)}
    (honest : HonestAbout rest outcome)
    (suffix : rest <:+ text) :
    HonestAbout text outcome := by
  cases honest with
  | read further => exact .read (further.trans suffix)
  | failed justified => exact .failed (justified.of_suffix suffix)

/--
A reader leaves a rest of its text and refuses a whole number only where its
digits are.
-/
def Honest
    {Element : Type}
    (reader : Text → Except Failure (Element × Text)) :
    Prop :=
  ∀ text, HonestAbout text (reader text)

/-! ## Numbers and words -/

theorem suffix_of_after?
    {mark : CodePoint}
    {text rest : Text}
    (read : text.after? mark = some rest) :
    rest <:+ text := by
  cases text with
  | nil => cases read
  | cons point text =>
      rw [Text.after?] at read
      split at read
      · cases read
        exact List.suffix_cons _ _
      · cases read

theorem suffix_of_afterWord?
    {word text rest : Text}
    (read : afterWord? word text = some rest) :
    rest <:+ text := by
  induction word generalizing text with
  | nil =>
      cases read
      exact List.suffix_refl _
  | cons expected word induction =>
      cases text with
      | nil => cases read
      | cons point text =>
          rw [afterWord?] at read
          split at read
          · exact (induction read).trans (List.suffix_cons point text)
          · cases read

theorem wholeDigits_suffix (text : Text) : (wholeDigits text).2 <:+ text := by
  rw [wholeDigits]
  split
  · rename_i rest zero
    exact suffix_of_after? zero
  · exact List.dropWhile_suffix _

/-- The digits of a whole part of some length begin the text. -/
theorem wholeDigits_holdsDigits
    {text : Text}
    (several : 1 < (wholeDigits text).1.length) :
    HoldsDigits text (wholeDigits text).1.length := by
  rw [wholeDigits] at several ⊢
  split at several
  · exact absurd several (Nat.lt_irrefl 1)
  · refine ⟨text.takeWhile CodePoint.isDigit,
      (List.takeWhile_prefix _).isInfix, rfl, ?_⟩
    intro digit member
    exact List.all_eq_true.mp List.all_takeWhile digit member

theorem fractionDigits_suffix
    (text : Text) :
    (fractionDigits text).2 <:+ text := by
  rw [fractionDigits]
  split
  · rename_i rest point
    dsimp only
    split
    · exact List.suffix_refl text
    · exact (List.dropWhile_suffix _).trans (suffix_of_after? point)
  · exact List.suffix_refl text

theorem afterSign_suffix (text : Text) : (afterSign text).2 <:+ text := by
  rw [afterSign]
  split
  · rename_i rest minus
    exact suffix_of_after? minus
  · cases plus : text.after? '+' with
    | none => exact List.suffix_refl text
    | some rest => exact suffix_of_after? plus

theorem exponentPart?_suffix
    {text rest : Text}
    {exponent : Int}
    (read : exponentPart? text = some (exponent, rest)) :
    rest <:+ text := by
  cases text with
  | nil => cases read
  | cons mark text =>
      rw [exponentPart?] at read
      split at read
      · dsimp only at read
        split at read
        · cases read
        · cases read
          exact ((List.dropWhile_suffix _).trans (afterSign_suffix text)).trans
            (List.suffix_cons mark text)
      · cases read

theorem unsignedNumber_honest
    (start : Text)
    (negative : Bool) :
    Honest (unsignedNumber start negative) := by
  intro text
  have left : (fractionDigits (wholeDigits text).2).2 <:+ text :=
    (fractionDigits_suffix _).trans (wholeDigits_suffix text)
  unfold unsignedNumber
  dsimp only
  split
  · exact .failed trivial
  · split
    · split
      · rename_i long
        have several : 1 < (wholeDigits text).1.length :=
          Nat.lt_trans (by decide) long
        exact .failed ⟨long, wholeDigits_holdsDigits several⟩
      · exact .read left
    · cases power : exponentPart? (fractionDigits (wholeDigits text).2).2 with
      | none => exact .read left
      | some found => exact .read ((exponentPart?_suffix power).trans left)

theorem number_honest : Honest number := by
  intro text
  rw [number]
  split
  · rename_i minus
    exact (unsignedNumber_honest _ _ _).of_suffix (suffix_of_after? minus)
  · exact unsignedNumber_honest _ _ text

theorem scalar_honest : Honest scalar := by
  intro text
  unfold scalar
  dsimp only
  split
  · rename_i result word
    obtain ⟨candidate, _, matched⟩ := List.exists_of_findSome?_eq_some word
    obtain ⟨rest, after, rfl⟩ := Option.map_eq_some_iff.mp matched
    exact .read (suffix_of_afterWord? after)
  · exact number_honest text

/-! ## Strings -/

theorem stringBody_honest
    (opening text read : Text) :
    HonestAbout text (stringBody opening text read) := by
  fun_induction stringBody opening text read with
  | case2 => exact .read (List.suffix_cons _ _)
  | case4 _ _ _ _ _ _ _ _ _ _ induction =>
      refine induction.of_suffix ?_
      iterate 6 refine List.IsSuffix.trans ?_ (List.suffix_cons _ _)
      exact List.suffix_refl _
  | case7 _ _ _ _ _ _ _ induction =>
      exact induction.of_suffix
        ((List.suffix_cons _ _).trans (List.suffix_cons _ _))
  | case10 _ _ _ _ _ _ induction =>
      exact induction.of_suffix (List.suffix_cons _ _)
  | case1 | case3 | case5 | case6 | case8 | case9 => exact .failed trivial

/-! ## Containers -/

variable {Element : Type} {element : Text → Except Failure (Element × Text)}

theorem skipSpace_suffix (text : Text) : skipSpace text <:+ text :=
  List.dropWhile_suffix _

theorem skipSpace_eq_cons
    {text rest : Text}
    {mark : CodePoint}
    (skipped : skipSpace text = mark :: rest) :
    rest <:+ text := by
  have suffix := skipSpace_suffix text
  rw [skipped] at suffix
  exact (List.suffix_cons mark rest).trans suffix

theorem series_honest
    (honest : Honest element)
    (close : CodePoint)
    (fuel : Nat)
    (read : List Element) :
    Honest (fun text => series element close fuel text read) := by
  intro text
  induction fuel generalizing text read with
  | zero => exact .failed trivial
  | succ fuel induction =>
      have first := honest text
      dsimp only
      rw [series]
      generalize element text = outcome at first
      cases first with
      | failed justified => exact .failed justified
      | read suffix =>
          dsimp only
          split
          · exact .failed trivial
          · rename_i mark behind skipped
            have so := (skipSpace_eq_cons skipped).trans suffix
            split
            · exact (induction _ _).of_suffix
                ((skipSpace_suffix behind).trans so)
            · split
              · exact .read so
              · exact .failed trivial

theorem bracketed_honest
    (honest : Honest element)
    (close : CodePoint) :
    Honest (bracketed element close) := by
  intro text
  have suffix := skipSpace_suffix text
  rw [bracketed]
  split
  · rename_i nothing
    rw [nothing] at suffix
    exact (series_honest honest close 1 [] []).of_suffix suffix
  · rename_i mark behind skipped
    rw [skipped] at suffix
    split
    · exact .read (skipSpace_eq_cons skipped)
    · exact (series_honest honest close _ [] _).of_suffix suffix

theorem entry_honest
    {value : Text → Except Failure (Json × Text)}
    (honest : Honest value) :
    Honest (entry value) := by
  intro text
  rw [entry]
  split
  · exact .failed trivial
  · rename_i opened quote
    have body :=
      (stringBody_honest text opened []).of_suffix (suffix_of_after? quote)
    generalize stringBody text opened [] = outcome at body
    cases body with
    | failed justified => exact .failed justified
    | @read key after suffix =>
        dsimp only
        split
        · exact .failed trivial
        · rename_i behind colon
          have so := (skipSpace_suffix behind).trans
            ((suffix_of_after? colon).trans
                ((skipSpace_suffix after).trans suffix))
          have found := (honest (skipSpace behind)).of_suffix so
          generalize value (skipSpace behind) = outcome at found
          cases found with
          | failed justified => exact .failed justified
          | read further => exact .read further

/-! ## Values and texts -/

/-- The first character decides how a value is read. -/
theorem value_cons
    (levels : Nat)
    (mark : CodePoint)
    (rest : Text) :
    value levels (mark :: rest) =
      if mark = '"' then
        match stringBody (mark :: rest) rest [] with
        | .error failure => .error failure
        | .ok (found, rest) => .ok (.string found, rest)
      else if mark = '[' then
        match levels with
        | 0 => .error (.tooDeep .array)
        | levels + 1 =>
          match bracketed (value levels) ']' rest with
          | .error failure => .error failure
          | .ok (items, rest) => .ok (.array items, rest)
      else if mark = '\x7b' then
        match levels with
        | 0 => .error (.tooDeep .object)
        | levels + 1 =>
          match bracketed (entry (value levels)) '\x7d' rest with
          | .error failure => .error failure
          | .ok (pairs, rest) => .ok (.object (Members.ofPairs pairs), rest)
      else scalar (mark :: rest) := by
  cases levels <;> rfl

theorem value_nil
    (levels : Nat) :
    value levels [] = .error (.malformed .value []) := by
  cases levels <;> rfl

/-- Values are read honestly at a level if they are at the one below it. -/
theorem value_honest_of_below
    {levels : Nat}
    (below : ∀ lower, levels = lower + 1 → Honest (value lower)) :
    Honest (value levels) := by
  intro text
  cases text with
  | nil =>
      rw [value_nil]
      exact .failed trivial
  | cons mark after =>
      have within := List.suffix_cons mark after
      rw [value_cons]
      split
      · have body :=
          (stringBody_honest (mark :: after) after []).of_suffix within
        generalize stringBody (mark :: after) after [] = outcome at body
        cases body with
        | failed justified => exact .failed justified
        | read suffix => exact .read suffix
      split
      · cases levels with
        | zero => exact .failed trivial
        | succ levels =>
            have items :=
              (bracketed_honest (below levels rfl) ']' after).of_suffix within
            dsimp only
            generalize bracketed (value levels) ']' after = outcome at items
            cases items with
            | failed justified => exact .failed justified
            | read suffix => exact .read suffix
      split
      · cases levels with
        | zero => exact .failed trivial
        | succ levels =>
            have members :=
              (bracketed_honest (entry_honest (below levels rfl)) '\x7d'
                  after).of_suffix within
            dsimp only
            generalize bracketed (entry (value levels)) '\x7d' after =
              outcome at members
            cases members with
            | failed justified => exact .failed justified
            | read suffix => exact .read suffix
      · exact scalar_honest (mark :: after)

/-- Values of every depth are read honestly. -/
theorem value_honest (levels : Nat) : Honest (value levels) := by
  induction levels with
  | zero => exact value_honest_of_below (by simp)
  | succ levels induction =>
      refine value_honest_of_below ?_
      intro lower same
      rwa [← Nat.succ.inj same]

/--
A document is refused for a whole number only if so many digits stand in it, one
after the other.
-/
theorem holdsDigits_of_parse
    {text : Text}
    {digits : Nat}
    (refused : parse text = .error (.hugeInteger digits)) :
    digitLimit < digits ∧ HoldsDigits text digits := by
  have first :=
    (value_honest levelLimit (skipSpace text)).of_suffix (skipSpace_suffix text)
  rw [parse, readText] at refused
  generalize value levelLimit (skipSpace text) = outcome at first refused
  split at refused
  · cases refused
  cases first with
  | read =>
      dsimp only at refused
      split at refused
      · cases refused
      · rename_i failure stopped
        split at stopped
        · cases stopped
        · cases stopped
          cases refused
  | @failed failure justified =>
      cases failure with
      | malformed | tooDeep => cases refused
      | hugeInteger count =>
          cases refused
          exact justified

end SettingsStore.Json
