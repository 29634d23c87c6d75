import Mathlib.Algebra.Group.Nat.Defs
import Mathlib.Tactic.ByContra
import SettingsStore.Files.Name
import SettingsStore.Files.Walk
import SettingsStore.Proofs.Text.Characters

/-!
# Names and their stored form

The stored form of a text is the text itself unless surrogates stand in it, and
it never is a name that leads back unless the text was one: what a surrogate
stands for is no octet of an ASCII character.  A text that the system takes has
only beginnings that the system takes.
-/

namespace SettingsStore

namespace Text

/-! ## Octets of a beginning -/

/--
The octets of a beginning of a text are a beginning of the octets of the text.
-/
theorem octetsFrom_append
    {standsFor : CodePoint → Option UInt8}
    {offset : Nat}
    {beginning rest : Text}
    {octets all : List UInt8}
    (taken : (beginning ++ rest).octetsFrom standsFor offset octets = .ok all) :
    ∃ found, beginning.octetsFrom standsFor offset octets = .ok found ∧
      found <+: all := by
  induction beginning generalizing offset octets with
  | nil =>
      refine ⟨octets.reverse, rfl, ?_⟩
      rw [List.nil_append] at taken
      induction rest generalizing offset octets with
      | nil =>
          cases taken
          exact List.prefix_refl _
      | cons point rest induction =>
          rw [octetsFrom] at taken
          split at taken
          · have longer := induction taken
            rw [List.reverse_append, List.reverse_reverse] at longer
            exact (List.prefix_append _ _).trans longer
          · split at taken
            · have longer := induction taken
              rw [List.reverse_cons] at longer
              exact (List.prefix_append _ _).trans longer
            · cases taken
  | cons point beginning induction =>
      rw [List.cons_append, octetsFrom] at taken
      rw [octetsFrom]
      split
      · rename_i character same
        rw [same] at taken
        exact induction taken
      · rename_i none
        rw [none] at taken
        split
        · rename_i octet same
          simp only [same] at taken
          exact induction taken
        · rename_i refused
          simp only [refused] at taken
          cases taken

/-- What begins a text that the system takes is taken too, and is no longer. -/
theorem systemOctets?_append
    {beginning rest : Text}
    {octets : List UInt8}
    (taken : (beginning ++ rest).systemOctets? = .ok octets) :
    ∃ found, beginning.systemOctets? = .ok found ∧
      found.length ≤ octets.length := by
  rw [systemOctets?, nameOctets?] at taken
  cases all : (beginning ++ rest).octetsFrom CodePoint.escapedOctet? 0 [] with
  | error found =>
      rw [all] at taken
      cases taken
  | ok whole =>
      rw [all] at taken
      dsimp only at taken
      split at taken
      · cases taken
      · rename_i noNull
        cases taken
        obtain ⟨found, foundOctets, begins⟩ := octetsFrom_append all
        refine ⟨found, ?_, begins.length_le⟩
        rw [systemOctets?, nameOctets?, foundOctets]
        have noNullBefore : 0 ∉ found := by
          simp only [List.contains_eq_mem, decide_eq_true_eq] at noNull
          exact fun member => noNull (begins.subset member)
        simp [noNullBefore]

/-- Octets go on behind a text that has some. -/
theorem octetsFrom_append_of_ok
    {standsFor : CodePoint → Option UInt8}
    {offset : Nat}
    {beginning : Text}
    {octets found : List UInt8}
    (taken : beginning.octetsFrom standsFor offset octets = .ok found)
    (characters : List Char) :
    (beginning ++ ofChars characters).octetsFrom standsFor offset octets =
      .ok (found ++ Utf8.encode characters) := by
  induction beginning generalizing offset octets with
  | nil =>
      cases taken
      induction characters generalizing offset octets with
      | nil => simp [ofChars, octetsFrom, Utf8.encode]
      | cons character characters induction =>
          have point : (ofChars (character :: characters)) =
              CodePoint.ofChar character :: ofChars characters := rfl
          rw [List.nil_append] at induction ⊢
          rw [point, octetsFrom, CodePoint.toChar?_ofChar]
          dsimp only
          rw [induction]
          simp [Utf8.encode]
  | cons point beginning induction =>
      rw [octetsFrom] at taken
      rw [List.cons_append, octetsFrom]
      split
      · rename_i character same
        rw [same] at taken
        exact induction taken
      · rename_i none
        rw [none] at taken
        split
        · rename_i octet same
          simp only [same] at taken
          exact induction taken
        · rename_i refused
          simp only [refused] at taken
          cases taken

/--
A text that the system takes can be gone on with characters other than the null
character.
-/
theorem systemOctets?_append_ofChars
    {beginning : Text}
    {octets : List UInt8}
    {characters : List Char}
    (taken : beginning.systemOctets? = .ok octets)
    (ordinary : 0 ∉ Utf8.encode characters) :
    (beginning ++ ofChars characters).systemOctets? =
      .ok (octets ++ Utf8.encode characters) := by
  rw [systemOctets?, nameOctets?] at taken ⊢
  cases all : beginning.octetsFrom CodePoint.escapedOctet? 0 [] with
  | error found =>
      rw [all] at taken
      cases taken
  | ok whole =>
      rw [all] at taken
      dsimp only at taken
      split at taken
      · cases taken
      · rename_i noNull
        cases taken
        rw [octetsFrom_append_of_ok all characters]
        simp only [List.contains_eq_mem, decide_eq_true_eq] at noNull
        simp [noNull, ordinary]

/-! ## Stored forms -/

/-- A text of characters is its own stored form. -/
theorem stored_ofChars (characters : List Char) :
    (ofChars characters).stored = ofChars characters := by
  have none : (ofChars characters).any CodePoint.isSurrogate = false := by
    rw [List.any_eq_false]
    intro point member
    obtain ⟨character, _, rfl⟩ := List.mem_map.mp member
    simp [CodePoint.isSurrogate_ofChar character]
  simp [stored, none]

theorem stored_ofString (string : String) :
    (ofString string).stored = ofString string :=
  stored_ofChars string.toList

end Text

namespace Utf8

/-- The octets after the first two add to the value, and none is read twice. -/
theorem le_of_decodeRest
    {first : UInt8}
    {offset value count wanted : Nat}
    {octets : List UInt8}
    {result : Nat × Nat × List UInt8}
    (read : decodeRest first offset value count wanted octets = .ok result) :
    value * 0x40 ^ wanted ≤ result.1 ∧ result.2.2.length ≤ octets.length := by
  induction wanted generalizing value count octets with
  | zero =>
      cases octets <;> cases read <;> simp
  | succ wanted induction =>
      cases octets with
      | nil => cases read
      | cons octet octets =>
          rw [decodeRest] at read
          split at read
          · obtain ⟨more, shorter⟩ := induction read
            refine ⟨?_, by simp only [List.length_cons]; omega⟩
            have grown : value * 0x40 ≤ value * 0x40 + (octet.toNat - 0x80) :=
              Nat.le_add_right _ _
            calc value * 0x40 ^ (wanted + 1) =
              value * 0x40 * 0x40 ^ wanted := by
                  rw [Nat.pow_succ, Nat.mul_comm (0x40 ^ wanted), Nat.mul_assoc]
              _ ≤ (value * 0x40 + (octet.toNat - 0x80)) * 0x40 ^ wanted :=
                  Nat.mul_le_mul_right _ grown
              _ ≤ result.1 := more
          · cases read

theorem le_length_of_decodeRest
    {first : UInt8}
    {offset value count wanted : Nat}
    {octets : List UInt8}
    {malformed : Malformed}
    (refused :
      decodeRest first offset value count wanted octets = .error malformed) :
    count ≤ malformed.length := by
  induction wanted generalizing value count octets with
  | zero => cases octets <;> cases refused
  | succ wanted induction =>
      cases octets with
      | nil =>
          cases refused
          exact Nat.le_refl count
      | cons octet octets =>
          rw [decodeRest] at refused
          split at refused
          · have longer := induction refused
            omega
          · cases refused
            exact Nat.le_refl count

theorem ofNat_ne_dot
    {value : Nat}
    (high : 0x80 ≤ value) :
    Char.ofNat value ≠ '.' := by
  intro same
  by_cases valid : value.isValidChar
  · have number := congrArg Char.toNat same
    rw [Char.ofNat, dif_pos valid] at number
    have kept : (Char.ofNatAux value valid).toNat = value := rfl
    have dot : '.'.toNat = 0x2E := rfl
    omega
  · rw [Char.ofNat, dif_neg valid] at same
    cases same

/-- Two octets that go together already make the value of no ASCII character. -/
theorem le_of_admitsSecond
    {first second wanted : Nat}
    (followed : followers? first = some (wanted + 1))
    (admitted : admitsSecond first second = true) :
    0x80 ≤ (leadBits first (wanted + 1) * 0x40 + (second - 0x80)) *
      0x40 ^ wanted := by
  rw [admitsSecond, Bool.and_eq_true, decide_eq_true_eq, decide_eq_true_eq]
    at admitted
  obtain ⟨least, -⟩ := admitted
  have lead :
      (wanted = 0 ∧ 0xC2 ≤ first) ∨ (wanted = 1 ∧ 0xE0 ≤ first) ∨
        (wanted = 2 ∧ 0xF0 ≤ first) := by
    unfold followers? at followed
    split at followed
    · simp at followed
    · split at followed
      · rename_i range
        exact Or.inl ⟨by simpa using followed.symm, range.1⟩
      · split at followed
        · rename_i range
          exact Or.inr (Or.inl ⟨by simpa using followed.symm, range.1⟩)
        · split at followed
          · rename_i range
            exact Or.inr (Or.inr ⟨by simpa using followed.symm, range.1⟩)
          · simp at followed
  rcases lead with ⟨rfl, range⟩ | ⟨rfl, range⟩ | ⟨rfl, range⟩
  · have bits : leadBits first (0 + 1) = first - 0xC0 := rfl
    rw [bits]
    omega
  · have bits : leadBits first (1 + 1) = first - 0xE0 := rfl
    rw [bits]
    split at least <;> omega
  · have bits : leadBits first (2 + 1) = first - 0xF0 := rfl
    rw [bits]
    split at least
    · omega
    · split at least <;> omega

/-- A first octet that is no ASCII character begins no dot. -/
theorem ne_dot_of_decodeChar
    {first : UInt8}
    {offset : Nat}
    {octets : List UInt8}
    {result : Char × Nat × List UInt8}
    (read : decodeChar first offset octets = .ok result) :
    result.2.2.length ≤ octets.length ∧
      (0x80 ≤ first.toNat → result.1 ≠ '.') := by
  rw [decodeChar] at read
  split at read
  · cases read
  · rename_i single
    cases read
    refine ⟨Nat.le_refl _, fun high => ?_⟩
    rw [followers?, if_neg (Nat.not_lt_of_le high)] at single
    split at single
    · cases single
    · split at single
      · cases single
      · split at single <;> cases single
  · rename_i wanted followed
    split at read
    · cases read
    · rename_i second octets
      split at read
      · rename_i admitted
        split at read
        · rename_i value count rest rested
          cases read
          obtain ⟨least, shorter⟩ := le_of_decodeRest rested
          refine ⟨Nat.le_succ_of_le shorter, fun _ => ofNat_ne_dot ?_⟩
          exact Nat.le_trans (le_of_admitsSecond followed admitted) least
        · cases read
      · cases read

/--
What is refused is refused from its first octet on, which is no ASCII character.
-/
theorem high_of_decodeChar_error
    {first : UInt8}
    {offset : Nat}
    {octets : List UInt8}
    {malformed : Malformed}
    (refused : decodeChar first offset octets = .error malformed) :
    0x80 ≤ first.toNat ∧ 1 ≤ malformed.length := by
  have high : 0x80 ≤ first.toNat := by
    by_contra low
    rw [decodeChar, followers?, if_pos (Nat.lt_of_not_le low)] at refused
    cases refused
  refine ⟨high, ?_⟩
  rw [decodeChar] at refused
  split at refused
  · cases refused
    exact Nat.le_refl 1
  · cases refused
  · split at refused
    · cases refused
      exact Nat.le_refl 1
    · split at refused
      · split at refused
        · cases refused
        · rename_i rested
          cases refused
          exact Nat.le_of_succ_le (le_length_of_decodeRest rested)
      · cases refused
        exact Nat.le_refl 1

end Utf8

namespace Text

/-- What was shown so far stays. -/
theorem mem_ofOctetsFrom
    {fuel : Nat}
    {octets : List UInt8}
    {shown : Text}
    {point : CodePoint}
    (member : point ∈ shown) :
    point ∈ ofOctetsFrom fuel octets shown := by
  induction fuel generalizing octets shown with
  | zero => cases octets <;> exact List.mem_reverse.mpr member
  | succ fuel induction =>
      cases octets with
      | nil => exact List.mem_reverse.mpr member
      | cons first octets =>
          rw [ofOctetsFrom]
          split
          · exact induction (List.mem_cons_of_mem _ member)
          · exact induction (List.mem_append_right _ member)

theorem ofOctet_ne_dot
    (octet : UInt8) :
    CodePoint.ofOctet octet ≠ ('.' : CodePoint) := by
  intro same
  have number := congrArg Fin.val same
  have small := octet.toNat_lt
  have dot : ('.' : CodePoint).val = 0x2E := rfl
  simp only [CodePoint.ofOctet, CodePoint.ofNat, Fin.ofNat, dot] at number
  omega

theorem ofChar_ne_dot
    {character : Char}
    (other : character ≠ '.') :
    (character : CodePoint) ≠ ('.' : CodePoint) := by
  intro same
  have numbers : character.toNat = '.'.toNat :=
    congrArg (fun point : CodePoint => point.val) same
  exact other (Char.toNat_inj.mp numbers)

/--
Octets of which one is no ASCII character are shown with a point that is no dot.
-/
theorem exists_of_ofOctetsFrom
    {fuel : Nat}
    {octets : List UInt8}
    {shown : Text}
    {octet : UInt8}
    (enough : octets.length ≤ fuel)
    (member : octet ∈ octets)
    (high : 0x80 ≤ octet.toNat) :
    ∃ point ∈ ofOctetsFrom fuel octets shown, point ≠ ('.' : CodePoint) := by
  induction fuel generalizing octets shown with
  | zero =>
      rw [List.length_eq_zero_iff.mp (Nat.le_zero.mp enough)] at member
      cases member
  | succ fuel induction =>
      cases octets with
      | nil => cases member
      | cons first octets =>
          rw [List.length_cons] at enough
          rw [ofOctetsFrom]
          split
          · rename_i character count rest read
            obtain ⟨shorter, other⟩ := Utf8.ne_dot_of_decodeChar read
            by_cases ascii : first.toNat < 0x80
            · rw [Utf8.decodeChar, Utf8.followers?, if_pos ascii] at read
              cases read
              rcases List.mem_cons.mp member with rfl | member
              · omega
              · exact induction (Nat.le_of_succ_le_succ enough) member
            · exact ⟨_, mem_ofOctetsFrom (List.mem_cons_self ..),
                ofChar_ne_dot (other (Nat.le_of_not_lt ascii))⟩
          · rename_i malformed refused
            obtain ⟨-, one⟩ := Utf8.high_of_decodeChar_error refused
            obtain ⟨length, equal⟩ := Nat.exists_eq_add_of_le' one
            refine ⟨_, mem_ofOctetsFrom (List.mem_append_left _ ?_),
              ofOctet_ne_dot first⟩
            rw [equal]
            simp

/-- An octet that a text names already stays. -/
theorem mem_of_octetsFrom
    {text : Text}
    {standsFor : CodePoint → Option UInt8}
    {offset : Nat}
    {octets all : List UInt8}
    {octet : UInt8}
    (member : octet ∈ octets)
    (taken : text.octetsFrom standsFor offset octets = .ok all) :
    octet ∈ all := by
  induction text generalizing offset octets with
  | nil =>
      cases taken
      exact List.mem_reverse.mpr member
  | cons point rest induction =>
      rw [octetsFrom] at taken
      split at taken
      · exact induction (List.mem_append_right _ member) taken
      · split at taken
        · exact induction (List.mem_cons_of_mem _ member) taken
        · cases taken

theorem toChar?_of_isSurrogate
    {point : CodePoint}
    (surrogate : point.isSurrogate = true) :
    point.toChar? = none := by
  rw [CodePoint.isSurrogate, Bool.and_eq_true, decide_eq_true_eq,
    decide_eq_true_eq] at surrogate
  rw [CodePoint.toChar?, dif_neg]
  rw [Nat.isValidChar]
  omega

theorem high_of_escapedOctet?
    {point : CodePoint}
    {octet : UInt8}
    (escapes : point.escapedOctet? = some octet) :
    0x80 ≤ octet.toNat := by
  rw [CodePoint.escapedOctet?] at escapes
  split at escapes
  · rename_i range
    have number := congrArg UInt8.toNat (Option.some.inj escapes)
    rw [Nat.toUInt8_eq, UInt8.toNat_ofNat'] at number
    omega
  · cases escapes

/--
The octets that a text with a surrogate names are not all ASCII characters.
-/
theorem exists_high_of_octetsFrom
    {text : Text}
    {offset : Nat}
    {octets all : List UInt8}
    (surrogate : text.any CodePoint.isSurrogate = true)
    (taken : text.octetsFrom CodePoint.escapedOctet? offset octets = .ok all) :
    ∃ octet ∈ all, 0x80 ≤ octet.toNat := by
  induction text generalizing offset octets with
  | nil => cases surrogate
  | cons point rest induction =>
      rw [octetsFrom] at taken
      rw [List.any_cons, Bool.or_eq_true] at surrogate
      split at taken
      · rename_i character same
        rcases surrogate with here | later
        · rw [toChar?_of_isSurrogate here] at same
          cases same
        · exact induction later taken
      · split at taken
        · rename_i octet escapes
          exact ⟨octet, mem_of_octetsFrom (List.mem_cons_self ..) taken,
            high_of_escapedOctet? escapes⟩
        · cases taken

/-- A name whose stored form is made of dots is its stored form. -/
theorem eq_of_stored_dots
    {name dots : Text}
    (only : ∀ point ∈ dots, point = ('.' : CodePoint))
    (same : name.stored = dots) :
    name = dots := by
  rw [stored] at same
  split at same
  · rename_i surrogate
    split at same
    · rename_i octets taken
      obtain ⟨octet, member, high⟩ := exists_high_of_octetsFrom surrogate taken
      obtain ⟨point, shown, other⟩ :=
        @exists_of_ofOctetsFrom octets.length octets [] octet
          (Nat.le_refl _) member high
      change ofOctetsFrom octets.length octets [] = _ at same
      rw [same] at shown
      exact absurd (only point shown) other
    · exact same
  · exact same

/-- A name whose stored form leads back is the name that leads back. -/
theorem eq_back_of_stored
    {name : Text}
    (back : name.stored = "..") :
    name = ".." :=
  eq_of_stored_dots (by simp [ofString]) back

end Text

end SettingsStore
