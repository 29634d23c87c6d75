import SettingsStore.Manager.Load
import SettingsStore.Proofs.Json.Doubles
import SettingsStore.Proofs.Json.Merging
import SettingsStore.Proofs.Json.RoundTrip
import SettingsStore.Proofs.Text.Characters

/-!
# What a reader yields

Whatever a document is read from, the value that is read can be written and read
back: it is nested no deeper than the reader goes, its objects hold each key
once, its whole numbers are short enough to be written, its doubles are
canonical, and in its strings and keys no two halves of a pair stand side by
side, because the reader joins them.  The last takes that the text itself holds
no surrogates, which only escapes bring in.
-/

namespace SettingsStore

namespace Members

/--
The members of an object that was read are among its pairs, and hold each key
once.
-/
theorem ofPairs_distinct (pairs : List (Text × Json)) :
    (ofPairs pairs).Distinct ∧ ∀ member ∈ ofPairs pairs, member ∈ pairs := by
  have none : Distinct [] ∧ ∀ member ∈ ([] : Members), member ∈ pairs :=
    ⟨List.Pairwise.nil, fun _ nothing => absurd nothing List.not_mem_nil⟩
  refine @List.foldlRecOn _ _
    (fun members => Distinct members ∧ ∀ member ∈ members, member ∈ pairs) pairs
      _ [] none ?_
  rintro members ⟨distinct, among⟩ pair there
  refine ⟨distinct.put pair.1 pair.2, fun member found => ?_⟩
  rcases mem_put found with rfl | found
  · exact there
  · exact among member found

end Members

namespace Json

/-! ## Strings -/

/-- No surrogate stands in a text. -/
def NoSurrogates (text : Text) : Prop :=
  ∀ point ∈ text, point.isSurrogate = false

theorem noSurrogates_ofChars
    (characters : List Char) :
    NoSurrogates (Text.ofChars characters) := by
  intro point member
  obtain ⟨character, -, rfl⟩ := List.mem_map.mp member
  exact CodePoint.isSurrogate_ofChar character

theorem NoSurrogates.of_suffix
    {text rest : Text}
    (none : NoSurrogates text)
    (suffix : rest <:+ text) :
    NoSurrogates rest :=
  fun point member => none point (suffix.subset member)

/--
The halves of a pair do not stand side by side in what was read, last first.
-/
def UnpairedBack (read : Text) : Prop :=
  read.IsChain fun later earlier =>
    ¬ (earlier.isHighSurrogate ∧ later.isLowSurrogate)

theorem UnpairedBack.reverse
    {read : Text}
    (unpaired : UnpairedBack read) :
    Text.Unpaired read.reverse := by
  have forward := List.isChain_reverse.mp (List.reverse_reverse read ▸ unpaired)
  generalize read.reverse = text at forward
  induction text with
  | nil => trivial
  | cons first rest induction =>
      cases rest with
      | nil => trivial
      | cons second rest =>
          obtain ⟨apart, others⟩ := List.isChain_cons_cons.mp forward
          exact ⟨apart, induction others⟩

theorem isLowSurrogate_of_noSurrogate
    {point : CodePoint}
    (none : point.isSurrogate = false) :
    point.isLowSurrogate = false := by
  rw [CodePoint.isSurrogate, Bool.and_eq_false_iff, decide_eq_false_iff_not,
    decide_eq_false_iff_not] at none
  rw [CodePoint.isLowSurrogate, Bool.and_eq_false_iff, decide_eq_false_iff_not,
    decide_eq_false_iff_not]
  omega

/-- What closes no pair can be put after anything. -/
theorem UnpairedBack.cons
    {read : Text}
    (unpaired : UnpairedBack read)
    {point : CodePoint}
    (notLow : point.isLowSurrogate = false) :
    UnpairedBack (point :: read) := by
  cases read with
  | nil => exact List.isChain_singleton _
  | cons last read =>
      refine List.isChain_cons_cons.mpr ⟨fun pair => ?_, unpaired⟩
      rw [notLow] at pair
      exact Bool.false_ne_true pair.2

theorem isLowSurrogate_ofPair
    {high low : CodePoint}
    (isHigh : high.isHighSurrogate = true)
    (isLow : low.isLowSurrogate = true) :
    (CodePoint.ofPair high low).isLowSurrogate = false := by
  rw [CodePoint.isHighSurrogate, Bool.and_eq_true, decide_eq_true_eq,
    decide_eq_true_eq] at isHigh
  rw [CodePoint.isLowSurrogate, Bool.and_eq_true, decide_eq_true_eq,
    decide_eq_true_eq] at isLow
  rw [CodePoint.isLowSurrogate, Bool.and_eq_false_iff, decide_eq_false_iff_not,
    decide_eq_false_iff_not]
  have value : (CodePoint.ofPair high low).val =
      (0x10000 + (high.val - 0xD800) * 0x400 + (low.val - 0xDC00)) % 0x110000 :=
      rfl
  rw [value]
  omega

/-- A half that closes a pair is joined with the one that opened it. -/
theorem UnpairedBack.pushUnit
    {read : Text}
    (unpaired : UnpairedBack read)
    (unit : CodePoint) :
    UnpairedBack (pushUnit unit read) := by
  cases read with
  | nil => exact List.isChain_singleton _
  | cons last read =>
      rw [Json.pushUnit]
      split
      · rename_i pair
        rw [Bool.and_eq_true] at pair
        exact UnpairedBack.cons unpaired.tail
          (isLowSurrogate_ofPair pair.1 pair.2)
      · rename_i noPair
        refine List.isChain_cons_cons.mpr ⟨fun pair => noPair ?_, unpaired⟩
        rw [pair.1, pair.2]
        rfl

theorem isLowSurrogate_of_escaped?
    {letter plain : CodePoint}
    (escaped : escaped? letter = some plain) :
    plain.isLowSurrogate = false := by
  rw [escaped?] at escaped
  split at escaped
  · rename_i same
    cases escaped
    rcases same with rfl | rfl | rfl <;> decide
  · split at escaped
    · cases escaped
      decide
    · split at escaped
      · cases escaped
        decide
      · split at escaped
        · cases escaped
          decide
        · split at escaped
          · cases escaped
            decide
          · split at escaped
            · cases escaped
              decide
            · cases escaped

/-- In a string that was read no two halves of a pair stand side by side. -/
theorem unpaired_of_stringBody
    {opening text read found rest : Text}
    (none : NoSurrogates text)
    (unpaired : UnpairedBack read)
    (done : stringBody opening text read = .ok (found, rest)) :
    found.Unpaired := by
  fun_induction stringBody opening text read with
  | case2 =>
      cases done
      exact unpaired.reverse
  | case4 _ _ _ _ _ _ _ _ _ _ induction =>
      refine induction (none.of_suffix ?_) (unpaired.pushUnit _) done
      iterate 6 refine List.IsSuffix.trans ?_ (List.suffix_cons _ _)
      exact List.suffix_refl _
  | case7 _ _ _ _ _ escaped _ induction =>
      exact induction (none.of_suffix
          ((List.suffix_cons _ _).trans (List.suffix_cons _ _)))
          (unpaired.cons (isLowSurrogate_of_escaped? escaped)) done
  | case10 point rest read _ _ _ induction =>
      exact induction (none.of_suffix (List.suffix_cons _ _))
        (unpaired.cons (isLowSurrogate_of_noSurrogate
            (none point List.mem_cons_self))) done
  | case1 | case3 | case5 | case6 | case8 | case9 => cases done

/-! ## Numbers and words -/

theorem digitsValue_lt
    {text : Text}
    (digits : ∀ point ∈ text, point.isDigit = true) :
    Text.digitsValue text < 10 ^ text.length := by
  induction text using List.reverseRecOn with
  | nil => decide
  | append_singleton text point induction =>
      have before :=
        induction fun other member =>
          digits other (List.mem_append_left _ member)
      have digit :=
        digits point (List.mem_append_right _ (List.mem_singleton_self point))
      rw [CodePoint.isDigit, Bool.and_eq_true, decide_eq_true_eq,
        decide_eq_true_eq] at digit
      have last : Text.digitsValue [point] = point.val - 0x30 := by
        rw [Text.digitsValue, List.foldl_cons, List.foldl_nil, Nat.zero_mul,
          Nat.zero_add]
      rw [digitsValue_append, last, List.length_append, List.length_singleton,
        pow_one, pow_succ]
      omega

-- for any limit, so that the power is never computed
theorem digitsValue_lt_of_length
    {text : Text}
    {limit : Nat}
    (digits : ∀ point ∈ text, point.isDigit = true)
    (short : text.length ≤ limit) :
    Text.digitsValue text < Nat.pow 10 limit :=
  Nat.lt_of_lt_of_le (digitsValue_lt digits)
    (Nat.pow_le_pow_right (by decide) short)

theorem isDigit_of_mem_wholeDigits
    {text : Text}
    {point : CodePoint}
    (member : point ∈ (wholeDigits text).1) :
    point.isDigit = true := by
  rw [wholeDigits] at member
  split at member
  · rw [List.mem_singleton.mp member]
    decide
  · exact List.mem_takeWhile_imp member

variable {levels : Nat}

/--
A number that was read can be written: a whole one is short, and a double is
canonical.
-/
theorem faithful_of_unsignedNumber
    {start text rest : Text}
    {negative : Bool}
    {found : Json}
    (done : unsignedNumber start negative text = .ok (found, rest)) :
    Faithful levels found := by
  rw [unsignedNumber] at done
  dsimp only at done
  split at done
  · cases done
  · split at done
    · split at done
      · cases done
      · rename_i short
        cases done
        have below := digitsValue_lt_of_length
          (fun point member => @isDigit_of_mem_wholeDigits text point member)
            (Nat.le_of_not_lt short)
        refine ⟨Nat.zero_le _, trivial, ?_, trivial⟩
        rw [hasHugeInteger, decide_eq_false_iff_not]
        generalize Nat.pow 10 digitLimit = most at below ⊢
        split <;> omega
    · cases done
      exact ⟨Nat.zero_le _, trivial, rfl,
        readsBack_of_wellFormed (Double.wellFormed_ofDecimal _ _ _)⟩

theorem faithful_of_scalar
    {text rest : Text}
    {found : Json}
    (done : scalar text = .ok (found, rest)) :
    Faithful levels found := by
  unfold scalar at done
  dsimp only at done
  split at done
  · rename_i word
    obtain ⟨candidate, listed, matched⟩ := List.exists_of_findSome?_eq_some word
    obtain ⟨after, -, rfl⟩ := Option.map_eq_some_iff.mp matched
    cases done
    simp only [List.mem_cons, List.not_mem_nil, or_false] at listed
    rcases listed with rfl | rfl | rfl | rfl | rfl | rfl
    iterate 3 exact ⟨Nat.zero_le _, trivial, rfl, trivial⟩
    iterate 3 exact ⟨Nat.zero_le _, trivial, rfl,
      readsBack_of_wellFormed trivial⟩
  · rw [number] at done
    split at done <;> exact faithful_of_unsignedNumber done

/-! ## Containers -/

variable {Element : Type} {element : Text → Except Failure (Element × Text)}
  {property : Element → Prop}

/-- What a reader reads of a text without surrogates has a property. -/
def Yields
    (property : Element → Prop)
    (reader : Text → Except Failure (Element × Text)) :
    Prop :=
  ∀ text found rest, NoSurrogates text → reader text = .ok (found, rest) →
    property found

theorem Honest.suffix
    (honest : Honest element)
    {text rest : Text}
    {found : Element}
    (done : element text = .ok (found, rest)) :
    rest <:+ text := by
  have about := honest text
  rw [done] at about
  cases about with
  | read suffix => exact suffix

theorem series_yields
    (yields : Yields property element)
    (honest : Honest element)
    (close : CodePoint)
    {fuel : Nat}
    {text rest : Text}
    {read found : List Element}
    (none : NoSurrogates text)
    (before : ∀ item ∈ read, property item)
    (done : series element close fuel text read = .ok (found, rest)) :
    ∀ item ∈ found, property item := by
  induction fuel generalizing text read with
  | zero => cases done
  | succ fuel induction =>
      rw [series] at done
      split at done
      · cases done
      · rename_i item after first
        have suffix := honest.suffix first
        have all :=
          List.forall_mem_cons.mpr ⟨yields text item after none first, before⟩
        split at done
        · cases done
        · rename_i mark behind skipped
          split at done
          · have later :=
              (skipSpace_suffix behind).trans
                ((skipSpace_eq_cons skipped).trans suffix)
            exact induction (none.of_suffix later) all done
          · split at done
            · cases done
              exact fun item member => all item (List.mem_reverse.mp member)
            · cases done

theorem bracketed_yields
    (yields : Yields property element)
    (honest : Honest element)
    (close : CodePoint) :
    Yields (fun items => ∀ item ∈ items, property item)
      (bracketed element close) := by
  intro text found rest none done
  have nothing : ∀ item ∈ ([] : List Element), property item :=
    fun _ absent => absurd absent List.not_mem_nil
  have inside := none.of_suffix (skipSpace_suffix text)
  rw [bracketed] at done
  split at done
  · exact series_yields yields honest close
      (fun _ absent => absurd absent List.not_mem_nil) nothing done
  · rename_i mark behind skipped
    split at done
    · cases done
      exact nothing
    · exact series_yields yields honest close (skipped ▸ inside) nothing done

theorem entry_yields
    {value : Text → Except Failure (Json × Text)}
    (yields : Yields (Faithful levels) value) :
    Yields (fun member => member.1.Unpaired ∧ Faithful levels member.2)
      (entry value) := by
  intro text found rest none done
  rw [entry] at done
  split at done
  · cases done
  · rename_i opened quote
    have opening := none.of_suffix (suffix_of_after? quote)
    split at done
    · cases done
    · rename_i key after body
      have behind : after <:+ opened := by
        have about := stringBody_honest text opened []
        rw [body] at about
        cases about with
        | read suffix => exact suffix
      split at done
      · cases done
      · rename_i further colon
        split at done
        · cases done
        · rename_i inner last read
          cases done
          refine ⟨unpaired_of_stringBody opening List.isChain_nil body,
            yields _ _ _ ?_ read⟩
          exact opening.of_suffix ((skipSpace_suffix further).trans
            ((suffix_of_after? colon).trans
              ((skipSpace_suffix after).trans behind)))

/-! ## Values and texts -/

/-- Values are read faithfully at a level if they are at the one below it. -/
theorem value_yields_of_below
    (below :
      ∀ lower, levels = lower + 1 → Yields (Faithful lower) (value lower)) :
    Yields (Faithful levels) (value levels) := by
  intro text found rest none done
  cases text with
  | nil =>
      rw [value_nil] at done
      cases done
  | cons mark after =>
      have inside := none.of_suffix (List.suffix_cons mark after)
      rw [value_cons] at done
      split at done
      · split at done
        · cases done
        · rename_i body
          cases done
          exact ⟨Nat.zero_le _, trivial, rfl,
            unpaired_of_stringBody inside List.isChain_nil body⟩
      split at done
      · cases levels with
        | zero => cases done
        | succ levels =>
            dsimp only at done
            split at done
            · cases done
            · rename_i items left read
              cases done
              exact faithful_array_iff.mpr
                (bracketed_yields (below levels rfl)
                    (value_honest levels) _ _ _ _ inside read)
      split at done
      · cases levels with
        | zero => cases done
        | succ levels =>
            dsimp only at done
            split at done
            · cases done
            · rename_i pairs left read
              cases done
              have each :=
                bracketed_yields (entry_yields (below levels rfl))
                  (entry_honest (value_honest levels))
                _ _ _ _ inside read
              obtain ⟨distinct, among⟩ := Members.ofPairs_distinct pairs
              exact faithful_object_iff.mpr
                ⟨distinct, fun member there => each member (among member there)⟩
      · exact faithful_of_scalar done

/-- Values of every depth are read faithfully. -/
theorem value_yields
    (levels : Nat) :
    Yields (Faithful levels) (value levels) := by
  induction levels with
  | zero => exact value_yields_of_below nofun
  | succ levels induction =>
      refine value_yields_of_below ?_
      intro lower same
      rwa [← Nat.succ.inj same]

/--
What is read of a text without surrogates is read back when it is written.
-/
theorem faithful_of_parse
    {text : Text}
    {document : Json}
    (none : NoSurrogates text)
    (done : parse text = .ok document) :
    Faithful levelLimit document := by
  rw [parse] at done
  split at done
  · cases done
  · split at done
    · rename_i found read
      cases done
      rw [readText] at read
      split at read
      · cases read
      · rename_i value rest first
        split at read
        · cases read
          exact value_yields levelLimit _ _ _
            (none.of_suffix (skipSpace_suffix text)) first
        · cases read
    · cases done

end Json

/-- A document that was read from a file is read back when it is written. -/
theorem faithful_of_readDocument
    {path : Path}
    {content : ByteArray}
    {document : Json}
    (done : readDocument path content = .ok document) :
    Json.Faithful Json.levelLimit document := by
  rw [readDocument] at done
  split at done
  · cases done
  · split at done
    · rename_i found parsed
      cases done
      exact Json.faithful_of_parse (Json.noSurrogates_ofChars _) parsed
    · cases done
    · cases done

end SettingsStore
