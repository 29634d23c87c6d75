import SettingsStore.Log.Record
import SettingsStore.Proofs.Json.Merging
import SettingsStore.Proofs.Json.Printing

/-!
# Records on lines

In the form of JSON a record is one line of visible ASCII, whatever its texts
hold: line ends, quotes and all that is not ASCII are escaped, so that nothing
in a message can end the line or begin another member.  What is read of the line
are the texts of the record, each under its key and as it was.  A log is made of
the lines of its records, one after the other.
-/

namespace SettingsStore

/--
An object of strings whose keys are distinct is read back if its keys and
strings are.
-/
theorem Json.faithful_strings
    {entries : List (Text × Text)}
    (distinct : (entries.map Prod.fst).Nodup)
    (unpaired : ∀ entry ∈ entries, entry.1.Unpaired ∧ entry.2.Unpaired)
    (levels : Nat) :
    Faithful (levels + 1)
      (.object (entries.map fun entry => (entry.1, .string entry.2))) := by
  refine faithful_object_iff.mpr ⟨?_, ?_⟩
  · have apart : entries.Pairwise fun first second => first.1 ≠ second.1 :=
      List.pairwise_map.mp distinct
    exact List.pairwise_map.mpr apart
  · intro member among
    obtain ⟨entry, there, rfl⟩ := List.mem_map.mp among
    obtain ⟨key, text⟩ := unpaired entry there
    exact ⟨key, Nat.zero_le _, trivial, rfl, text⟩

namespace Log

/--
The keys of a line: that of a failure is among them exactly if there is one.
-/
def lineKeys (failure : Option Text) : List Text :=
  "ts" :: "level" :: "logger" :: "msg" :: if failure.isSome then ["exc"] else []

/-- The texts of a line by their keys. -/
def lineEntries
    (moment level logger message : Text)
    (failure : Option Text) :
    List (Text × Text) :=
  ("ts", moment) :: ("level", level) :: ("logger", logger) ::
    ("msg", message) ::
    (failure.map fun failure => (Text.ofString "exc", failure)).toList

section

variable (moment level logger message : Text) (failure : Option Text)

theorem keys_lineEntries :
    (lineEntries moment level logger message failure).map Prod.fst =
      lineKeys failure := by
  cases failure <;> rfl

theorem nodup_lineKeys : (lineKeys failure).Nodup := by
  rw [lineKeys]
  split <;> decide

/--
Under each key of a line stands its text, and under no other key does any.
-/
theorem find?_lineEntries :
    let members : Members :=
      (lineEntries moment level logger message failure).map fun entry =>
        (entry.1, .string entry.2)
    members.find? "ts" = some (.string moment) ∧
      members.find? "level" = some (.string level) ∧
        members.find? "logger" = some (.string logger) ∧
          members.find? "msg" = some (.string message) ∧
            members.find? "exc" = failure.map Json.string := by
  cases failure <;> exact ⟨rfl, rfl, rfl, rfl, rfl⟩

end

theorem unpaired_lineEntries
    {moment level logger message : Text}
    {failure : Option Text}
    (ofMoment : moment.Unpaired)
    (ofLevel : level.Unpaired)
    (ofLogger : logger.Unpaired)
    (ofMessage : message.Unpaired)
    (ofFailure : ∀ text, failure = some text → text.Unpaired) :
    ∀ entry ∈ lineEntries moment level logger message failure,
      entry.1.Unpaired ∧ entry.2.Unpaired := by
  have key := Text.unpaired_ofString
  simp only [lineEntries, List.forall_mem_cons, Option.mem_toList]
  refine ⟨⟨key _, ofMoment⟩, ⟨key _, ofLevel⟩, ⟨key _, ofLogger⟩,
    ⟨key _, ofMessage⟩, fun entry among => ?_⟩
  obtain ⟨text, known, rfl⟩ := Option.map_eq_some_iff.mp among
  exact ⟨key _, ofFailure text known⟩

namespace Record

/--
In the texts of a record that come from elsewhere no two halves of a pair stand
side by side.
-/
structure Unpaired (record : Record) : Prop where
  level : record.levelName.Unpaired
  logger : record.logger.Unpaired
  message : record.message.Unpaired
  failure : ∀ failure, record.failure = some failure → failure.Unpaired

variable {record : Record}

/-- The texts of a record by their keys. -/
def entries (record : Record) : List (Text × Text) :=
  lineEntries (stamp record.created) record.levelName record.logger
    record.message record.failure

/-- A record stands for the object of its texts. -/
theorem toJson_eq (record : Record) :
    record.toJson = .object
      (record.entries.map fun entry => (entry.1, .string entry.2)) := by
  rw [entries, toJson]
  -- the stamp is a text like any other and not to be computed
  generalize stamp record.created = moment
  cases record.failure <;> rfl

/--
The object that a record stands for is read back from what is written for it.
-/
theorem faithful_toJson
    (unpaired : record.Unpaired) :
    Json.Faithful Json.levelLimit record.toJson := by
  have distinct : (record.entries.map Prod.fst).Nodup := by
    rw [entries, keys_lineEntries]
    exact nodup_lineKeys record.failure
  rw [toJson_eq]
  refine Json.faithful_strings distinct ?_ 999
  rw [entries]
  generalize stamp record.created = moment
  exact unpaired_lineEntries
    (Text.unpaired_ofString _) unpaired.level unpaired.logger unpaired.message
    unpaired.failure

/-- A line in the form of JSON is visible ASCII. -/
theorem visible_line (record : Record) :
    ∀ point ∈ record.line .jsonLines, 0x20 ≤ point.val ∧ point.val ≤ 0x7E := by
  intro point member
  obtain ⟨character, among, rfl⟩ := List.mem_map.mp member
  rcases Json.printed_render .line record.toJson character among with
    visible | ⟨indented, -⟩
  · exact visible
  · cases indented

/--
A record in the form of JSON is written in visible ASCII alone, so that no line
ends in it.  It is read back as an object whose keys are those of the stamp, the
level, the logger and the message, in this order, and last, exactly if there is
a failure, that of the failure; and under each of them stands the text as it
was.
-/
theorem parse_line
    (record : Record)
    (unpaired : record.Unpaired) :
    (∀ point ∈ record.line .jsonLines, 0x20 ≤ point.val ∧ point.val ≤ 0x7E) ∧
      ∃ members : Members,
        Json.parse (record.line .jsonLines) = .ok (.object members) ∧
          members.keys = lineKeys record.failure ∧
            members.find? "ts" = some (.string (stamp record.created)) ∧
              members.find? "level" = some (.string record.levelName) ∧
                members.find? "logger" = some (.string record.logger) ∧
                  members.find? "msg" = some (.string record.message) ∧
                    members.find? "exc" = record.failure.map Json.string := by
  have read := @Json.parse_render .line _ (faithful_toJson unpaired) [] nofun
  rw [List.append_nil, toJson_eq] at read
  refine ⟨record.visible_line, record.entries.map fun entry =>
      (entry.1, .string entry.2), ?_, ?_, ?_⟩
  · rw [line, toJson_eq]
    exact read
  · rw [Members.keys, List.map_map]
    exact keys_lineEntries _ _ _ _ _
  · exact find?_lineEntries _ _ _ _ _

/--
A message with a line end, quotes, half a pair on either side and a character
beyond the basic plane comes back.
-/
theorem parse_line_forged :
    let record : Record :=
      { logger := "shop"
        level := 45
        levelName := "LOUD\n"
        message := [0xDC00, 0x22, 0x0A, 0x7B, 0x1F600, 0xD83D]
        failure := some "ValueError: \n"
        created := 0
        process := 1 }
    record.Unpaired ∧
      ∃ members : Members,
        Json.parse (record.line .jsonLines) = .ok (.object members) ∧
          members.keys = ["ts", "level", "logger", "msg", "exc"] ∧
            members.find? "msg" =
              some (.string [0xDC00, 0x22, 0x0A, 0x7B, 0x1F600, 0xD83D]) := by
  intro record
  have unpaired : record.Unpaired := by
    refine ⟨Text.unpaired_ofString _, Text.unpaired_ofString _,
      ⟨by decide, by decide, by decide, by decide, by decide, trivial⟩, ?_⟩
    rintro failure ⟨⟩
    exact Text.unpaired_ofString _
  obtain ⟨-, members, read, keys, -, -, -, message, -⟩ :=
    parse_line record unpaired
  exact ⟨unpaired, members, read, keys, message⟩

end Record

namespace LineFormat

/-- The lines of records in a form, one after the other. -/
def lines (format : LineFormat) (records : List Record) : Text :=
  records.flatMap fun record => record.line format ++ "\n"

theorem lines_append
    (format : LineFormat)
    (first second : List Record) :
    format.lines (first ++ second) =
      format.lines first ++ format.lines second :=
  List.flatMap_append

end LineFormat

end Log

end SettingsStore
