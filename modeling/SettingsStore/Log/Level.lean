import SettingsStore.Text.Basic

/-!
# Log levels

A level is a whole number; the higher, the more urgent.  Five levels have names
of their own, and the lowest of all is the one of a logger that was not given
any.
-/

namespace SettingsStore.Log

/-- The urgency of a record. -/
abbrev Level := Int

namespace Level

def debug : Level := 10
def info : Level := 20
def warning : Level := 30
def error : Level := 40
def critical : Level := 50

/-- The name of a level; one without a name is called by its number. -/
def name (level : Level) : String :=
  if level = critical then "CRITICAL"
  else if level = error then "ERROR"
  else if level = warning then "WARNING"
  else if level = info then "INFO"
  else if level = debug then "DEBUG"
  else if level = 0 then "NOTSET"
  else "Level " ++ toString level

/-- The level that a word in capitals stands for. -/
def ofWord? (word : Text) : Option Level :=
  let words : List (Text × Level) :=
    [("CRITICAL", critical), ("FATAL", critical), ("ERROR", error),
      ("WARNING", warning),
      ("WARN", warning), ("INFO", info), ("DEBUG", debug), ("NOTSET", 0)]
  words.lookup word

end Level

end SettingsStore.Log
