import SettingsStore.Files.FileSystem
import SettingsStore.Log.Record

/-!
# Listeners

Who is told of an event may write it to a file, so that what the program reads
next depends on what it has told so far.  A listener is a way of being told: it
says what an event makes of a world, and which files the world has.  The quiet
listener only keeps the events; its files stay what they are.
-/

namespace SettingsStore.Log

/-- What telling events does to a world, and the files that the world has. -/
structure Listener (World : Type) where
  files : World → FileSystem
  hear : World → Event → World

namespace Listener

variable {World : Type}

/-- Tells of events in order. -/
def hearAll
    (listener : Listener World)
    (world : World)
    (events : List Event) :
    World :=
  events.foldl listener.hear world

/-- Keeps the events in order, beside files that stay what they are. -/
def quiet (files : FileSystem) : Listener (List Event) where
  files _ := files
  hear told event := told ++ [event]

end Listener

end SettingsStore.Log
