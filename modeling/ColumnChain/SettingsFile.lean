import ColumnChain.Json.Reading
import ColumnChain.Json.Settings

/-!
# Settings files

A settings file is JSON. Settings in it that nothing could be done with are refused.
-/

namespace ColumnChain.Settings

/-- The settings in the contents of a file. -/
def decode (bytes : Bytes) : Except Fault Settings := do
  let some text := Text.decode? bytes | throw .malformedSettings
  let (value, trailing) := Json.read text.toList
  match Json.asSettings value, trailing with
  | .ok settings, false =>
      match settings.fault? with
      | some fault => throw fault
      | none => return settings
  | _, _ => throw .malformedSettings

/-- Read the settings file at a path. A directory can be opened like a file, but there
are no settings in it. -/
def load {m : Type → Type} [Monad m] [Files m] (path : String) :
    ExceptT Fault m Settings := do
  match ← (Files.read path : m (Except DiskError Bytes)) with
  | .ok bytes => ExceptT.mk (pure (decode bytes))
  | .error .isDirectory => throw .malformedSettings
  | .error error => throw (.unreadable path error)

end ColumnChain.Settings
