import RecordGate.Settings.Json
import RecordGate.Text.Utf8
import RecordGate.Toml.Reader

/-!
# Settings files

A settings file is a TOML document; the settings stand in its table `engine`.

Main definitions: `Settings.parse?`.
-/

namespace RecordGate.Settings

/-- Reads the text of a settings file. -/
def parse? (text : String) : Option Settings := do
  let document ← Toml.parse? text
  document.toJson.defaulted? "engine" standard ofJson?

/-- Why settings could not be loaded. -/
inductive LoadError where
  | unreadable (path reason : String)
  | notSettings
deriving DecidableEq

/-- Loads the settings at a path; without a path they are standard. -/
def load (read : String → Except String Bytes) : Option String → Except LoadError Settings
  | none => .ok standard
  | some path => do
    let bytes ← (read path).mapError (.unreadable path)
    let text ← (Text.decode bytes).mapError fun _ => .unreadable path "stream did not contain valid UTF-8"
    match parse? text with
    | some s => .ok s
    | none => .error .notSettings

end RecordGate.Settings
