import LintServer.Json.Basic

/-!
# Settings

The editor pushes settings as JSON values, of which only the section `standard` is looked at.
Each push replaces what the last section said as a whole, and counts as a new generation whether
it had a section or not: a validation that started under another generation is out of date.
-/

namespace LintServer

/-- The settings in force. The options go to the linter as they are. -/
structure Settings where
  enabled : Bool
  options : Json
  generation : UInt64

/-- The settings before the first push. -/
def Settings.default : Settings := ⟨true, .empty, 0⟩

/-- The section of a push that concerns this library. -/
structure Settings.Section where
  enable : Option Bool
  options : Option Json

/-- Reads a section; an object or an array of at most two items is one. -/
def Settings.Section.ofJson? (v : Json) : Option Settings.Section :=
  match v.slots ["enable", "options"] with
  | some [enable, options] => some ⟨enable.bind Json.bool?, options⟩
  | _ => none

/-- The section of a push, if it has one. -/
def Settings.section? (push : Json) : Option Settings.Section :=
  match push.slots ["standard"] with
  | some [some v] => Settings.Section.ofJson? v
  | _ => none

/-- Whether validation is on: unless a section says otherwise, it is. -/
def Settings.Section.enabled (s : Settings.Section) : Bool := s.enable.getD true

/-- The options of a section; without any, or null, they are the empty object. -/
def Settings.Section.effective (s : Settings.Section) : Json :=
  match s.options with
  | none | some .null => .empty
  | some options => options

/-- The settings after a push. -/
def Settings.apply (settings : Settings) (push : Json) : Settings :=
  let generation := settings.generation + 1
  match Settings.section? push with
  | none => { settings with generation }
  | some s => ⟨s.enabled, s.effective, generation⟩

end LintServer
