import FieldGuard.Json.Reader
import FieldGuard.Settings.Basic

/-! Settings in JSON text. Every part may be left out. -/
namespace FieldGuard
namespace Settings

/-- The general settings read so far. -/
structure General where
  epsilon : Option Float
  logLevel : Option String

/-- The parts of the settings read so far. -/
structure Parts where
  general : Option General
  conditions : Option (Dictionary String)

def generalSlots : List (JsonReader.Slot General) :=
  [{ name := "epsilon"
     required := false
     filled := (·.epsilon.isSome)
     read := fun g => return { g with epsilon := some (← JsonReader.double) } },
   { name := "log_level"
     required := false
     filled := (·.logLevel.isSome)
     read := fun g => return { g with logLevel := some (← JsonReader.string) } }]

def slots : List (JsonReader.Slot Parts) :=
  [{ name := "settings"
     required := false
     filled := (·.general.isSome)
     read := fun p => return { p with
       general := some (← JsonReader.record "struct Settings" generalSlots ⟨none, none⟩) } },
   { name := "conditions"
     required := false
     filled := (·.conditions.isSome)
     read := fun p => return { p with
       conditions := some (← JsonReader.dictionary JsonReader.string) } }]

/-- Parts that were left out are as in the default settings. -/
def ofParts (p : Parts) : Settings where
  epsilon := (p.general.bind (·.epsilon)).getD default.epsilon
  logLevel := (p.general.bind (·.logLevel)).getD default.logLevel
  conditions := p.conditions.getD .empty

/-- Reads settings from JSON text. -/
def ofJson (text : String) : Except JsonError Settings :=
  (JsonReader.record "struct Config" slots ⟨none, none⟩).run text |>.map ofParts

end Settings
end FieldGuard
