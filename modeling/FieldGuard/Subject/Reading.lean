import FieldGuard.Json.Reader
import FieldGuard.Json.Relaxed
import FieldGuard.Subject.Document

/-! Subject documents in JSON and JSON5 text. The name must be there; enums, fields and instances
may be left out. -/
namespace FieldGuard
namespace SubjectDocument

/-- The parts of a document read so far. -/
structure Parts where
  name : Option String
  enums : Option (Dictionary (Dictionary JsonNumber))
  fields : Option (Dictionary String)
  instances : Option (List (Dictionary Json))

def Parts.none : Parts where
  name := Option.none
  enums := Option.none
  fields := Option.none
  instances := Option.none

/-- The document of parts that have a name. -/
def Parts.toDocument? (p : Parts) : Option SubjectDocument :=
  p.name.map fun name => {
    name
    enums := p.enums.getD .empty
    fields := p.fields.getD .empty
    instances := p.instances.getD [] }

def slots : List (JsonReader.Slot Parts) :=
  [{ name := "name"
     required := true
     filled := (·.name.isSome)
     read := fun p => return { p with name := some (← JsonReader.string) } },
   { name := "enums"
     required := false
     filled := (·.enums.isSome)
     read := fun p => return { p with
       enums := some (← JsonReader.dictionary (JsonReader.dictionary JsonReader.number)) } },
   { name := "fields"
     required := false
     filled := (·.fields.isSome)
     read := fun p => return { p with
       fields := some (← JsonReader.dictionary JsonReader.string) } },
   { name := "instances"
     required := false
     filled := (·.instances.isSome)
     read := fun p => return { p with
       instances := some (← JsonReader.array (JsonReader.dictionary JsonReader.value)) } }]

def reader : JsonReader SubjectDocument := do
  let parts ← JsonReader.record "struct SubjectFile" slots .none
  match parts.toDocument? with
  | some d => return d
  | none => JsonReader.fail (.missingField "name")

/-- Reads a document from JSON text. -/
def ofJson (text : String) : Except JsonError SubjectDocument :=
  reader.run text

/-- An instance in JSON5; null is one without values. -/
def instance? : Relaxed → Option (Dictionary Json)
  | .null => some .empty
  | v => v.toDictionary? Relaxed.toJson?

def enums? (v : Relaxed) : Option (Dictionary (Dictionary JsonNumber)) :=
  v.toDictionary? fun members => members.toDictionary? Relaxed.toNumber?

def fields? (v : Relaxed) : Option (Dictionary String) := v.toDictionary? Relaxed.toString?

def instances? (v : Relaxed) : Option (List (Dictionary Json)) := v.toList? instance?

/-- The parts after one more member; a part must not come twice, and a member of any other name is
only looked through. -/
def Parts.add? (p : Parts) (key : String) (v : Relaxed) : Option Parts :=
  if key = "name" then
    if p.name.isSome then none else v.toString?.map fun name => { p with name := some name }
  else if key = "enums" then
    if p.enums.isSome then none else (enums? v).map fun enums => { p with enums := some enums }
  else if key = "fields" then
    if p.fields.isSome then none else (fields? v).map fun fields => { p with fields := some fields }
  else if key = "instances" then
    if p.instances.isSome then none
    else (instances? v).map fun instances => { p with instances := some instances }
  else if v.isReadable then some p
  else none

/-- The document that a JSON5 value holds, as an object of its parts or an array of them. -/
def ofRelaxed? : Relaxed → Option SubjectDocument
  | .object members => do
    let parts ← members.foldlM (fun p (k, v) => do Parts.add? p (← k) v) Parts.none
    parts.toDocument?
  | .array items => do
    let parts ← (["name", "enums", "fields", "instances"].zip items).foldlM
      (fun p (k, v) => Parts.add? p k v) Parts.none
    parts.toDocument?
  | _ => none

/-- Reads a document from JSON5 text. -/
def ofJson5? (text : String) : Option SubjectDocument :=
  (Relaxed.parse? text).bind ofRelaxed?

end SubjectDocument
end FieldGuard
