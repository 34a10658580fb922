import FieldGuard.Json.Scalar
import FieldGuard.Text.Quoted

/-! Reading JSON texts for what they are asked to hold. A reader says what it expects; where the
text holds something else, that is found in its place and not after the whole text has been read. -/
namespace FieldGuard

/-- Reads a part of a text. -/
abbrev JsonReader (α : Type) := StateT Cursor (Except JsonError) α

namespace JsonReader

variable {α σ : Type}

/-- Stops at the last character read. -/
def fail (f : JsonFault) : JsonReader α := fun c => .error (c.fault f)

/-- Stops at the next character. -/
def failAhead (f : JsonFault) : JsonReader α := fun c => .error (c.faultAhead f)

def forward (n : Nat) : JsonReader Unit := modify (·.forward n)

def skipSpace : JsonReader Unit := modify (·.skipSpace)

/-- The next character that is no blank. -/
def next : JsonReader (Option Char) := do
  skipSpace
  return (← get).rest.head?

/-- The next character of a value, which must be there. -/
def nextOfValue : JsonReader Char := do
  match ← next with
  | some c => return c
  | none => failAhead .eofInValue

/-- Reads a scalar off the rest of the text. -/
def scalar (read : List Char → Except ScalarFault (α × Nat)) : JsonReader α := fun c =>
  match read c.rest with
  | .ok (a, n) => .ok (a, c.forward n)
  | .error f => .error (f.at c)

/-- The rest of a word whose first character is the next one. -/
def word (rest : List Char) : JsonReader Unit := do
  forward 1
  go rest
where
  go : List Char → JsonReader Unit
    | [] => pure ()
    | expected :: rest => do
      match (← get).rest.head? with
      | none => fail .eofInValue
      | some c =>
        if c = expected then
          forward 1
          go rest
        else failAhead .expectedWord

/-- A string that starts at the next character. -/
def stringHere : JsonReader String :=
  scalar fun cs => JsonString.read 1 [] cs (cs.drop 1)

/-- A number that starts at the next character. -/
def numberHere : JsonReader JsonNumber :=
  scalar WrittenNumber.readValue

def startsNumber (c : Char) : Bool := c == '-' || c.isDigit

/-- Opens a container with its bracket; containers may be nested 127 deep. -/
def enter : JsonReader Unit := do
  let c ← get
  if c.depth ≤ 1 then failAhead .tooDeep
  else
    set { c with depth := c.depth - 1 }
    forward 1

/-- Behind a container one more may be opened again. -/
def leave : JsonReader Unit := modify fun c => { c with depth := c.depth + 1 }

/-- How a number that is not expected is named. -/
def describeNumber (n : JsonNumber) : String :=
  match n with
  | .integer i => "integer `" ++ toString i ++ "`"
  | .double x => "floating point `" ++ Layout.json.write x ++ "`"

/-- Stops at a value that is not of the expected kind. Scalars are read first, so that a fault
inside one is found before its kind is. -/
def unexpected (expected : String) : JsonReader α := do
  let c ← nextOfValue
  let found ← (do
    if c = 'n' then
      word ['u', 'l', 'l']
      pure "null"
    else if c = 't' then
      word ['r', 'u', 'e']
      pure "boolean `true`"
    else if c = 'f' then
      word ['a', 'l', 's', 'e']
      pure "boolean `false`"
    else if startsNumber c then pure (describeNumber (← numberHere))
    else if c = '"' then pure ("string " ++ quoted (← stringHere))
    else if c = '[' then pure "sequence"
    else if c = '\x7b' then pure "map"
    else failAhead .expectedValue)
  fail (.wrongType found expected)

def string : JsonReader String := do
  if (← nextOfValue) = '"' then stringHere else unexpected "a string"

def double : JsonReader Float := do
  if startsNumber (← nextOfValue) then return (← numberHere).toFloat else unexpected "f64"

/-- Moves over what closes an array or object where reading it has stopped early. -/
def closeEarly (bracket : Char) : JsonReader Unit := do
  let c ← next
  if c = some bracket then forward 1
  else if c = some ',' ∧ bracket = ']' then
    forward 1
    skipSpace

def number : JsonReader JsonNumber := do
  let c ← nextOfValue
  if startsNumber c then numberHere
  else if c = '[' then
    enter
    closeEarly ']'
    fail (.wrongType "sequence" "a JSON number")
  else if c = '\x7b' then
    enter
    closeEarly '\x7d'
    fail (.wrongType "map" "a JSON number")
  else unexpected "a JSON number"

/-- Whether another item of an array follows; it is not the first if `first` is false. -/
def anotherItem (first : Bool) : JsonReader Bool := do
  match ← next with
  | none => failAhead .eofInArray
  | some c =>
    if c = ']' then return false
    else if first then return true
    else if c = ',' then
      forward 1
      match ← next with
      | none => failAhead .eofInValue
      | some c => if c = ']' then failAhead .trailingComma else return true
    else failAhead .expectedArrayEnd

/-- Closes an array behind its last item. -/
def closeArray : JsonReader Unit := do
  match ← next with
  | none => failAhead .eofInArray
  | some c =>
    if c = ']' then forward 1
    else if c = ',' then
      forward 1
      if (← next) = some ']' then failAhead .trailingComma else failAhead .trailingCharacters
    else failAhead .trailingCharacters

/-- The key of the next member of an object, if another follows. -/
def anotherKey (first : Bool) : JsonReader (Option String) := do
  match ← next with
  | none => failAhead .eofInObject
  | some c =>
    if c = '\x7d' then return none
    else
      if c = ',' ∧ !first then forward 1
      else if !first then failAhead .expectedObjectEnd
      match ← next with
      | none => failAhead .eofInValue
      | some c =>
        if c = '"' then return some (← stringHere)
        else if c = '\x7d' then failAhead .trailingComma
        else failAhead .keyNotString

/-- The colon behind a key. -/
def colon : JsonReader Unit := do
  match ← next with
  | none => failAhead .eofInObject
  | some c => if c = ':' then forward 1 else failAhead .expectedColon

/-- Items up to the end of an array; the text is no longer than the bound. -/
def items (item : JsonReader α) (first : Bool) : List Char → JsonReader (List α)
  | [] => failAhead .eofInArray
  | _ :: bound => do
    if ← anotherItem first then
      let a ← item
      return a :: (← items item false bound)
    else return []

/-- Members up to the end of an object; of members with one key the last is kept. The text is no
longer than the bound. -/
def members (value : JsonReader α) (first : Bool) (read : Dictionary α) :
    List Char → JsonReader (Dictionary α)
  | [] => failAhead .eofInObject
  | _ :: bound => do
    match ← anotherKey first with
    | none => return read
    | some key =>
      colon
      let a ← value
      members value false (read.insert key a) bound

/-- An array of items of one kind. -/
def array (item : JsonReader α) : JsonReader (List α) := do
  if (← nextOfValue) = '[' then
    enter
    let read ← items item true (← get).rest
    forward 1
    leave
    return read
  else unexpected "a sequence"

/-- An object whose members are of one kind. -/
def dictionary (value : JsonReader α) : JsonReader (Dictionary α) := do
  if (← nextOfValue) = '\x7b' then
    enter
    let read ← members value true .empty (← get).rest
    forward 1
    leave
    return read
  else unexpected "a map"

/-- Any value, with a bound on how deep containers are nested in it. -/
def any : Nat → JsonReader Json
  | 0 => failAhead .tooDeep
  | fuel + 1 => do
    let c ← nextOfValue
    if c = 'n' then
      word ['u', 'l', 'l']
      return .null
    else if c = 't' then
      word ['r', 'u', 'e']
      return .bool true
    else if c = 'f' then
      word ['a', 'l', 's', 'e']
      return .bool false
    else if startsNumber c then return .number (← numberHere)
    else if c = '"' then return .string (← stringHere)
    else if c = '[' then return .array (← array (any fuel))
    else if c = '\x7b' then return .object (← dictionary (any fuel)).entries
    else failAhead .expectedValue

/-- A value of any kind. -/
def value : JsonReader Json := any 128

/-- A key that is passed over. -/
def skipKey : JsonReader Unit := do
  match ← next with
  | none => failAhead .eofInObject
  | some c =>
    if c = '"' then scalar fun cs => (JsonString.skip 1 cs (cs.drop 1)).map fun n => ((), n)
    else failAhead .keyNotString

/-- A number that is passed over; where it breaks off is no early end. -/
def skipNumber : JsonReader Unit :=
  scalar fun cs =>
    match WrittenNumber.read cs with
    | .ok (_, n) => .ok ((), n)
    | .error f => .error { f with fault := .invalidNumber }

mutual

/-- Passes over a value. It may be nested to any depth, and numbers and surrogates in it may be out
of range. -/
def skipValue : Nat → JsonReader Unit
  | 0 => failAhead .eofInValue
  | fuel + 1 => do
    let c ← nextOfValue
    if c = 'n' then word ['u', 'l', 'l']
    else if c = 't' then word ['r', 'u', 'e']
    else if c = 'f' then word ['a', 'l', 's', 'e']
    else if startsNumber c then skipNumber
    else if c = '"' then
      scalar fun cs => (JsonString.skip 1 cs (cs.drop 1)).map fun n => ((), n)
    else if c = '[' then
      forward 1
      match ← next with
      | none => failAhead .eofInArray
      | some ']' => forward 1
      | some _ => skipItems fuel
    else if c = '\x7b' then
      forward 1
      match ← next with
      | none => failAhead .eofInObject
      | some '\x7d' => forward 1
      | some _ => skipMembers fuel
    else failAhead .expectedValue

def skipItems : Nat → JsonReader Unit
  | 0 => failAhead .eofInArray
  | fuel + 1 => do
    skipValue fuel
    match ← next with
    | none => failAhead .eofInArray
    | some ',' =>
      forward 1
      skipItems fuel
    | some ']' => forward 1
    | some _ => failAhead .expectedArrayEnd

def skipMembers : Nat → JsonReader Unit
  | 0 => failAhead .eofInObject
  | fuel + 1 => do
    skipKey
    colon
    skipValue fuel
    match ← next with
    | none => failAhead .eofInObject
    | some ',' =>
      forward 1
      skipMembers fuel
    | some '\x7d' => forward 1
    | some _ => failAhead .expectedObjectEnd

end

/-- One field of a record that is read into `σ`. -/
structure Slot (σ : Type) where
  name : String
  /-- A field that must be there. -/
  required : Bool
  /-- Whether the field has been read. -/
  filled : σ → Bool
  read : σ → JsonReader σ

/-- The fields of a record in an array, in order. -/
def positional (title : String) : List (Slot σ) → Nat → Nat → σ → JsonReader (Except JsonFault σ)
  | [], _, _, record => return .ok record
  | slot :: rest, index, total, record => do
    if ← anotherItem (index == 0) then
      positional title rest (index + 1) total (← slot.read record)
    else if slot.required then
      return .error (.wrongLength index (title ++ " with " ++ toString total ++ " elements"))
    else positional title rest (index + 1) total record

/-- The fields of a record in an object, in any order; unknown members are passed over. The text is
no longer than the bound. -/
def named (slots : List (Slot σ)) (first : Bool) (record : σ) :
    List Char → JsonReader (Except JsonFault σ)
  | [] => failAhead .eofInObject
  | _ :: bound => do
    match ← anotherKey first with
    | none =>
      match slots.find? fun s => s.required && !s.filled record with
      | some s => return .error (.missingField s.name)
      | none => return .ok record
    | some key =>
      match slots.find? (·.name == key) with
      | none =>
        colon
        skipValue (2 * (← get).rest.length + 2)
        named slots false record bound
      | some slot =>
        if slot.filled record then return .error (.duplicateField key)
        else
          colon
          named slots false (← slot.read record) bound

/-- A record, written as an object of its fields or as an array of them. -/
def record (title : String) (slots : List (Slot σ)) (init : σ) : JsonReader σ := do
  let c ← nextOfValue
  if c = '[' then
    enter
    match ← positional title slots 0 slots.length init with
    | .ok r =>
      closeArray
      leave
      return r
    | .error f =>
      closeEarly ']'
      fail f
  else if c = '\x7b' then
    enter
    match ← named slots true init (← get).rest with
    | .ok r =>
      forward 1
      leave
      return r
    | .error f =>
      closeEarly '\x7d'
      fail f
  else unexpected title

/-- Reads a whole text. -/
def run (r : JsonReader α) (text : String) : Except JsonError α := do
  let (a, c) ← StateT.run r (Cursor.start text)
  let c := c.skipSpace
  if c.rest.isEmpty then .ok a else .error (c.faultAhead .trailingCharacters)

end JsonReader
end FieldGuard
