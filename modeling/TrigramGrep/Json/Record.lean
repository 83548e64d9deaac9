import TrigramGrep.Json.Skip

/-!
# Records written in JSON

A record is written as an object, whose members set the fields of their names in any order, or as an array
of the values of the first few fields.  Fields that are not set keep their value; members that name no
field are passed over; no field may be set twice.
-/

namespace TrigramGrep.Json

/-! ## Values of a wrong type -/

/-- The fault of a value that comes next and is of a wrong type.  The value is read as far as it takes to
say what it is. -/
def wrongType (expected : String) (i : Input) : Except Fault α :=
  let found (f : Found) (after : Input) : Except Fault α := after.fault (.wrongType f expected)
  let word (f : Found) (rest : String) : Except Fault α :=
    match i.next.expect (Bytes.ofString rest) with
    | .error fault => .error fault
    | .ok after => found f after
  match i.peek? with
  | none => i.faultAhead .noValue
  | some byte =>
    if byte = 110 then word .null "ull"
    else if byte = 116 then word (.boolean true) "rue"
    else if byte = 102 then word (.boolean false) "alse"
    else if byte = minus || isDigit byte then
      match Number.read i with
      | .error fault => .error fault
      | .ok (number, after) => found number.found after
    else if byte = quote then
      match Text.read i.next with
      | .error fault => .error fault
      | .ok (text, after) => found (.string text) after
    else if byte = openArray then found .array i
    else if byte = openObject then found .object i
    else i.faultAhead .noValue

/-! ## Natural numbers -/

/-- A natural number of 64 bits. -/
def readNatural (expected : String) (i : Input) : Reading Nat :=
  let i := i.skipBlank
  match i.peek? with
  | none => i.faultAhead .endInValue
  | some byte =>
    if !(byte = minus || isDigit byte) then wrongType expected i
    else
      match Number.read i with
      | .error fault => .error fault
      | .ok (.decimal x, after) =>
        after.fault (.wrongType (Number.decimal x).found expected)
      | .ok (.integer n, after) =>
        if n < 0 then after.fault (.wrongValue (.integer n) expected) else .ok (n.toNat, after)

/-! ## Records -/

/-- A field of records. -/
structure Field (α : Type) where
  name : String
  /-- Reads the value of the field into a record. -/
  read : α → Input → Reading α

/-- The form of a kind of records. -/
structure Shape (α : Type) where
  title : String
  fields : List (Field α)

namespace Shape

/-- What has come of reading the members of an object. -/
inductive Members (α : Type) where
  | whole (record : α)
  /-- A field was named again. -/
  | repeated (name : String)

/-- The key of the next member, if there is one. -/
def readKey (isFirst : Bool) (i : Input) : Reading (Option String) :=
  let i := i.skipBlank
  match i.peek? with
  | none => i.faultAhead .endInObject
  | some byte =>
    if byte = closeObject then .ok (none, i)
    else
      let named (i : Input) (atEnd ended : Cause) : Reading (Option String) :=
        match i.peek? with
        | none => i.faultAhead atEnd
        | some byte =>
          if byte = quote then
            match Text.read i.next with
            | .error fault => .error fault
            | .ok (key, after) => .ok (some key, after)
          else i.faultAhead (if byte = closeObject then ended else .keyNoString)
      if isFirst then named i .endInObject .keyNoString
      else if byte = comma then named i.next.skipBlank .endInValue .trailingComma
      else i.faultAhead .noCommaInObject

/-- The members of an object that are left; `seen` holds the fields that were set before, and `fuel`
bounds the number of members. -/
def readMembers (shape : Shape α) : (fuel : Nat) → (seen : List String) → (isFirst : Bool) → α → Input →
    Reading (Members α)
  | 0, _, _, _, i => i.fault .endInObject
  | fuel + 1, seen, isFirst, record, i =>
    match readKey isFirst i with
    | .error fault => .error fault
    | .ok (none, after) => .ok (.whole record, after)
    | .ok (some key, after) =>
      match shape.fields.find? fun field => field.name = key with
      | none =>
        match Frame.skipColon after with
        | .error fault => .error fault
        | .ok before =>
          match skipValue before with
          | .error fault => .error fault
          | .ok after => readMembers shape fuel seen false record after
      | some field =>
        if seen.contains key then .ok (.repeated key, after)
        else
          match Frame.skipColon after with
          | .error fault => .error fault
          | .ok before =>
            match field.read record before with
            | .error fault => .error fault
            | .ok (record, after) => readMembers shape fuel (key :: seen) false record after

/-- The input behind the end of an object, which has to come next. -/
def endObject (i : Input) : Except Fault Input :=
  let i := i.skipBlank
  match i.peek? with
  | none => i.faultAhead .endInObject
  | some byte =>
    if byte = closeObject then .ok i.next
    else i.faultAhead (if byte = comma then .trailingComma else .trailingCharacters)

/-- A record written as an object, whose first byte has been read.  That a field is named twice shows
behind the blanks and the end of the object that may follow. -/
def readObject (shape : Shape α) (record : α) (i : Input) : Reading α :=
  match shape.readMembers (i.rest.length + 1) [] true record i with
  | .error fault => .error fault
  | .ok (.whole record, after) =>
    match endObject after with
    | .error fault => .error fault
    | .ok behind => .ok (record, behind)
  | .ok (.repeated name, after) =>
    let place := after.skipBlank
    (if place.peek? = some closeObject then place.next else place).fault (.duplicate name)

/-- The values of the fields as far as there are values. -/
def readElements (isFirst : Bool) : List (Field α) → α → Input → Reading α
  | [], record, i => .ok (record, i)
  | field :: fields, record, i =>
    let i := i.skipBlank
    match i.peek? with
    | none => i.faultAhead .endInArray
    | some byte =>
      let element (i : Input) : Reading α :=
        match field.read record i with
        | .error fault => .error fault
        | .ok (record, after) => readElements false fields record after
      if byte = closeArray then .ok (record, i)
      else if isFirst then element i
      else if byte = comma then
        let i := i.next.skipBlank
        match i.peek? with
        | none => i.faultAhead .endInValue
        | some byte => if byte = closeArray then i.faultAhead .trailingComma else element i
      else i.faultAhead .noCommaInArray

/-- The input behind the end of an array, which has to come next. -/
def endArray (i : Input) : Except Fault Input :=
  let i := i.skipBlank
  match i.peek? with
  | none => i.faultAhead .endInArray
  | some byte =>
    if byte = closeArray then .ok i.next
    else if byte = comma then
      let i := i.next.skipBlank
      i.faultAhead (if i.peek? = some closeArray then .trailingComma else .trailingCharacters)
    else i.faultAhead .trailingCharacters

/-- A record written as an array, whose first byte has been read. -/
def readArray (shape : Shape α) (record : α) (i : Input) : Reading α :=
  match readElements true shape.fields record i with
  | .error fault => .error fault
  | .ok (record, after) =>
    match endArray after with
    | .error fault => .error fault
    | .ok behind => .ok (record, behind)

/-- A record; fields that are not set are as in `record`. -/
def read (shape : Shape α) (record : α) (i : Input) : Reading α :=
  let i := i.skipBlank
  match i.peek? with
  | none => i.faultAhead .endInValue
  | some byte =>
    if byte = openArray then shape.readArray record i.next
    else if byte = openObject then shape.readObject record i.next
    else wrongType shape.title i

/-- A document that consists of a record. -/
def readDocument (shape : Shape α) (record : α) (document : Bytes) : Except Fault α :=
  match shape.read record (.ofBytes document) with
  | .error fault => .error fault
  | .ok (record, after) =>
    let i := after.skipBlank
    if i.rest.isEmpty then .ok record else i.faultAhead .trailingCharacters

end Shape

end TrigramGrep.Json
