import TrigramGrep.Json.Number
import TrigramGrep.Json.Text

/-!
# Values of JSON that are not looked at

A value that nobody asks for is passed over whatever it is.  The arrays and objects that are open at a
place are kept in a list, the innermost first, so that depth costs no more than length.
-/

namespace TrigramGrep.Json

/-- What is open around a place. -/
inductive Frame where
  | array
  | object
  deriving DecidableEq, Repr

namespace Frame

/-- The byte that closes a frame. -/
def closing : Frame → UInt8
  | .array => closeArray
  | .object => closeObject

/-- What is wrong where a frame ends too early. -/
def endCause : Frame → Cause
  | .array => .endInArray
  | .object => .endInObject

/-- What is wrong where neither a comma nor the end of a frame comes. -/
def commaCause : Frame → Cause
  | .array => .noCommaInArray
  | .object => .noCommaInObject

/-- The input behind a colon, which has to come next. -/
def skipColon (i : Input) : Except Fault Input :=
  let i := i.skipBlank
  match i.peek? with
  | none => i.faultAhead .endInObject
  | some byte => if byte = colon then .ok i.next else i.faultAhead .noColon

/-- The input before the value of the next entry of a frame: in an object a key and a colon come
first. -/
def skipKey (frame : Frame) (i : Input) : Except Fault Input :=
  match frame with
  | .array => .ok i
  | .object =>
    let i := i.skipBlank
    match i.peek? with
    | none => i.faultAhead .endInObject
    | some byte =>
      if byte ≠ quote then i.faultAhead .keyNoString
      else
        match Text.skip i.next with
        | .error fault => .error fault
        | .ok after => skipColon after

end Frame

/-- What comes next while a value is passed over. -/
inductive Expectation where
  /-- A value. -/
  | value
  /-- The end of the innermost frame, or its first entry. -/
  | first
  /-- The end of the innermost frame, or a comma and one more entry. -/
  | more
  deriving DecidableEq, Repr

/-- The input behind a value that is no array and no object, if one comes next. -/
def skipScalar (i : Input) : Except Fault Input :=
  match i.peek? with
  | none => i.faultAhead .endInValue
  | some byte =>
    if byte = 110 then i.next.expect (Bytes.ofString "ull")
    else if byte = 116 then i.next.expect (Bytes.ofString "rue")
    else if byte = 102 then i.next.expect (Bytes.ofString "alse")
    else if byte = minus || isDigit byte then Number.skip i
    else if byte = quote then Text.skip i.next
    else i.faultAhead .noValue

/-- The input behind all that is open.  Every byte is met at most three times, which bounds `fuel`. -/
def skipFrom : (fuel : Nat) → Expectation → List Frame → Input → Except Fault Input
  | 0, _, _, i => i.fault .endInValue
  | fuel + 1, .value, frames, i =>
    let i := i.skipBlank
    if i.peek? = some openArray then skipFrom fuel .first (.array :: frames) i.next
    else if i.peek? = some openObject then skipFrom fuel .first (.object :: frames) i.next
    else
      match skipScalar i with
      | .error fault => .error fault
      | .ok after => skipFrom fuel .more frames after
  | _, _, [], i => .ok i
  | fuel + 1, expected, frame :: frames, i =>
    let i := i.skipBlank
    match i.peek? with
    | none => i.faultAhead frame.endCause
    | some byte =>
      if byte = frame.closing then skipFrom fuel .more frames i.next
      else if expected = .first then
        match frame.skipKey i with
        | .error fault => .error fault
        | .ok after => skipFrom fuel .value (frame :: frames) after
      else if byte = comma then
        match frame.skipKey i.next with
        | .error fault => .error fault
        | .ok after => skipFrom fuel .value (frame :: frames) after
      else i.faultAhead frame.commaCause

/-- The input behind a value. -/
def skipValue (i : Input) : Except Fault Input := skipFrom (3 * i.rest.length + 3) .value [] i

end TrigramGrep.Json
