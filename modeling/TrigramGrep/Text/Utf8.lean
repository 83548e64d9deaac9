import TrigramGrep.Bytes

/-!
# Reading bytes as UTF-8

Names and patterns are text, contents are bytes.  This module reads one character off the front of a
byte string and says exactly what is wrong when there is none: how many bytes form the longest
beginning of a character that breaks off (`Fault.invalid`), or that the bytes end inside a character
(`Fault.incomplete`).  Everything else is folding that step over the bytes: the strict reading of a
whole text, the test for validity, and the lossy reading that puts U+FFFD where a fault stands.
-/

namespace TrigramGrep.Text.Utf8

/-- Why no character stands at the front of a byte string. -/
inductive Fault where
  /-- The first `length` bytes can begin no character together with the byte after them. -/
  | invalid (length : Nat)
  /-- All bytes that are left begin a character, and it needs more. -/
  | incomplete
  deriving DecidableEq, Repr

/-- Whether a byte can continue a character. -/
def isContinuation (byte : UInt8) : Bool :=
  0x80 ≤ byte && byte ≤ 0xBF

/-- The six bits that a continuation byte carries. -/
def payload (byte : UInt8) : Nat :=
  byte.toNat % 64

/-- Whether `second` can follow `lead` in a three-byte character: no overlong form and no
surrogate. -/
def secondOfThree (lead second : UInt8) : Bool :=
  if lead = 0xE0 then 0xA0 ≤ second && second ≤ 0xBF
  else if lead = 0xED then 0x80 ≤ second && second ≤ 0x9F
  else isContinuation second

/-- Whether `second` can follow `lead` in a four-byte character: no overlong form and nothing above
U+10FFFF. -/
def secondOfFour (lead second : UInt8) : Bool :=
  if lead = 0xF0 then 0x90 ≤ second && second ≤ 0xBF
  else if lead = 0xF4 then 0x80 ≤ second && second ≤ 0x8F
  else isContinuation second

/-- The character at the front of a byte string and the number of bytes it takes, or the fault
found there; `none` on the empty string. -/
def front : Bytes → Option (Except Fault (Char × Nat))
  | [] => none
  | lead :: rest =>
    if lead < 0x80 then some (.ok (Char.ofNat lead.toNat, 1))
    else if 0xC2 ≤ lead && lead ≤ 0xDF then
      match rest with
      | [] => some (.error .incomplete)
      | b :: _ =>
        if isContinuation b then some (.ok (Char.ofNat (lead.toNat % 32 * 64 + payload b), 2))
        else some (.error (.invalid 1))
    else if 0xE0 ≤ lead && lead ≤ 0xEF then
      match rest with
      | [] => some (.error .incomplete)
      | b :: rest =>
        if !secondOfThree lead b then some (.error (.invalid 1))
        else match rest with
          | [] => some (.error .incomplete)
          | c :: _ =>
            if isContinuation c then
              some (.ok (Char.ofNat ((lead.toNat % 16 * 64 + payload b) * 64 + payload c), 3))
            else some (.error (.invalid 2))
    else if 0xF0 ≤ lead && lead ≤ 0xF4 then
      match rest with
      | [] => some (.error .incomplete)
      | b :: rest =>
        if !secondOfFour lead b then some (.error (.invalid 1))
        else match rest with
          | [] => some (.error .incomplete)
          | c :: rest =>
            if !isContinuation c then some (.error (.invalid 2))
            else match rest with
              | [] => some (.error .incomplete)
              | d :: _ =>
                if isContinuation d then
                  some (.ok (Char.ofNat
                    (((lead.toNat % 8 * 64 + payload b) * 64 + payload c) * 64 + payload d), 4))
                else some (.error (.invalid 3))
    else some (.error (.invalid 1))

/-- The pieces of a byte string: characters and faults, each with the number of bytes it takes.
The fuel is the number of bytes, since every piece takes at least one. -/
def piecesFrom : Nat → Bytes → List (Except Fault Char × Nat) → List (Except Fault Char × Nat)
  | 0, _, done => done.reverse
  | fuel + 1, bytes, done =>
    match front bytes with
    | none => done.reverse
    | some (.ok (c, n)) => piecesFrom fuel (bytes.drop n) ((.ok c, n) :: done)
    | some (.error (.invalid n)) =>
      piecesFrom fuel (bytes.drop n) ((.error (.invalid n), n) :: done)
    | some (.error .incomplete) => ((.error .incomplete, bytes.length) :: done).reverse

/-- The characters and faults of a byte string, in order. -/
def pieces (bytes : Bytes) : List (Except Fault Char × Nat) :=
  piecesFrom bytes.length bytes []

/-- The first fault of a list of pieces and the position it stands at. -/
def firstFault : Nat → List (Except Fault Char × Nat) → Option (Fault × Nat)
  | _, [] => none
  | position, (.error fault, _) :: _ => some (fault, position)
  | position, (.ok _, n) :: rest => firstFault (position + n) rest

/-- The text that a byte string spells, or its first fault and the fault's position. -/
def decode (bytes : Bytes) : Except (Fault × Nat) String :=
  let found := pieces bytes
  match firstFault 0 found with
  | some fault => .error fault
  | none => .ok (String.ofList (found.filterMap fun piece => piece.1.toOption))

/-- Whether a byte string is the UTF-8 form of a text. -/
def isValid (bytes : Bytes) : Bool :=
  (firstFault 0 (pieces bytes)).isNone

/-- The text of a byte string with U+FFFD in the place of every fault. -/
def lossy (bytes : Bytes) : String :=
  String.ofList ((pieces bytes).map fun piece =>
    match piece.1 with
    | .ok c => c
    | .error _ => Char.ofNat 0xFFFD)

/-- The UTF-8 form of a code point. -/
def encode (codePoint : Nat) : Bytes :=
  String.utf8EncodeChar (Char.ofNat codePoint)

/-- The wording of a fault at a position. -/
def Fault.message (position : Nat) : Fault → String
  | .invalid n => s!"invalid utf-8 sequence of {n} bytes from index {position}"
  | .incomplete => s!"incomplete utf-8 byte sequence from index {position}"

end TrigramGrep.Text.Utf8
