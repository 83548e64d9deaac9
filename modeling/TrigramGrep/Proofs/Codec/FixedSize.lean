import TrigramGrep.Bytes

/-!
# Records of one size

A record of fixed size stands at the front of a byte string, and what follows it is not looked at.  If records are read
back whatever follows them (`hread`), and if what is read is a record whose bytes stand in front (`hfront`), then the
writer and the reader are inverse to each other on the byte strings of the size of a record
(`IsFixedCodec.of_front`).
-/

namespace TrigramGrep.Codec

variable {α : Type} {size : Nat} {IsRecord : Bytes → Prop} {encode : α → Bytes} {decode? : Bytes → Option α}

/-- A writer and a reader of records of one size: inverse to each other between all records and the byte strings of
this size that are records.  Bytes behind a record are ignored, and too few bytes are none. -/
structure IsFixedCodec (size : Nat) (IsRecord : Bytes → Prop) (encode : α → Bytes) (decode? : Bytes → Option α) :
    Prop where
  length_encode (a : α) : (encode a).length = size
  decode_encode_append (a : α) (text : Bytes) : decode? (encode a ++ text) = some a
  encode_of_decode {bytes : Bytes} {a : α} (hsize : bytes.length = size) :
    decode? bytes = some a → encode a = bytes
  decode_eq_none_iff {bytes : Bytes} (hsize : bytes.length = size) : decode? bytes = none ↔ ¬IsRecord bytes
  decode_append {bytes : Bytes} (hsize : bytes.length = size) (text : Bytes) : decode? (bytes ++ text) = decode? bytes
  decode_of_lt {bytes : Bytes} (hshort : bytes.length < size) : decode? bytes = none

theorem IsFixedCodec.of_front (hlength : ∀ a, (encode a).length = size)
    (hread : ∀ a text, decode? (encode a ++ text) = some a)
    (hfront : ∀ {bytes a}, decode? bytes = some a → bytes.take size = encode a)
    (hrecord : ∀ {bytes}, bytes.length = size → ((decode? bytes).isSome = true ↔ IsRecord bytes)) :
    IsFixedCodec size IsRecord encode decode? where
  length_encode := hlength
  decode_encode_append := hread
  encode_of_decode := by
    intro bytes a hsize h
    rw [← hfront h, List.take_of_length_le (Nat.le_of_eq hsize)]
  decode_eq_none_iff := by
    intro bytes hsize
    rw [← hrecord hsize, Option.not_isSome_iff_eq_none]
  decode_append := by
    intro bytes hsize text
    -- the bytes of whatever is read are those in front, and from these alone the same is read
    have hsome (a : α) : decode? (bytes ++ text) = some a ↔ decode? bytes = some a := by
      constructor
      · intro h
        have hbytes := hfront h
        rw [List.take_left' hsize] at hbytes
        rw [hbytes, ← List.append_nil (encode a), hread]
      · intro h
        have hbytes := hfront h
        rw [List.take_of_length_le (Nat.le_of_eq hsize)] at hbytes
        rw [hbytes, hread]
    exact Option.ext hsome
  decode_of_lt := by
    intro bytes hshort
    apply Option.eq_none_iff_forall_ne_some.mpr
    intro a h
    have htake := congrArg List.length (hfront h)
    rw [hlength, List.length_take] at htake
    omega

end TrigramGrep.Codec
