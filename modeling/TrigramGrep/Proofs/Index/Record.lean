import TrigramGrep.Index.Record
import TrigramGrep.Proofs.Bytes
import TrigramGrep.Proofs.Codec.FixedSize
import TrigramGrep.Proofs.Codec.LittleEndian

/-!
# Reading back records

A trailer and a directory entry are read back from the front of a text, whatever follows them: the fields
that are read are those that were written, at the places where they were written.  The other way round, the
fields leave no byte out, so what is read tells all bytes in front (`take_eq_encode`); any bytes of the right
number are an entry, and they are a trailer if they end in the closing magic.
-/

namespace TrigramGrep.Index

open Codec.LittleEndian

@[simp] theorem length_openingMagic : openingMagic.length = 8 := by
  rw [openingMagic, Bytes.ofString_eq_flatMap]
  rfl

@[simp] theorem length_closingMagic : closingMagic.length = 8 := by
  rw [closingMagic, Bytes.ofString_eq_flatMap]
  rfl

namespace Trailer

@[simp] theorem length_encode (t : Trailer) : t.encode.length = size := by
  simp [encode, size]

/-- A trailer is read back. -/
theorem decode?_encode_append (t : Trailer) (text : Bytes) : decode? (t.encode ++ text) = some t := by
  have hmagic : slice? (t.encode ++ text) 60 8 = some closingMagic := by
    simp [encode, slice?_append, slice?_zero_append]
  rw [decode?, if_neg (by simp [hmagic])]
  simp [encode, read32?_append, read64?_append]

/-- What is read as a trailer is the bytes of that trailer. -/
theorem take_eq_encode {bytes : Bytes} {t : Trailer} (h : decode? bytes = some t) : bytes.take size = t.encode := by
  rw [decode?] at h
  split at h
  · cases h
  next hmagic =>
  simp only [Option.bind_eq_bind, Option.bind_eq_some_iff, read64?_eq_some_iff, read32?_eq_some_iff] at h
  obtain ⟨_, hroots, _, hrootCount, _, hnames, _, hindex, _, hfiles, _, hpostings, _, hdirectory, _, htrigrams, _,
    hline, _, hversion, heq⟩ := h
  obtain rfl := Option.some.inj heq
  -- each field stands behind the bytes before it
  have hfirst := take_append_slice hroots
  rw [List.take_zero, List.nil_append] at hfirst
  rw [encode, hfirst, take_append_slice hrootCount, take_append_slice hnames, take_append_slice hindex,
    take_append_slice hfiles, take_append_slice hpostings, take_append_slice hdirectory, take_append_slice htrigrams,
    take_append_slice hline, take_append_slice hversion, take_append_slice (Classical.not_not.mp hmagic)]
  rfl

/-- Of the bytes of the size of a trailer just those that end in the closing magic are one. -/
theorem isSome_decode?_iff {bytes : Bytes} (h : bytes.length = size) :
    (decode? bytes).isSome = true ↔ closingMagic <:+ bytes := by
  have hsize : bytes.length = 68 := h
  have hlast : slice? bytes 60 8 = some closingMagic ↔ closingMagic <:+ bytes := by
    have htake : (bytes.drop 60).take 8 = bytes.drop 60 := List.take_of_length_le (by rw [List.length_drop]; omega)
    rw [slice?_of_le (by omega), htake, Option.some.injEq, List.suffix_iff_eq_drop, hsize, length_closingMagic, eq_comm]
  rw [← hlast, decode?]
  by_cases hmagic : slice? bytes 60 8 = some closingMagic
  · obtain ⟨_, hroots⟩ := exists_read64? bytes 0 (by omega)
    obtain ⟨_, hrootCount⟩ := exists_read32? bytes 8 (by omega)
    obtain ⟨_, hnames⟩ := exists_read64? bytes 12 (by omega)
    obtain ⟨_, hindex⟩ := exists_read64? bytes 20 (by omega)
    obtain ⟨_, hfiles⟩ := exists_read32? bytes 28 (by omega)
    obtain ⟨_, hpostings⟩ := exists_read64? bytes 32 (by omega)
    obtain ⟨_, hdirectory⟩ := exists_read64? bytes 40 (by omega)
    obtain ⟨_, htrigrams⟩ := exists_read32? bytes 48 (by omega)
    obtain ⟨_, hline⟩ := exists_read32? bytes 52 (by omega)
    obtain ⟨_, hversion⟩ := exists_read32? bytes 56 (by omega)
    rw [if_neg (Classical.not_not.mpr hmagic), hroots, hrootCount, hnames, hindex, hfiles, hpostings, hdirectory,
      htrigrams, hline, hversion]
    exact iff_of_true rfl hmagic
  · rw [if_pos hmagic]
    exact iff_of_false Bool.false_ne_true hmagic

end Trailer

namespace DirectoryEntry

@[simp] theorem length_encode (e : DirectoryEntry) : e.encode.length = size := by
  simp [encode, size]

/-- An entry is read back. -/
theorem decode?_encode_append (e : DirectoryEntry) (text : Bytes) :
    decode? (e.encode ++ text) = some e := by
  simp [decode?, encode, read32?_append, read64?_append]

/-- The trigram of an entry stands in front. -/
theorem read32?_encode_append (e : DirectoryEntry) (text : Bytes) :
    read32? (e.encode ++ text) 0 = some e.trigram := by
  simp [encode]

/-- What is read as an entry is the bytes of that entry. -/
theorem take_eq_encode {bytes : Bytes} {e : DirectoryEntry} (h : decode? bytes = some e) :
    bytes.take size = e.encode := by
  rw [decode?] at h
  simp only [Option.bind_eq_bind, Option.bind_eq_some_iff, read64?_eq_some_iff, read32?_eq_some_iff] at h
  obtain ⟨_, htrigram, _, hoffset, _, hlength, _, hcount, heq⟩ := h
  obtain rfl := Option.some.inj heq
  have hfirst := take_append_slice htrigram
  rw [List.take_zero, List.nil_append] at hfirst
  rw [encode, hfirst, take_append_slice hoffset, take_append_slice hlength, take_append_slice hcount]
  rfl

/-- Bytes of the size of an entry are one. -/
theorem exists_decode? {bytes : Bytes} (h : bytes.length = size) : ∃ e, decode? bytes = some e := by
  have hsize : bytes.length = 20 := h
  obtain ⟨_, htrigram⟩ := exists_read32? bytes 0 (by omega)
  obtain ⟨_, hoffset⟩ := exists_read64? bytes 4 (by omega)
  obtain ⟨_, hlength⟩ := exists_read32? bytes 12 (by omega)
  obtain ⟨_, hcount⟩ := exists_read32? bytes 16 (by omega)
  rw [decode?, htrigram, hoffset, hlength, hcount]
  exact ⟨_, rfl⟩

end DirectoryEntry

/-- **Records are read and written inversely.**  Trailers are the strings of 68 bytes that end in the closing magic, and
directory entries are all strings of 20 bytes: each is read back from its bytes, whatever follows them, each such string
is the bytes of what is read from it, other strings of this size are no records, and shorter ones neither. -/
theorem isFixedCodec_records :
    Codec.IsFixedCodec 68 (closingMagic <:+ ·) Trailer.encode Trailer.decode? ∧
      Codec.IsFixedCodec 20 (fun _ => True) DirectoryEntry.encode DirectoryEntry.decode? := by
  constructor
  · exact .of_front Trailer.length_encode Trailer.decode?_encode_append Trailer.take_eq_encode
      Trailer.isSome_decode?_iff
  · apply Codec.IsFixedCodec.of_front DirectoryEntry.length_encode DirectoryEntry.decode?_encode_append
      DirectoryEntry.take_eq_encode
    intro bytes hsize
    exact iff_of_true (Option.isSome_iff_exists.mpr (DirectoryEntry.exists_decode? hsize)) trivial

end TrigramGrep.Index
