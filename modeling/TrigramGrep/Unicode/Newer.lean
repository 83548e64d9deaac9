import TrigramGrep.Unicode.Property

/-!
# Characters newer than the tables

The tables of properties, and with them all classes of patterns, are those of version 16.0 of the standard.
How a text is shown, and which letters names are made of, goes by version 17.0.  It has the characters of
this module on top; the ranges are given in hexadecimal, as in the tables.
-/

namespace TrigramGrep.Unicode

/-- The letters that were added. -/
def newerLetters : CharSet := CharSet.ofText
  "88f c5c cdc a7ce-a7cf a7d2 a7d4 a7f1 10940-10959 10ec5-10ec7 10efa-10efb 11b60-11b67
   11db0-11ddb 16ea0-16eb8 16ebb-16ed3 16ff2-16ff6 187f8-187ff 18d09-18d1e 18d80-18df2
   1e6c0-1e6de 1e6e0-1e6f5 1e6fe-1e6ff 2b73a-2b73f 2cea2-2cead 323b0-33479"

/-- The numbers that were added. -/
def newerNumbers : CharSet := CharSet.ofText
  "11de0-11de9 16ff4-16ff6"

/-- The characters that were added and extend the one before them. -/
def newerExtenders : CharSet := CharSet.ofText
  "1acf-1add 1ae0-1aeb 10efa-10efb 11b60 11b62-11b64 11b66 1e6e3 1e6e6 1e6ee-1e6ef 1e6f5"

/-- All characters that were added; each of them has a look of its own or changes that of another. -/
def newerCharacters : CharSet := CharSet.ofText
  "88f c5c cdc 1acf-1add 1ae0-1aeb 20c1 2b96 a7ce-a7cf a7d2 a7d4 a7f1 fbc3-fbd2 fd90-fd91
   fdc8-fdce 10940-10959 10ec5-10ec7 10ed0-10ed8 10efa-10efb 11b60-11b67 11db0-11ddb
   11de0-11de9 16ea0-16eb8 16ebb-16ed3 16ff2-16ff6 187f8-187ff 18d09-18d1e 18d80-18df2
   1ccfa-1ccfc 1ceba-1ced0 1cee0-1cef0 1e6c0-1e6de 1e6e0-1e6f5 1e6fe-1e6ff 1f6d8 1f777-1f77a
   1f8d0-1f8d8 1fa54-1fa57 1fa8a 1fa8e 1fac8 1facd 1faea 1faef 1fbfa 2b73a-2b73f 2cea2-2cead
   323b0-33479"

/-- Whether a character is a letter. -/
def isLetter (c : Char) : Bool := alphabetic.contains c.toNat || newerLetters.contains c.toNat

/-- Whether a character is a number. -/
def isNumber (c : Char) : Bool := numeric.contains c.toNat || newerNumbers.contains c.toNat

/-- Whether a character extends the one before it. -/
def isExtender (c : Char) : Bool :=
  graphemeExtenders.contains c.toNat || newerExtenders.contains c.toNat

/-- Whether a character shows nothing, or nothing but a gap; the space is not counted. -/
def isInvisible (c : Char) : Bool :=
  invisible.contains c.toNat && !newerCharacters.contains c.toNat

end TrigramGrep.Unicode
