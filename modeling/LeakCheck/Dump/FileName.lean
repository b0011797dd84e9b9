import LeakCheck.Text.Blank
import LeakCheck.Text.Quoted
import LeakCheck.Text.Utf8

/-!
# Names of dump files

A function's dump is kept under a name made of its readable part and a hash of the whole name, so
that the name is a safe file name and functions whose readable parts agree are kept apart.
-/

namespace LeakCheck.Dump

/-- The start value of the hash. -/
def hashOffset : UInt32 := 2166136261

/-- The multiplier of the hash. -/
def hashPrime : UInt32 := 16777619

/-- One step of the hash: exclusive or with a byte, then the product with the multiplier. -/
def hashStep (h : UInt32) (b : UInt8) : UInt32 := (h ^^^ b.toUInt32) * hashPrime

/-- The 32-bit FNV-1a hash of bytes. -/
def hash (bytes : List UInt8) : UInt32 := bytes.foldl hashStep hashOffset

/-- Whether a character may stand in a file name as it is. -/
def isPlain (c : Char) : Bool :=
  ('a' ≤ c && c ≤ 'z') || ('A' ≤ c && c ≤ 'Z') || ('0' ≤ c && c ≤ '9') || c == '.' || c == '-'

/-- A character of a name as it stands in a file name. -/
def plainChar : Option Char → Char
  | some c => if isPlain c then c else '_'
  | none => '_'

/-- The readable part of a file name: every other character is an underscore, and there are no
underscores and dots at the ends. -/
def readable (bytes : List UInt8) : List Char :=
  Text.trimBoth (fun c => c == '_' || c == '.') ((Text.decode bytes).map plainChar)

/-- The file name for a function with the name that these bytes encode. -/
def fileNameOfBytes (bytes : List UInt8) : String :=
  String.ofList (readable bytes ++ ['-'] ++ Text.hexPadded 8 (hash bytes).toNat)

/-- The file name for a function. -/
def fileName (function : String) : String := fileNameOfBytes (Text.bytes function)

end LeakCheck.Dump
