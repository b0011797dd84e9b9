/-!
# Decoding bytes

`decode` reads bytes as UTF-8. A byte that is not part of a well-formed sequence stands for itself
and is given as `none`.
-/

namespace LeakCheck.Text

/-- Whether a byte continues a sequence. -/
def isContinuation (b : UInt8) : Bool := 0x80 ≤ b.toNat && b.toNat ≤ 0xbf

/-- The character that a leading byte and its continuation bytes encode: the shortest encoding of a
code point that is not a surrogate. -/
def sequenceChar? (first : UInt8) (rest : List UInt8) : Option Char :=
  let low (b : UInt8) : Nat := b.toNat % 64
  match rest with
  | [] => if first.toNat < 0x80 then some (Char.ofNat first.toNat) else none
  | [b] =>
    if 0xc2 ≤ first.toNat && first.toNat ≤ 0xdf && isContinuation b then
      some (Char.ofNat ((first.toNat % 32) * 64 + low b))
    else none
  | [b, c] =>
    if 0xe0 ≤ first.toNat && first.toNat ≤ 0xef && isContinuation b && isContinuation c then
      let n := (first.toNat % 16) * 4096 + low b * 64 + low c
      if 0x800 ≤ n && (n < 0xd800 || 0xdfff < n) then some (Char.ofNat n) else none
    else none
  | [b, c, d] =>
    if 0xf0 ≤ first.toNat && first.toNat ≤ 0xf4 && isContinuation b && isContinuation c &&
        isContinuation d then
      let n := (first.toNat % 8) * 262144 + low b * 4096 + low c * 64 + low d
      if 0x10000 ≤ n && n < 0x110000 then some (Char.ofNat n) else none
    else none
  | _ => none

/-- The number of continuation bytes that a leading byte asks for. -/
def continuationCount (first : UInt8) : Nat :=
  if first.toNat < 0xc0 then 0
  else if first.toNat < 0xe0 then 1
  else if first.toNat < 0xf0 then 2
  else 3

/-- Reads bytes as UTF-8; a byte outside of well-formed sequences gives `none`. -/
def decode (bytes : List UInt8) : List (Option Char) :=
  match bytes with
  | [] => []
  | first :: rest =>
    let count := continuationCount first
    match sequenceChar? first (rest.take count) with
    | some c => some c :: decode (rest.drop count)
    | none => none :: decode rest
termination_by bytes.length
decreasing_by
  all_goals simp only [List.length_cons, List.length_drop]
  all_goals omega

/-- Reads bytes as UTF-8 if all of them are well formed. -/
def decode? (bytes : List UInt8) : Option (List Char) := (decode bytes).mapM id

/-- Reads bytes as UTF-8; a byte outside of well-formed sequences gives the replacement
character. -/
def decodeLossy (bytes : List UInt8) : List Char :=
  (decode bytes).map (·.getD (Char.ofNat 0xfffd))

/-- The bytes of a text. -/
def bytes (s : String) : List UInt8 := s.toUTF8.toList

end LeakCheck.Text
