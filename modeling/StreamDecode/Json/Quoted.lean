/-!
# Quoted text in JSON

What stands between two quotes, piece by piece: characters, and the 16-bit units that `\u` escapes
write.  A character beyond the basic plane is escaped as two units, the high one first; text with a
unit of such a pair alone is well formed, but stands for no characters.
-/

namespace StreamDecode

namespace Json

inductive Piece where
  | char (c : Char)
  | unit (n : Nat)
  deriving DecidableEq, Repr

abbrev Quoted := List Piece

/-- the first unit of a pair -/
def isHigh (n : Nat) : Bool := 0xD800 ≤ n && n < 0xDC00

/-- the second unit of a pair -/
def isLow (n : Nat) : Bool := 0xDC00 ≤ n && n < 0xE000

/-- the character of a pair of units -/
def pairChar (high low : Nat) : Char :=
  Char.ofNat (0x10000 + (high - 0xD800) * 0x400 + (low - 0xDC00))

namespace Quoted

/-- the characters of quoted text, unless a unit of a pair is alone -/
def chars : Quoted → Option (List Char)
  | [] => some []
  | .char c :: rest => (chars rest).map (c :: ·)
  | .unit n :: rest =>
    if isLow n then none
    else if isHigh n then
      match rest with
      | .unit m :: rest => if isLow m then (chars rest).map (pairChar n m :: ·) else none
      | _ => none
    else (chars rest).map (Char.ofNat n :: ·)

def text? (q : Quoted) : Option String := q.chars.map String.ofList

theorem chars_map_char (s : List Char) : chars (s.map .char) = some s := by
  induction s with
  | nil => rfl
  | cons c s ih => simp [chars, ih]

end Quoted

end Json

end StreamDecode
