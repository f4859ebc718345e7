import StreamDecode.Flag.Set
import StreamDecode.Text.Blank
import StreamDecode.Text.Number

/-!
# Flag sets as text

Written, a set is the names of some of its flags joined by ` | `, with the bits that no written
name covers as one hexadecimal number at the end.  A flag is written if the set contains it whole
and it still covers a bit that no earlier flag covered.  The empty set is the empty text.

Read, the text is cut at `|`; each part, without the blanks around it, is a name or a hexadecimal
number.  A part may not be empty, except that a blank text is the empty set.
-/

namespace StreamDecode

namespace Flags

variable {t : FlagTable}

/-- the flags that are written for `source` when `left` is still to be covered, and what stays
uncovered -/
def cover (source : UInt32) : List Flag → UInt32 → List Flag × UInt32
  | [], left => ([], left)
  | f :: fs, left =>
    if source &&& f.bits == f.bits && left &&& f.bits != 0 then
      let (written, rest) := cover source fs (left &&& ~~~f.bits)
      (f :: written, rest)
    else cover source fs left

/-- the flags of `a` that its text names -/
def named (a : Flags t) : List Flag := (cover a.bits t.flags a.bits).1

/-- the bits of `a` that no written flag covers -/
def unnamed (a : Flags t) : UInt32 := (cover a.bits t.flags a.bits).2

/-- the parts of the text: names, then the uncovered bits if there are any -/
def parts (a : Flags t) : List String :=
  a.named.map (·.name) ++ if a.unnamed == 0 then [] else [hexText 0 a.unnamed.toNat]

/-- the text of a set -/
def text (a : Flags t) : String := String.intercalate " | " a.parts

/-- the text with the kind of set around it; the empty set shows as `0x0` -/
def describe (a : Flags t) : String :=
  t.typeName ++ "(" ++ (if a.isEmpty then "0x0" else a.text) ++ ")"

/-- a hexadecimal number of 32 bits; one plus sign may precede the digits -/
def readHex (s : List Char) : Option (Flags t) := do
  let digits := match s with
    | '+' :: r => r
    | r => r
  let n ← readDigits 16 digits
  if n < UInt32.size then some ⟨n.toUInt32⟩ else none

/-- one part of a text: `0x` and a number, or a name -/
def readPart (part : List Char) : Option (Flags t) :=
  match part with
  | [] => none
  | '0' :: 'x' :: digits => readHex digits
  | name => ofName? (String.ofList name)

/-- the union of the parts, if each can be read -/
def readParts (parts : List (List Char)) : Option (Flags t) :=
  parts.foldlM (fun acc part => (readPart (trim part)).map (acc ∪ ·)) empty

/-- the set that a text stands for -/
def ofText? (s : String) : Option (Flags t) :=
  if (trim s.toList).isEmpty then some empty else readParts (splitAt '|' s.toList)

end Flags

end StreamDecode
