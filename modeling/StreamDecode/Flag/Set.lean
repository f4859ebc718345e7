/-!
# Flag sets

A flag set is a 32-bit word read against a table of named flags.

* `FlagTable`   the declared flags of one kind of set, in declaration order; flags may overlap;
* `Flags t`     a word read against `t`.  Bits that no flag of `t` declares are kept.

The set operations work on the word.  Only `truncate`, `complement` and `ofBits?` look at the table.
-/

namespace StreamDecode

/-- a named flag: one bit, or a mask of several -/
structure Flag where
  name : String
  bits : UInt32
  deriving DecidableEq, Repr

/-- the flags of one kind of set, in declaration order -/
structure FlagTable where
  typeName : String
  flags : List Flag
  deriving DecidableEq, Repr

/-- all bits that some flag of the table declares -/
def FlagTable.known (t : FlagTable) : UInt32 :=
  t.flags.foldl (fun acc f => acc ||| f.bits) 0

/-- a word whose bits are read as the flags of `t` -/
structure Flags (t : FlagTable) where
  bits : UInt32
  deriving DecidableEq, Repr

namespace Flags

variable {t : FlagTable}

def empty : Flags t := ⟨0⟩

/-- every declared flag -/
def all : Flags t := ⟨t.known⟩

def isEmpty (a : Flags t) : Bool := a.bits == 0

/-- every bit of `b` is in `a` -/
def contains (a b : Flags t) : Bool := a.bits &&& b.bits == b.bits

/-- `a` and `b` share a bit -/
def intersects (a b : Flags t) : Bool := a.bits &&& b.bits != 0

/-- every declared flag is in `a`, whatever else is -/
def isAll (a : Flags t) : Bool := a.contains all

def union (a b : Flags t) : Flags t := ⟨a.bits ||| b.bits⟩

def inter (a b : Flags t) : Flags t := ⟨a.bits &&& b.bits⟩

/-- the bits of `a` that are not in `b`, undeclared ones included -/
def diff (a b : Flags t) : Flags t := ⟨a.bits &&& ~~~b.bits⟩

def xor (a b : Flags t) : Flags t := ⟨a.bits ^^^ b.bits⟩

/-- the declared bits of `a` -/
def truncate (a : Flags t) : Flags t := ⟨a.bits &&& t.known⟩

/-- the declared bits that are not in `a` -/
def complement (a : Flags t) : Flags t := ⟨~~~a.bits &&& t.known⟩

/-- the word `bits` as a set, unless it has an undeclared bit -/
def ofBits? (bits : UInt32) : Option (Flags t) :=
  if bits &&& ~~~t.known == 0 then some ⟨bits⟩ else none

/-- the flag of that exact name -/
def ofName? (name : String) : Option (Flags t) :=
  (t.flags.find? (·.name == name)).map (⟨·.bits⟩)

instance : Union (Flags t) := ⟨union⟩
instance : Inter (Flags t) := ⟨inter⟩
instance : SDiff (Flags t) := ⟨diff⟩

@[simp] theorem bits_union (a b : Flags t) : (a ∪ b).bits = a.bits ||| b.bits := rfl
@[simp] theorem bits_inter (a b : Flags t) : (a ∩ b).bits = a.bits &&& b.bits := rfl
@[simp] theorem bits_sdiff (a b : Flags t) : (a \ b).bits = a.bits &&& ~~~b.bits := rfl

theorem ext_bits {a b : Flags t} (h : a.bits = b.bits) : a = b := by
  cases a; cases b; simp_all

end Flags

end StreamDecode
