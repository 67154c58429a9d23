/-!
# Condition codes

A conditional branch names one of sixteen conditions on the status flags.  They come in pairs
that differ in the low bit of their code, and each is the negation of its partner; "always" is
paired with "never".

* `Condition.ofBits`, `Condition.bits` — between codes and conditions.
* `Condition.invert` — the partner.
-/

namespace WordCodec

/-- A condition on the status flags. -/
inductive Condition where
  /-- Equal: zero set. -/
  | eq
  /-- Not equal: zero clear. -/
  | ne
  /-- Unsigned higher or same: carry set. -/
  | cs
  /-- Unsigned lower: carry clear. -/
  | cc
  /-- Negative. -/
  | mi
  /-- Positive or zero. -/
  | pl
  /-- Overflow. -/
  | vs
  /-- No overflow. -/
  | vc
  /-- Unsigned higher: carry set and zero clear. -/
  | hi
  /-- Unsigned lower or same: carry clear or zero set. -/
  | ls
  /-- Signed greater or equal: negative agrees with overflow. -/
  | ge
  /-- Signed less: negative differs from overflow. -/
  | lt
  /-- Signed greater: zero clear, and negative agrees with overflow. -/
  | gt
  /-- Signed less or equal: zero set, or negative differs from overflow. -/
  | le
  /-- Always. -/
  | al
  /-- Never. -/
  | nv
  deriving DecidableEq, Repr

namespace Condition

/-- The conditions in the order of their codes. -/
def all : List Condition :=
  [eq, ne, cs, cc, mi, pl, vs, vc, hi, ls, ge, lt, gt, le, al, nv]

/-- The four-bit code. -/
def bits : Condition → UInt8
  | eq => 0
  | ne => 1
  | cs => 2
  | cc => 3
  | mi => 4
  | pl => 5
  | vs => 6
  | vc => 7
  | hi => 8
  | ls => 9
  | ge => 10
  | lt => 11
  | gt => 12
  | le => 13
  | al => 14
  | nv => 15

/-- The condition whose code stands in the low four bits of `bits`. -/
def ofBits (bits : UInt8) : Condition :=
  all.getD (bits &&& 15).toNat nv

/-- The complementary condition: the one whose code differs in the low bit. -/
def invert (condition : Condition) : Condition :=
  ofBits (condition.bits ^^^ 1)

/-- The suffix of a mnemonic. -/
def mnemonic : Condition → String
  | eq => "EQ"
  | ne => "NE"
  | cs => "CS"
  | cc => "CC"
  | mi => "MI"
  | pl => "PL"
  | vs => "VS"
  | vc => "VC"
  | hi => "HI"
  | ls => "LS"
  | ge => "GE"
  | lt => "LT"
  | gt => "GT"
  | le => "LE"
  | al => "AL"
  | nv => "NV"

/-- The name used in JSON. -/
def label : Condition → String
  | eq => "Eq"
  | ne => "Ne"
  | cs => "Cs"
  | cc => "Cc"
  | mi => "Mi"
  | pl => "Pl"
  | vs => "Vs"
  | vc => "Vc"
  | hi => "Hi"
  | ls => "Ls"
  | ge => "Ge"
  | lt => "Lt"
  | gt => "Gt"
  | le => "Le"
  | al => "Al"
  | nv => "Nv"

end Condition

end WordCodec
