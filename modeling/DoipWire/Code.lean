/-!
# Named codes

Several fields hold a code from a short table of named values. An open field keeps an unnamed
value as received, marked as reserved or as specific to a vehicle manufacturer; a closed field
refuses unnamed values when decoding, but a value assigned from outside may still be a plain
number. Two open codes are equal only when both are the same member or the same mark with the
same value; a closed code equals another with the same number, named or not.
-/

namespace DoipWire

/-- A finite table of named codes. -/
class CodeTable (α : Type) where
  /-- The number of a member. -/
  value : α → Nat
  /-- The name of a member. -/
  name : α → String
  /-- Every member, in the order of the table. -/
  members : List α
  /-- The name of the table. -/
  tableName : String

namespace CodeTable

variable {α : Type} [CodeTable α]

/-- The member with a given number. -/
def ofValue? (v : Int) : Option α :=
  (members : List α).find? (fun a => (value a : Int) == v)

/-- The member with a given name. -/
def ofName? (s : String) : Option α :=
  (members : List α).find? (fun a => name a == s)

end CodeTable

/-- A code of an open table: a member, or an unnamed value kept with its mark. -/
inductive OpenCode (α : Type) where
  | member (a : α)
  /-- A value the table reserves. -/
  | reserved (v : Int)
  /-- A value left to vehicle manufacturers. -/
  | vmSpecific (v : Int)
  deriving DecidableEq, Repr, BEq

/-- A code of a closed table: a member, or a plain number assigned from outside. -/
inductive ClosedCode (α : Type) where
  | member (a : α)
  | raw (v : Int)
  deriving Repr

namespace OpenCode

variable {α : Type} [CodeTable α]

/-- The number of an open code. -/
def value : OpenCode α → Int
  | member a => CodeTable.value a
  | reserved v => v
  | vmSpecific v => v

end OpenCode

namespace ClosedCode

variable {α : Type} [CodeTable α]

/-- The number of a closed code. -/
def value : ClosedCode α → Int
  | member a => CodeTable.value a
  | raw v => v

/-- Closed codes compare by their numbers. -/
instance : BEq (ClosedCode α) where
  beq a b := a.value == b.value

end ClosedCode

end DoipWire
