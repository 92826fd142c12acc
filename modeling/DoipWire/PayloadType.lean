import DoipWire.Code
import DoipWire.Error

/-!
# Payload types

A payload type is the two-byte code of a header. Codes of the sixteen kinds are named; the
others are reserved below `0xF000` and left to vehicle manufacturers from there on. Classifying
a code and taking the code of the result gives the code back.
-/

namespace DoipWire

instance : CodeTable Kind where
  value := Kind.code
  name := Kind.typeName
  members := Kind.all
  tableName := "PayloadType"

/-- The payload type of a header: a kind, or an unnamed code with its mark. -/
abbrev PayloadType := OpenCode Kind

namespace PayloadType

/-- The first code left to vehicle manufacturers. -/
def vmSpecificStart : Nat := 0xF000

/-- The payload type of a two-byte code. -/
def classify (c : Nat) : PayloadType :=
  match Kind.ofCode? c with
  | some k => .member k
  | none => if vmSpecificStart ≤ c then .vmSpecific c else .reserved c

/-- The payload type of a code, which must fit two bytes. -/
def ofCode (c : Int) : Except Error PayloadType :=
  if 0 ≤ c ∧ c ≤ 0xFFFF then .ok (classify c.toNat) else .error (.payloadTypeRange c)

/-- The code of a payload type, unchecked for a mark that carries any number. -/
def code (t : PayloadType) : Int := t.value

theorem code_classify (c : Nat) : (classify c).code = c := by
  unfold classify code
  cases h : Kind.ofCode? c with
  | none => by_cases hc : vmSpecificStart ≤ c <;> simp [hc, OpenCode.value]
  | some k =>
    have := List.find?_some h
    simp only [decide_eq_true_eq] at this
    simp [OpenCode.value, CodeTable.value, this]

end PayloadType

end DoipWire
