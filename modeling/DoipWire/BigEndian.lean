import DoipWire.Error

/-!
# Big-endian fields

Numbers on the wire are unsigned and big-endian: the most significant byte comes first. Writing
a number into a field of `w` bytes fails when it is negative or does not fit; a list of single
bytes fails when one of them is outside `0 .. 255`.
-/

namespace DoipWire.BigEndian

/-- The number a big-endian byte string spells. -/
def ofBytes (bs : List UInt8) : Nat :=
  bs.foldl (fun acc b => acc * 256 + b.toNat) 0

/-- The `w` big-endian bytes of `n`, dropping what does not fit. -/
def toBytes : Nat → Nat → List UInt8
  | 0, _ => []
  | w + 1, n => toBytes w (n / 256) ++ [UInt8.ofNat (n % 256)]

/-- The field of `w` bytes holding `v`. -/
def encode (w : Nat) (v : Int) : Except Error (List UInt8) :=
  if v < 0 then .error .negative
  else if Int.pow 256 w ≤ v then .error .tooLarge
  else .ok (toBytes w v.toNat)

/-- Single bytes, each of which must lie in `0 .. 255`. -/
def bytesOf (vs : List Int) : Except Error (List UInt8) :=
  if vs.all (fun v => 0 ≤ v ∧ v < 256) then .ok (vs.map (fun v => UInt8.ofNat v.toNat))
  else .error .byteRange

@[simp] theorem length_toBytes (w n : Nat) : (toBytes w n).length = w := by
  induction w generalizing n with
  | zero => rfl
  | succ w ih => simp [toBytes, ih]

theorem ofBytes_append (xs ys : List UInt8) :
    ofBytes (xs ++ ys) = ys.foldl (fun acc b => acc * 256 + b.toNat) (ofBytes xs) := by
  simp [ofBytes, List.foldl_append]

end DoipWire.BigEndian
