/-!
# Byte strings
-/

namespace Haptics

/-- A byte string. -/
abbrev Bytes := List UInt8

namespace Bytes

/-- The bytes cut, or filled up with zeros, to exactly `n`. -/
def fit (n : Nat) (bs : Bytes) : Bytes := bs.take n ++ List.replicate (n - bs.length) 0

theorem length_fit (n : Nat) (bs : Bytes) : (bs.fit n).length = n := by
  simp only [fit, List.length_append, List.length_take, List.length_replicate]; omega

end Bytes

end Haptics
