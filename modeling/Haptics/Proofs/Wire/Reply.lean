import Haptics.Wire.Frame

/-!
# Frames and what they say

`Reply.bytes` writes out what a frame says. Reading is its exact inverse: `Reply.ofBytes` gives a reply for
the one byte string that says it, and refuses only what is too short to have a header.
-/

namespace Haptics

namespace Reply

/-- The frame that says this. -/
def bytes (r : Reply) : Bytes :=
  r.reportType :: r.deviceIndex :: (r.feature >>> 8).toUInt8 :: r.feature.toUInt8 :: r.payload

/-! ### The octets of a feature address -/

theorem toNat_join (high low : UInt8) :
    (high.toUInt16 <<< 8 ||| low.toUInt16).toNat = high.toNat * 256 + low.toNat := by
  have hh := high.toNat_lt
  have hl := low.toNat_lt
  rw [UInt16.toNat_or, UInt16.toNat_shiftLeft, UInt8.toNat_toUInt16, UInt8.toNat_toUInt16]
  show high.toNat <<< 8 % 2 ^ 16 ||| low.toNat = _
  rw [Nat.shiftLeft_eq, Nat.mod_eq_of_lt (by omega), ← Nat.shiftLeft_eq, ← Nat.shiftLeft_add_eq_or_of_lt hl,
    Nat.shiftLeft_eq]

theorem high_join (high low : UInt8) : ((high.toUInt16 <<< 8 ||| low.toUInt16) >>> 8).toUInt8 = high := by
  have hh := high.toNat_lt
  have hl := low.toNat_lt
  apply UInt8.toNat.inj
  rw [UInt16.toNat_toUInt8, UInt16.toNat_shiftRight, toNat_join]
  show (high.toNat * 256 + low.toNat) >>> 8 % 2 ^ 8 = _
  rw [Nat.shiftRight_eq_div_pow]
  omega

theorem low_join (high low : UInt8) : (high.toUInt16 <<< 8 ||| low.toUInt16).toUInt8 = low := by
  have hl := low.toNat_lt
  apply UInt8.toNat.inj
  rw [UInt16.toNat_toUInt8, toNat_join]
  omega

theorem join_split (feature : UInt16) :
    (feature >>> 8).toUInt8.toUInt16 <<< 8 ||| feature.toUInt8.toUInt16 = feature := by
  have hf := feature.toNat_lt
  apply UInt16.toNat.inj
  rw [toNat_join, UInt16.toNat_toUInt8, UInt16.toNat_toUInt8, UInt16.toNat_shiftRight]
  show feature.toNat >>> 8 % 2 ^ 8 * 256 + feature.toNat % 2 ^ 8 = _
  rw [Nat.shiftRight_eq_div_pow]
  omega

/-! ### Reading -/

variable {bs : Bytes} {r : Reply}

theorem ofBytes_eq_ok_iff : ofBytes bs = .ok r ↔ bs = r.bytes := by
  constructor
  · intro h
    match bs, h with
    | _ :: _ :: high :: low :: _, h =>
      obtain rfl := Except.ok.inj h
      simp only [bytes, high_join, low_join]
    | [], h | [_], h | [_, _], h | [_, _, _], h => cases h
  · rintro rfl
    simp only [bytes, ofBytes, join_split]

theorem ofBytes_eq_error_iff {e : WireError} :
    ofBytes bs = .error e ↔ bs.length < 4 ∧ e = .malformed bs.length := by
  match bs with
  | [] | [_] | [_, _] | [_, _, _] => simp [ofBytes, eq_comm]
  | _ :: _ :: _ :: _ :: tail =>
    refine iff_of_false (fun h => nomatch h) fun h => ?_
    have hl := h.1
    simp only [List.length_cons] at hl
    omega

end Reply

namespace Frame

/-- What a frame says to the one who reads it. -/
def reply (f : Frame) : Reply := ⟨f.report.byte, f.deviceIndex, f.feature, f.payload⟩

theorem ofBytes_bytes (f : Frame) : Reply.ofBytes f.bytes = .ok f.reply := Reply.ofBytes_eq_ok_iff.2 rfl

theorem length_bytes (f : Frame) : f.bytes.length = f.report.size := by
  have h := f.fits
  simp only [bytes, List.length_cons, h, Report.payloadLength]
  cases f.report <;> rfl

end Frame

end Haptics
