import Haptics.Proofs.Wire.Reply

/-!
# Requests read back

A feature request goes into the smallest report that holds its parameters, and cutting them to what the long
report takes never cuts what a short one holds (`Frame.fit_requestReport`). So what a request says is read back
whole, requests with as many parameters have one frame only if they are the same, and whatever else is read says
all of its bytes (`Frame.request_read_back`).
-/

namespace Haptics

variable {index index' : UInt8} {feature feature' : UInt16} {params params' : Bytes}

namespace Bytes

theorem fit_eq_append {n : Nat} {bs : Bytes} (h : bs.length ≤ n) :
    bs.fit n = bs ++ List.replicate (n - bs.length) 0 := by
  rw [fit, List.take_of_length_le h]

theorem fit_injective {n : Nat} {bs bs' : Bytes} (hl : bs.length = bs'.length) (hn : bs.length ≤ n)
    (h : bs.fit n = bs'.fit n) : bs = bs' := by
  rw [fit_eq_append hn, fit_eq_append (hl ▸ hn)] at h
  exact (List.append_inj h hl).1

end Bytes

namespace Report

theorem ofByte?_byte (r : Report) : ofByte? r.byte = some r := by
  cases r <;> rfl

end Report

namespace Reply

/-- The octets of a feature address, the high one first. -/
def bigEndian (feature : UInt16) : Bytes :=
  [UInt8.ofNat (feature.toNat / 256), UInt8.ofNat (feature.toNat % 256)]

theorem bytes_eq (r : Reply) :
    r.bytes = r.reportType :: r.deviceIndex :: (bigEndian r.feature ++ r.payload) := by
  have hf := r.feature.toNat_lt
  have hhigh : (r.feature >>> 8).toUInt8 = UInt8.ofNat (r.feature.toNat / 256) := by
    apply UInt8.toNat.inj
    rw [UInt16.toNat_toUInt8, UInt16.toNat_shiftRight, UInt8.toNat_ofNat']
    show r.feature.toNat >>> 8 % 2 ^ 8 = _
    rw [Nat.shiftRight_eq_div_pow]
  have hlow : r.feature.toUInt8 = UInt8.ofNat (r.feature.toNat % 256) := by
    apply UInt8.toNat.inj
    rw [UInt16.toNat_toUInt8, UInt8.toNat_ofNat']
    omega
  rw [bytes, hhigh, hlow]
  rfl

theorem exists_ofBytes {bs : Bytes} (h : 4 ≤ bs.length) :
    ∃ r, ofBytes bs = .ok r ∧ bs = r.reportType :: r.deviceIndex :: (bigEndian r.feature ++ r.payload) := by
  rcases hr : ofBytes bs with e | r
  · have hshort := (ofBytes_eq_error_iff.1 hr).1
    omega
  · refine ⟨r, rfl, ?_⟩
    rw [← bytes_eq]
    exact ofBytes_eq_ok_iff.1 hr

end Reply

namespace Frame

theorem requestReport_of_le (h : params.length ≤ 3) : requestReport params = .short := if_pos h

theorem requestReport_of_lt (h : ¬ params.length ≤ 3) : requestReport params = .long := if_neg h

theorem size_requestReport (params : Bytes) :
    (requestReport params).size = if params.length ≤ 3 then 7 else 20 := by
  split
  next h => rw [requestReport_of_le h]; rfl
  next h => rw [requestReport_of_lt h]; rfl

theorem byte_requestReport (params : Bytes) :
    (requestReport params).byte = if params.length ≤ 3 then 0x10 else 0x11 := by
  split
  next h => rw [requestReport_of_le h]; rfl
  next h => rw [requestReport_of_lt h]; rfl

/-- The payload of a request: at most sixteen parameters, then zeros. -/
theorem fit_requestReport (params : Bytes) : params.fit (requestReport params).payloadLength =
    params.take 16 ++ List.replicate ((requestReport params).size - 4 - (params.take 16).length) 0 := by
  by_cases h : params.length ≤ 3
  · have hall : params.take 16 = params := List.take_of_length_le (by omega)
    rw [requestReport_of_le h, hall]
    exact Bytes.fit_eq_append h
  · have hzeros : 16 - params.length = 16 - min 16 params.length := by omega
    rw [requestReport_of_lt h, List.length_take]
    exact congrArg (fun n => params.take 16 ++ List.replicate n 0) hzeros

theorem bytes_injective {f f' : Frame} (h : f.bytes = f'.bytes) : f.reply = f'.reply := by
  have hok := f.ofBytes_bytes
  rw [h, f'.ofBytes_bytes] at hok
  exact (Except.ok.inj hok).symm

/-- Parameters that a long report takes whole can be told from others of their number. -/
theorem request_injective (hl : params.length = params'.length) (hn : params.length ≤ 16)
    (h : (request index feature params).bytes = (request index' feature' params').bytes) :
    index = index' ∧ feature = feature' ∧ params = params' := by
  have hreport : requestReport params' = requestReport params := by
    rw [requestReport, requestReport, hl]
  have hfits : params.length ≤ (requestReport params).payloadLength := by
    by_cases hp : params.length ≤ 3
    · rw [requestReport_of_le hp]
      exact hp
    · rw [requestReport_of_lt hp]
      exact hn
  obtain ⟨-, hindex, hfeature, hpayload⟩ := Reply.mk.inj (bytes_injective h)
  refine ⟨hindex, hfeature, Bytes.fit_injective hl hfits ?_⟩
  have hpayload : params.fit (requestReport params).payloadLength =
      params'.fit (requestReport params').payloadLength := hpayload
  rwa [hreport] at hpayload

/-- A request is a frame of seven bytes if it has at most three parameters, and else of twenty, as its report
type says. Read back, it has this report type, its device index, its feature and its parameters, which are cut to
sixteen and followed by zeros up to the end of the frame. Requests with equally many parameters, at most sixteen,
have the same frame only if they are the same. Any byte string is refused exactly if it has fewer than four
bytes, and then for its length, and otherwise is what the reply says, from end to end. -/
theorem request_read_back :
    (∀ (index : UInt8) (feature : UInt16) (params : Bytes),
      let frame := (request index feature params).bytes
      let sent := params.take 16
      frame.length = (if params.length ≤ 3 then 7 else 20) ∧
      ∃ report, frame.head? = some report ∧ report = (if params.length ≤ 3 then 0x10 else 0x11) ∧
        (Report.ofByte? report).map Report.size = some frame.length ∧
        Reply.ofBytes frame =
          .ok ⟨report, index, feature, sent ++ List.replicate (frame.length - 4 - sent.length) 0⟩) ∧
    (∀ (index index' : UInt8) (feature feature' : UInt16) (params params' : Bytes),
      params.length = params'.length → params.length ≤ 16 →
      ((request index feature params).bytes = (request index' feature' params').bytes ↔
        index = index' ∧ feature = feature' ∧ params = params')) ∧
    ∀ bs : Bytes,
      (∀ e, Reply.ofBytes bs = .error e ↔ bs.length < 4 ∧ e = .malformed bs.length) ∧
      (4 ≤ bs.length → ∃ r, Reply.ofBytes bs = .ok r ∧
        bs = r.reportType :: r.deviceIndex :: (Reply.bigEndian r.feature ++ r.payload)) := by
  refine ⟨fun index feature params => ?_, fun index index' feature feature' params params' hl hn => ?_,
    fun bs => ⟨fun e => Reply.ofBytes_eq_error_iff, Reply.exists_ofBytes⟩⟩
  · intro frame sent
    have hlength : frame.length = (requestReport params).size := (request index feature params).length_bytes
    refine ⟨hlength.trans (size_requestReport params), _, rfl, byte_requestReport params, ?_, ?_⟩
    · rw [hlength]
      exact congrArg (Option.map Report.size) (Report.ofByte?_byte (requestReport params))
    · rw [hlength, ← fit_requestReport params]
      exact (request index feature params).ofBytes_bytes
  · constructor
    · exact request_injective hl hn
    · rintro ⟨rfl, rfl, rfl⟩
      rfl

-- zeros behind the parameters are not told from parameters that are zero, so their number matters
example : (request 2 hapticFeature [5]).bytes = (request 2 hapticFeature [5, 0]).bytes := by decide

/-- Sixteen parameters are told apart by the last one; a frame of four bytes has no payload. -/
theorem request_read_back_full :
    let params (last : UInt8) : Bytes := List.replicate 15 7 ++ [last]
    (params 1).length = (params 2).length ∧ (params 1).length ≤ 16 ∧
      (request 2 hapticFeature (params 1)).bytes ≠ (request 2 hapticFeature (params 2)).bytes ∧
      ∃ r, Reply.ofBytes [0x10, 2, 0x0B, 0x4E] = .ok r ∧ r.payload = [] := by
  intro params
  have hl : (params 1).length = (params 2).length := rfl
  have hn : (params 1).length ≤ 16 := by decide
  have hdiffer : params 1 ≠ params 2 := by decide
  obtain ⟨-, hinjective, hread⟩ := request_read_back
  refine ⟨hl, hn, fun h => ?_, ?_⟩
  · exact hdiffer ((hinjective 2 2 hapticFeature hapticFeature _ _ hl hn).1 h).2.2
  · obtain ⟨r, hr, hbs⟩ := (hread [0x10, 2, 0x0B, 0x4E]).2 (by decide)
    refine ⟨r, hr, ?_⟩
    have hcount := congrArg List.length hbs
    simp only [Reply.bigEndian, List.length_cons, List.length_append, List.length_nil] at hcount
    exact List.length_eq_zero_iff.1 (by omega)

end Frame

end Haptics
