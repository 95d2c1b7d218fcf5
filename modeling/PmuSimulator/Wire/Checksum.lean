import Mathlib
import PmuSimulator.Foundation.ShiftRegister
import PmuSimulator.Wire.Envelope
import PmuSimulator.Wire.V2
import PmuSimulator.Wire.V3

/-!
# What the checksum detects

`crc16_ccitt` is a shift register that starts with all bits set, and a frame is accepted when its
own checksum empties the register again. No burst of flipped bits as long as the checksum goes
unseen, wherever it lies in the frame.
-/

namespace PmuSimulator

open ShiftRegister

/-- The feedback of `crc16_ccitt`. -/
def crc16Polynomial : BitVec 16 := 0x1021#16

/-- The bits of a byte from the top, as the checksum takes them. -/
def bitsOfByte (byte : UInt8) : List Bool :=
  (List.range 8).map fun i => byte.toNat.testBit (7 - i)

def bitsOf (bytes : List UInt8) : List Bool := bytes.flatMap bitsOfByte

/-- The bytes with the set bits of `flips` flipped. -/
def corrupt (bytes flips : List UInt8) : List UInt8 := List.zipWith (· ^^^ ·) bytes flips

/-- `FrameView::parse` of either version. -/
def parseFrame : WireVersion → List UInt8 → Except FrameError FrameView
  | .v2 => WireV2.parse
  | .v3 => WireV3.parse

/-! ### Bits -/

@[simp] lemma bitsOfByte_length (byte : UInt8) : (bitsOfByte byte).length = 8 := rfl

@[simp] lemma bitsOf_nil : bitsOf [] = [] := rfl

@[simp] lemma bitsOf_cons (byte : UInt8) (bytes : List UInt8) :
    bitsOf (byte :: bytes) = bitsOfByte byte ++ bitsOf bytes := rfl

@[simp] lemma bitsOf_append (bytes bytes' : List UInt8) :
    bitsOf (bytes ++ bytes') = bitsOf bytes ++ bitsOf bytes' := List.flatMap_append

lemma bitsOf_length (bytes : List UInt8) : (bitsOf bytes).length = 8 * bytes.length := by
  induction bytes with
  | nil => rfl
  | cons byte bytes ih =>
    rw [bitsOf_cons, List.length_append, ih, bitsOfByte_length, List.length_cons]
    omega

lemma bitsOfByte_xor (a b : UInt8) :
    bitsOfByte (a ^^^ b) = List.zipWith xor (bitsOfByte a) (bitsOfByte b) := by
  simp only [bitsOfByte, UInt8.toNat_xor, Nat.testBit_xor, List.zipWith_map, List.zipWith_self]

lemma bitsOf_corrupt {bytes flips : List UInt8} (hlength : flips.length = bytes.length) :
    bitsOf (corrupt bytes flips) = List.zipWith xor (bitsOf bytes) (bitsOf flips) := by
  induction bytes generalizing flips with
  | nil => rfl
  | cons byte bytes ih =>
    cases flips with
    | nil => cases hlength
    | cons flip flips =>
      have hrest := ih (Nat.succ.inj hlength)
      rw [corrupt, List.zipWith_cons_cons, bitsOf_cons, bitsOf_cons, bitsOf_cons,
        List.zipWith_append (by rw [bitsOfByte_length, bitsOfByte_length]), bitsOfByte_xor]
      exact congrArg _ hrest

/-! ### The checksum as a register -/

lemma topBit_set (checksum : UInt16) :
    checksum &&& 0x8000 ≠ 0 ↔ checksum.toBitVec.msb = true := by
  have hmask : (checksum &&& 0x8000).toBitVec =
      if checksum.toBitVec.getLsbD 15 then BitVec.twoPow 16 15 else 0#16 :=
    BitVec.and_twoPow checksum.toBitVec 15
  rw [BitVec.msb_eq_getLsbD_last, ne_eq, ← UInt16.toBitVec_inj, hmask]
  cases checksum.toBitVec.getLsbD (16 - 1) with
  | true => decide
  | false => decide

lemma crc16Bit_eq (checksum : UInt16) :
    (crc16Bit checksum).toBitVec = shift crc16Polynomial checksum.toBitVec := by
  unfold crc16Bit shift
  by_cases h : checksum &&& 0x8000 ≠ 0
  · rw [if_pos h, if_pos ((topBit_set checksum).mp h)]
    rfl
  · rw [if_neg h, if_neg (mt (topBit_set checksum).mpr h)]
    rfl

lemma iterate_crc16Bit (n : Nat) (checksum : UInt16) :
    (crc16Bit^[n] checksum).toBitVec = (shift crc16Polynomial)^[n] checksum.toBitVec := by
  induction n generalizing checksum with
  | zero => rfl
  | succ n ih => rw [Function.iterate_succ_apply, Function.iterate_succ_apply, ih, crc16Bit_eq]

lemma aligned_byte (byte : UInt8) :
    aligned 16 (bitsOfByte byte) = (byte.toUInt16 <<< 8).toBitVec :=
  forall_uint8 (P := fun byte => aligned 16 (bitsOfByte byte) = (byte.toUInt16 <<< 8).toBitVec)
    (by decide +kernel) byte

lemma crc16Byte_eq (checksum : UInt16) (byte : UInt8) :
    (crc16Byte checksum byte).toBitVec = run crc16Polynomial checksum.toBitVec (bitsOfByte byte) := by
  have hfits : (bitsOfByte byte).length ≤ 16 := by
    rw [bitsOfByte_length]
    decide
  rw [run_eq hfits, aligned_byte, bitsOfByte_length]
  exact iterate_crc16Bit 8 _

lemma crc16Ccitt_eq (bytes : List UInt8) :
    (crc16Ccitt bytes).toBitVec = run crc16Polynomial 0xffff#16 (bitsOf bytes) := by
  have hfold : ∀ checksum : UInt16, (bytes.foldl crc16Byte checksum).toBitVec =
      run crc16Polynomial checksum.toBitVec (bitsOf bytes) := by
    induction bytes with
    | nil => exact fun checksum => rfl
    | cons byte bytes ih =>
      intro checksum
      rw [List.foldl_cons, ih, bitsOf_cons, run_append, crc16Byte_eq]
  exact hfold 0xffff

lemma aligned_append (w : Nat) (bits bits' : List Bool) :
    aligned w (bits ++ bits') = aligned w bits ^^^ aligned w bits' >>> bits.length := by
  induction bits with
  | nil => simp [aligned]
  | cons b bits ih =>
    rw [List.cons_append, aligned, ih, aligned, BitVec.ushiftRight_xor_distrib, BitVec.xor_assoc,
      List.length_cons, BitVec.shiftRight_add]

/-- A big-endian integer is its two bytes at the top of a register, one below the other. -/
lemma u16FromBeBytes_xor (hi lo : UInt8) :
    (hi.toUInt16 <<< 8).toBitVec ^^^ (lo.toUInt16 <<< 8).toBitVec >>> 8 =
      (u16FromBeBytes hi lo).toBitVec := by
  have hhi := hi.toNat_lt
  have hlo := lo.toNat_lt
  have h₁ : (hi.toUInt16 <<< 8).toNat = 2 ^ 8 * hi.toNat := by
    simp [UInt16.toNat_shiftLeft, Nat.shiftLeft_eq]
    omega
  have h₂ : (lo.toUInt16 <<< 8).toNat = 2 ^ 8 * lo.toNat := by
    simp [UInt16.toNat_shiftLeft, Nat.shiftLeft_eq]
    omega
  have h₃ : (u16FromBeBytes hi lo).toNat = 2 ^ 8 * hi.toNat + lo.toNat := by
    rw [u16FromBeBytes, UInt16.toNat_ofNat_of_lt' (by simp only [UInt16.size]; omega)]
    omega
  apply BitVec.eq_of_toNat_eq
  simp only [BitVec.toNat_xor, BitVec.toNat_ushiftRight, UInt16.toNat_toBitVec, h₁, h₂, h₃,
    Nat.shiftRight_eq_div_pow]
  rw [Nat.mul_div_cancel_left _ (by decide)]
  apply Nat.eq_of_testBit_eq
  intro i
  rw [Nat.testBit_xor, Nat.testBit_two_pow_mul, Nat.testBit_two_pow_mul_add _ hlo]
  by_cases hlow : i < 8
  · simp [hlow, Nat.not_le.mpr hlow]
  · have hpow : lo.toNat < 2 ^ i :=
      Nat.lt_of_lt_of_le hlo (Nat.pow_le_pow_right (by decide) (Nat.not_lt.mp hlow))
    simp [hlow, Nat.not_lt.mp hlow, Nat.testBit_lt_two_pow hpow]

lemma aligned_checksum (hi lo : UInt8) :
    aligned 16 (bitsOf [hi, lo]) = (u16FromBeBytes hi lo).toBitVec := by
  rw [bitsOf_cons, bitsOf_cons, bitsOf_nil, List.append_nil, aligned_append, aligned_byte,
    aligned_byte, bitsOfByte_length, u16FromBeBytes_xor]

/-! ### Frames -/

/-- The last two bytes of a frame, where its checksum stands. -/
lemma eq_payload_append {frame : List UInt8} (h : 2 ≤ frame.length) :
    ∃ payload hi lo, frame = payload ++ [hi, lo] := by
  rcases List.eq_nil_or_concat frame with rfl | ⟨front, lo, rfl⟩
  · cases h
  rcases List.eq_nil_or_concat front with rfl | ⟨payload, hi, rfl⟩
  · exact absurd h (by simp)
  · exact ⟨payload, hi, lo, by simp⟩

/-- A checksum matches when the whole frame, checksum included, empties the register. -/
lemma checksumMatches_iff {frame : List UInt8} (h : 2 ≤ frame.length) :
    checksumMatches frame = true ↔ run crc16Polynomial 0xffff#16 (bitsOf frame) = 0#16 := by
  obtain ⟨payload, hi, lo, rfl⟩ := eq_payload_append h
  have hfits : (bitsOf [hi, lo]).length ≤ 16 := Nat.le_of_eq (bitsOf_length [hi, lo])
  rw [checksumMatches_append, ← UInt16.toBitVec_inj, crc16Ccitt_eq, bitsOf_append, run_append,
    run_eq_zero_iff (by decide) hfits, aligned_checksum]

lemma parseFrame_ok {wireVersion : WireVersion} {bytes : List UInt8} {frame : FrameView}
    (h : parseFrame wireVersion bytes = .ok frame) :
    2 ≤ bytes.length ∧ checksumMatches bytes = true := by
  cases wireVersion with
  | v2 =>
    obtain ⟨-, hlen, -, -, hcrc⟩ := parseWith_iff.mp h
    exact ⟨Nat.le_trans (by decide) hlen, hcrc⟩
  | v3 =>
    obtain ⟨-, hlen, -, -, hcrc⟩ := parseWith_iff.mp h
    exact ⟨Nat.le_trans (by decide) hlen, hcrc⟩

/-- No frame survives a burst of flipped bits that is no longer than its checksum. -/
theorem parseFrame_corrupt {wireVersion : WireVersion} {bytes flips : List UInt8}
    {frame : FrameView} (accepted : parseFrame wireVersion bytes = .ok frame)
    (hlength : flips.length = bytes.length) (burst : Burst 16 (bitsOf flips)) :
    ∃ e, parseFrame wireVersion (corrupt bytes flips) = .error e := by
  have hcorrupt : (corrupt bytes flips).length = bytes.length := by
    rw [corrupt, List.length_zipWith, hlength, Nat.min_self]
  obtain ⟨hlen, hmatch⟩ := parseFrame_ok accepted
  cases hparse : parseFrame wireVersion (corrupt bytes flips) with
  | error e => exact ⟨e, rfl⟩
  | ok frame' =>
    obtain ⟨hlen', hmatch'⟩ := parseFrame_ok hparse
    have hbits : (bitsOf flips).length = (bitsOf bytes).length := by
      rw [bitsOf_length, bitsOf_length, hlength]
    -- both runs would end with an empty register
    have hsame := ((checksumMatches_iff hlen').mp hmatch').trans
      ((checksumMatches_iff hlen).mp hmatch).symm
    rw [bitsOf_corrupt hlength] at hsame
    exact absurd hsame (run_burst_ne (by decide) hbits burst _)

/-- A stop command with a bit of its code and the upper byte of its checksum flipped. -/
theorem parseFrame_corrupt_straddling :
    ∃ frame e, WireV3.encodeCommand 7 .stop ⟨1000, 5⟩ = .ok frame ∧
      parseFrame .v3 (corrupt frame (List.replicate 15 0 ++ [0x01, 0xff, 0])) = .error e := by
  let frame := frameWith v3ProtocolVersion 0 WireV3.frameTypeCommand 7 ⟨1000, 5⟩
    (u16ToBeBytes WireV3.Command.stop.code)
  have enough : minFrameBytes ≤ frame.length := by decide
  have accepted : parseFrame .v3 frame = .ok ⟨frame, enough⟩ := by
    rw [parseFrame, WireV3.parse, parseWith_iff]
    exact ⟨rfl, enough, by decide +kernel, by decide +kernel, by decide +kernel⟩
  have burst : Burst 16 (bitsOf (List.replicate 15 0 ++ [0x01, 0xff, 0])) :=
    ⟨by decide +kernel, 120, by decide +kernel⟩
  have hlength : (List.replicate 15 0 ++ [0x01, 0xff, 0] : List UInt8).length = frame.length := by
    decide
  obtain ⟨e, rejected⟩ := parseFrame_corrupt accepted hlength burst
  exact ⟨frame, e, rfl, rejected⟩

end PmuSimulator
