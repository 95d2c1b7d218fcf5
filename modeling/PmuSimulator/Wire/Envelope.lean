import Mathlib
import PmuSimulator.Wire.Frame

/-!
# What is accepted as a frame

`FrameView::parse` without its errors: the bytes it accepts are those whose sync word, declared size
and checksum are right.
-/

namespace PmuSimulator

/-! ### Bytes -/

/-- A fact of bytes may be checked number by number. -/
lemma forall_uint8 {P : UInt8 → Prop} (checked : ∀ n < 256, P (UInt8.ofNat n)) : ∀ b, P b :=
  fun b => by simpa only [UInt8.ofNat_toNat] using checked b.toNat b.toNat_lt

lemma u16FromBeBytes_inj {hi lo : UInt8} {v : UInt16} :
    u16FromBeBytes hi lo = v ↔ [hi, lo] = u16ToBeBytes v := by
  constructor
  · rintro rfl
    exact (u16ToBeBytes_fromBeBytes hi lo).symm
  · intro h
    simp only [u16ToBeBytes, List.cons.injEq, and_true] at h
    rw [h.1, h.2]
    exact u16FromBeBytes_toBeBytes v

lemma u16At_append (payload : List UInt8) (hi lo : UInt8) (rest : List UInt8) :
    u16At (payload ++ hi :: lo :: rest) payload.length = u16FromBeBytes hi lo := by
  have h₀ : (payload ++ hi :: lo :: rest).getD payload.length 0 = hi := by
    rw [List.getD_append_right _ _ _ _ (Nat.le_refl _), Nat.sub_self, List.getD_cons_zero]
  have h₁ : (payload ++ hi :: lo :: rest).getD (payload.length + 1) 0 = lo := by
    rw [List.getD_append_right _ _ _ _ (Nat.le_add_right _ 1), Nat.add_sub_cancel_left,
      List.getD_cons_succ, List.getD_cons_zero]
  rw [u16At, h₀, h₁]

/-! ### Frames -/

lemma checksumMatches_append (payload : List UInt8) (hi lo : UInt8) :
    checksumMatches (payload ++ [hi, lo]) = true ↔ crc16Ccitt payload = u16FromBeBytes hi lo := by
  have hlen : (payload ++ [hi, lo]).length - frameChecksumBytes = payload.length := by
    simp [frameChecksumBytes]
  have henough : ¬ (payload ++ [hi, lo]).length < frameChecksumBytes := by
    simp [frameChecksumBytes]
  simp only [checksumMatches, if_neg henough, hlen, List.take_left, u16At_append,
    decide_eq_true_eq]

lemma declaredSize_le (bytes : List UInt8) : FrameView.declaredSize bytes ≤ 65535 :=
  Nat.lt_succ_iff.mp (u16At bytes 2).toNat_lt

lemma parseWith_ok {validSync : UInt8 → UInt8 → Bool} {bytes : List UInt8} {maximumSize : Nat}
    {frame : FrameView} (h : FrameView.parseWith validSync bytes maximumSize = .ok frame) :
    frame.bytes = bytes ∧ validSync (bytes.getD 0 0) (bytes.getD 1 0) = true ∧
      FrameView.declaredSize bytes = bytes.length ∧ checksumMatches bytes = true := by
  unfold FrameView.parseWith at h
  split_ifs at h with h₁ h₂ h₃ h₄ h₅ h₆ h₇
  obtain rfl := Except.ok.inj h
  refine ⟨rfl, by simpa using h₂, by omega, by simpa using h₇⟩

/-- `FrameView::parse` by what it accepts. -/
lemma parseWith_iff {validSync : UInt8 → UInt8 → Bool} {bytes : List UInt8} {frame : FrameView} :
    FrameView.parseWith validSync bytes 65535 = .ok frame ↔
      frame.bytes = bytes ∧ 16 ≤ bytes.length ∧ validSync (bytes.getD 0 0) (bytes.getD 1 0) = true ∧
        FrameView.declaredSize bytes = bytes.length ∧ checksumMatches bytes = true := by
  constructor
  · intro h
    obtain ⟨hbytes, hsync, hsize, hcrc⟩ := parseWith_ok h
    exact ⟨hbytes, hbytes ▸ frame.enough, hsync, hsize, hcrc⟩
  · rintro ⟨rfl, hlen, hsync, hsize, hcrc⟩
    have hmax := declaredSize_le frame.bytes
    have h₁ : ¬ frame.bytes.length < minFrameBytes := Nat.not_lt.mpr hlen
    have h₂ : ¬ frame.bytes.length > 65535 := by omega
    have h₃ : ¬ frame.bytes.length < frame.bytes.length := Nat.lt_irrefl _
    simp only [FrameView.parseWith, dif_neg h₁, hsync, hsize, hcrc, if_neg h₁, if_neg h₂,
      if_neg h₃, Bool.not_true, Bool.false_eq_true, if_false]

end PmuSimulator
