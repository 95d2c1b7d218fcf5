import Mathlib
import PmuSimulator.Probe.Decode
import PmuSimulator.Wire.Checksum

/-!
# Two readers of frames

The probe and the simulator read frames with code of their own. They take the same bytes for a frame
of a version, and read the same from it; and what the simulator writes is such a frame.
-/

namespace PmuSimulator

/-! ### Frames that are written -/

/-- `body` of either version. -/
def FrameView.body (frame : FrameView) : List UInt8 :=
  (frame.bytes.take (frame.bytes.length - frameChecksumBytes)).drop frameHeaderBytes

lemma u16ToNat_ofNat {n : Nat} (h : n ≤ 65535) : (UInt16.ofNat n).toNat = n :=
  UInt16.toNat_ofNat_of_lt' (Nat.lt_succ_iff.mpr h)

section Written

variable {protocolVersion quality frameType : UInt8} {idcode : UInt16} {timestamp : Timestamp}
  {body : List UInt8}

lemma frameWith_declaredSize (h : minFrameBytes + body.length ≤ 65535) :
    FrameView.declaredSize
        (frameWith protocolVersion quality frameType idcode timestamp body) =
      minFrameBytes + body.length := by
  have hsize : u16At (frameWith protocolVersion quality frameType idcode timestamp body) 2 =
      UInt16.ofNat (minFrameBytes + body.length) := u16FromBeBytes_toBeBytes _
  rw [FrameView.declaredSize, hsize, u16ToNat_ofNat h]

lemma frameWith_checksumMatches :
    checksumMatches (frameWith protocolVersion quality frameType idcode timestamp body) = true := by
  rw [frameWith, u16ToBeBytes, checksumMatches_append, u16FromBeBytes_toBeBytes]

/-- A frame that is written is a frame. -/
lemma parseWith_frameWith {validSync : UInt8 → UInt8 → Bool}
    (hsync : validSync syncByte ((frameType <<< 4) ||| protocolVersion) = true)
    (h : minFrameBytes + body.length ≤ 65535) :
    FrameView.parseWith validSync
        (frameWith protocolVersion quality frameType idcode timestamp body) 65535 =
      .ok ⟨frameWith protocolVersion quality frameType idcode timestamp body,
        by rw [frameWith_length]; exact Nat.le_add_right _ _⟩ := by
  rw [parseWith_iff]
  refine ⟨rfl, ?_, hsync, ?_, frameWith_checksumMatches⟩
  · rw [frameWith_length]
    exact Nat.le_add_right _ _
  · rw [frameWith_declaredSize h, frameWith_length]

lemma frameWith_idcode (enough) :
    FrameView.idcode ⟨frameWith protocolVersion quality frameType idcode timestamp body, enough⟩ =
      idcode := u16FromBeBytes_toBeBytes _

lemma frameWith_timestamp (hfracsec : timestamp.fracsec < 2 ^ 24) (enough) :
    FrameView.timestamp
        ⟨frameWith protocolVersion quality frameType idcode timestamp body, enough⟩ =
      timestamp :=
  congrArg₂ Timestamp.mk (u32FromBeBytes_inj.mpr rfl) (fracsec_iff.mpr ⟨hfracsec, rfl⟩)

lemma frameWith_body (enough) :
    FrameView.body ⟨frameWith protocolVersion quality frameType idcode timestamp body, enough⟩ =
      body := by
  have hlength : (frameWith protocolVersion quality frameType idcode timestamp body).length -
      frameChecksumBytes = (headerWith protocolVersion quality frameType
        (minFrameBytes + body.length) idcode timestamp ++ body).length := by
    rw [frameWith_length, List.length_append, headerWith_length]
    simp only [minFrameBytes, frameChecksumBytes]
    omega
  simp only [FrameView.body]
  rw [hlength, frameWith]
  simp only [List.take_left]
  exact List.drop_left' rfl

end Written

namespace Probe

/-- `decode_v2_frame` or `decode_v3_frame`. -/
def decodeFrame : WireVersion → List UInt8 → Except ProbeFailure DecodedFrame
  | .v2 => decodeV2Frame
  | .v3 => decodeV3Frame

/-- What the simulator reads from a frame. -/
def DecodedFrame.ofView (view : FrameView) : DecodedFrame where
  frameType := view.frameType
  streamId := view.idcode
  timestamp := view.timestamp
  quality := view.bytes.getD 10 0
  body := view.body

/-! ### What is taken for a frame -/

lemma toOption_eq_some {ε α : Type} {x : Except ε α} {a : α} :
    x.toOption = some a ↔ x = .ok a := by
  cases x with
  | error e => simp [Except.toOption]
  | ok b => simp [Except.toOption]

lemma probeCrc16Ccitt_eq (bytes : List UInt8) : probeCrc16Ccitt bytes = crc16Ccitt bytes := rfl

lemma v2ValidSync_eq (first second : UInt8) :
    v2ValidSync first second = WireV2.validSync first second := by
  simp [v2ValidSync, WireV2.validSync, syncByte, Bool.beq_eq_decide_eq]

lemma v3ValidSync_eq (first second : UInt8) :
    v3ValidSync first second = WireV3.validSync first second := by
  simp [v3ValidSync, WireV3.validSync, syncByte, Bool.beq_eq_decide_eq]

lemma checksumMatches_iff_probe {bytes : List UInt8} (h : 16 ≤ bytes.length) :
    checksumMatches bytes = true ↔
      probeCrc16Ccitt (bytes.take (bytes.length - 2)) = u16At bytes (bytes.length - 2) := by
  have henough : ¬ bytes.length < frameChecksumBytes :=
    Nat.not_lt.mpr (Nat.le_trans (by decide) h)
  rw [checksumMatches, if_neg henough, decide_eq_true_eq, probeCrc16Ccitt_eq]
  rfl

lemma decodeFrameWith_iff {protocolVersion : UInt8} {validSync : UInt8 → UInt8 → Bool}
    {label envelope sync : String} {bytes : List UInt8} {frame : DecodedFrame} :
    decodeFrameWith protocolVersion validSync label envelope sync bytes = .ok frame ↔
      ∃ view, FrameView.parseWith validSync bytes 65535 = .ok view ∧
        view.version = protocolVersion ∧ frame = .ofView view := by
  constructor
  · intro h
    simp only [decodeFrameWith] at h
    split_ifs at h with hshort hsync hversion hsize hcrc
    have hlength : 16 ≤ bytes.length := Nat.not_lt.mp hshort
    obtain ⟨hdeclared, -⟩ := not_or.mp hsize
    have hdeclared : (u16At bytes 2).toNat = bytes.length := not_not.mp hdeclared
    rw [hdeclared] at hcrc h
    refine ⟨⟨bytes, hlength⟩, parseWith_iff.mpr ⟨rfl, hlength, by simpa using hsync, hdeclared,
      (checksumMatches_iff_probe hlength).mpr (not_not.mp hcrc)⟩, not_not.mp hversion, ?_⟩
    exact (Except.ok.inj h).symm
  · rintro ⟨view, hparse, hversion, rfl⟩
    obtain ⟨rfl, hlength, hsync, hdeclared, hcrc⟩ := parseWith_iff.mp hparse
    have hshort : ¬ view.bytes.length < frameHeaderBytes + frameChecksumBytes :=
      Nat.not_lt.mpr hlength
    have hdeclared : (u16At view.bytes 2).toNat = view.bytes.length := hdeclared
    have hcrc := (checksumMatches_iff_probe hlength).mp hcrc
    have hversion : ¬ view.bytes.getD 1 0 &&& 0x0f ≠ protocolVersion := not_not.mpr hversion
    simp only [decodeFrameWith, if_neg hshort, hsync, Bool.not_true, Bool.false_eq_true, if_false,
      if_neg hversion, hdeclared, ne_eq, not_true_eq_false, false_or, hcrc]
    rfl

/-- What the probe decodes is what the simulator parses as a frame of the version. -/
lemma decodeFrame_iff {wireVersion : WireVersion} {bytes : List UInt8} {frame : DecodedFrame} :
    decodeFrame wireVersion bytes = .ok frame ↔
      ∃ view, parseFrame wireVersion bytes = .ok view ∧
        view.version = wireVersion.protocolVersion ∧ frame = .ofView view := by
  cases wireVersion with
  | v2 =>
    have hsync : v2ValidSync = WireV2.validSync := by
      funext first second
      exact v2ValidSync_eq first second
    rw [decodeFrame, decodeV2Frame, hsync, decodeFrameWith_iff]
    rfl
  | v3 =>
    have hsync : v3ValidSync = WireV3.validSync := by
      funext first second
      exact v3ValidSync_eq first second
    rw [decodeFrame, decodeV3Frame, hsync, decodeFrameWith_iff]
    rfl

/-- On every byte string the probe and the simulator agree, with everything that they read from a
frame of the version. -/
theorem readers_agree (wireVersion : WireVersion) (bytes : List UInt8) :
    (decodeFrame wireVersion bytes).toOption =
      ((parseFrame wireVersion bytes).toOption.filter
        (·.version = wireVersion.protocolVersion)).map DecodedFrame.ofView := by
  ext frame
  rw [toOption_eq_some, decodeFrame_iff, Option.map_eq_some_iff]
  refine exists_congr fun view => ?_
  rw [Option.filter_eq_some_iff, toOption_eq_some, decide_eq_true_eq, and_assoc,
    eq_comm (a := frame)]

/-- The second byte of a frame of the version tells its type. -/
def Carries (wireVersion : WireVersion) (frameType : UInt8) : Prop :=
  let second := (frameType <<< 4) ||| wireVersion.protocolVersion
  (match wireVersion with
    | .v2 => WireV2.validSync syncByte second = true
    | .v3 => WireV3.validSync syncByte second = true) ∧
    second &&& 0x0f = wireVersion.protocolVersion ∧ second >>> 4 = frameType

instance decidableCarries (wireVersion : WireVersion) (frameType : UInt8) :
    Decidable (Carries wireVersion frameType) := by
  cases wireVersion <;> exact inferInstanceAs (Decidable (_ ∧ _ ∧ _))

/-- The probe finds the parts of a frame that is written. -/
lemma decodeFrame_frameWith {v : WireVersion} {q frameType : UInt8}
    {i : UInt16} {timestamp : Timestamp} {body : List UInt8}
    (hcarries : Carries v frameType) (hfracsec : timestamp.fracsec < 2 ^ 24)
    (hsize : minFrameBytes + body.length ≤ 65535) :
    decodeFrame v (frameWith v.protocolVersion q frameType i
        timestamp body) = .ok ⟨frameType, i, timestamp, q, body⟩ := by
  obtain ⟨hsync, hversion, htype⟩ := hcarries
  have enough : minFrameBytes ≤ (frameWith v.protocolVersion q frameType i
      timestamp body).length := by
    rw [frameWith_length]
    exact Nat.le_add_right _ _
  refine decodeFrame_iff.mpr ⟨⟨_, enough⟩, ?_, hversion, ?_⟩
  · cases v with
    | v2 => exact parseWith_frameWith hsync hsize
    | v3 => exact parseWith_frameWith hsync hsize
  · rw [DecodedFrame.ofView, frameWith_idcode, frameWith_timestamp hfracsec, frameWith_body,
      FrameView.frameType]
    exact congrArg (DecodedFrame.mk · i timestamp q body) htype.symm

end Probe

end PmuSimulator
