import Mathlib
import PmuSimulator.Wire.Envelope
import PmuSimulator.Wire.V2
import PmuSimulator.Wire.V3

/-!
# Commands back and forth

`encode_command` and `parse` followed by `parse_command` undo each other. What the two versions
share is proved of any codec whose constants fit together; each version is such a codec.
-/

namespace PmuSimulator

/-- `u32::from_be_bytes`. -/
def u32FromBeBytes (b₀ b₁ b₂ b₃ : UInt8) : UInt32 :=
  UInt32.ofNat (((b₀.toNat * 256 + b₁.toNat) * 256 + b₂.toNat) * 256 + b₃.toNat)

/-- `timestamp`: the fraction of a second has 24 bits. -/
def FrameView.timestamp (frame : FrameView) : Timestamp where
  soc := u32FromBeBytes (frame.bytes.getD 6 0) (frame.bytes.getD 7 0) (frame.bytes.getD 8 0)
    (frame.bytes.getD 9 0)
  fracsec := u32FromBeBytes 0 (frame.bytes.getD 11 0) (frame.bytes.getD 12 0)
    (frame.bytes.getD 13 0)

/-- The constants of a wire version, with what makes its commands unambiguous. -/
structure CommandCodec (κ : Type) where
  protocolVersion : UInt8
  quality : UInt8
  frameTypeCommand : UInt8
  validSync : UInt8 → UInt8 → Bool
  commandOfCode : UInt16 → Option κ
  code : κ → UInt16
  validSync_iff : ∀ first,
    validSync first ((frameTypeCommand <<< 4) ||| protocolVersion) = true ↔ first = syncByte
  kind_iff : ∀ byte : UInt8, (byte &&& 0x0f = protocolVersion ∧ byte >>> 4 = frameTypeCommand) ↔
    byte = (frameTypeCommand <<< 4) ||| protocolVersion
  commandOfCode_iff : ∀ command value, commandOfCode value = some command ↔ code command = value

/-! ### Timestamps -/

lemma u32FromBeBytes_toNat (b₀ b₁ b₂ b₃ : UInt8) : (u32FromBeBytes b₀ b₁ b₂ b₃).toNat =
    ((b₀.toNat * 256 + b₁.toNat) * 256 + b₂.toNat) * 256 + b₃.toNat := by
  have h₀ := b₀.toNat_lt
  have h₁ := b₁.toNat_lt
  have h₂ := b₂.toNat_lt
  have h₃ := b₃.toNat_lt
  exact UInt32.toNat_ofNat_of_lt' (by simp only [UInt32.size]; omega)

lemma u32FromBeBytes_inj {b₀ b₁ b₂ b₃ : UInt8} {v : UInt32} :
    u32FromBeBytes b₀ b₁ b₂ b₃ = v ↔ [b₀, b₁, b₂, b₃] = u32ToBeBytes v := by
  have hv := v.toNat_lt
  have h₀ := b₀.toNat_lt
  have h₁ := b₁.toNat_lt
  have h₂ := b₂.toNat_lt
  have h₃ := b₃.toNat_lt
  have hbyte : ∀ (b : UInt8) (n : Nat), n < 256 → (b = UInt8.ofNat n ↔ b.toNat = n) := by
    intro b n hn
    rw [← UInt8.toNat_inj, UInt8.toNat_ofNat_of_lt' (by simpa only [UInt8.size] using hn)]
  rw [u32ToBeBytes, ← UInt32.toNat_inj, u32FromBeBytes_toNat]
  simp only [List.cons.injEq, and_true]
  rw [hbyte b₀ _ (by omega), hbyte b₁ _ (by omega), hbyte b₂ _ (by omega), hbyte b₃ _ (by omega)]
  omega

/-- The fraction of a second by the bytes it is written to. -/
lemma fracsec_iff {b₁ b₂ b₃ : UInt8} {v : UInt32} :
    u32FromBeBytes 0 b₁ b₂ b₃ = v ↔ v < 2 ^ 24 ∧ [b₁, b₂, b₃] = (u32ToBeBytes v).tail := by
  have htop : (0 : UInt8) = UInt8.ofNat (v.toNat / 16777216) ↔ v < 2 ^ 24 := by
    have hv := v.toNat_lt
    rw [← UInt8.toNat_inj, UInt8.toNat_ofNat_of_lt' (by simp only [UInt8.size]; omega),
      UInt32.lt_iff_toNat_lt]
    change 0 = v.toNat / 16777216 ↔ v.toNat < 16777216
    omega
  rw [u32FromBeBytes_inj, u32ToBeBytes, List.cons.injEq, htop]
  rfl

/-! ### Codecs -/

lemma parseCommandWith_iff {κ : Type} {protocolVersion frameTypeCommand : UInt8}
    {command : UInt16 → Option κ} {frame : FrameView} {idcode : UInt16} {k : κ} :
    frame.parseCommandWith protocolVersion frameTypeCommand command = .ok (idcode, k) ↔
      (frame.version = protocolVersion ∧ frame.frameType = frameTypeCommand) ∧
        frame.bytes.length = 18 ∧ command (u16At frame.bytes 14) = some k ∧
          frame.idcode = idcode := by
  unfold FrameView.parseCommandWith
  constructor
  · intro h
    split_ifs at h with hversion htype hlength
    cases hcode : command (u16At frame.bytes 14) with
    | none => simp [hcode] at h
    | some command =>
      rw [hcode] at h
      simp only [Except.ok.injEq, Prod.mk.injEq] at h
      exact ⟨⟨not_not.mp hversion, not_not.mp htype⟩, not_not.mp hlength, by rw [h.2], h.1⟩
  · rintro ⟨⟨hversion, htype⟩, hlength, hcode, hid⟩
    rw [if_neg (not_not.mpr hversion), if_neg (not_not.mpr htype), if_neg (not_not.mpr hlength),
      hcode, hid]

namespace CommandCodec

variable {κ : Type} (codec : CommandCodec κ)

/-- The bytes are taken for a command, and what is read from them. -/
def Decodes (bytes : List UInt8) (idcode : UInt16) (command : κ) (timestamp : Timestamp) : Prop :=
  ∃ frame, FrameView.parseWith codec.validSync bytes 65535 = .ok frame ∧
    frame.parseCommandWith codec.protocolVersion codec.frameTypeCommand codec.commandOfCode =
      .ok (idcode, command) ∧ frame.timestamp = timestamp

/-- The bytes of a command, with any byte before the fraction of the second. -/
def commandFrame (quality : UInt8) (idcode : UInt16) (command : κ) (timestamp : Timestamp) :
    List UInt8 :=
  frameWith codec.protocolVersion quality codec.frameTypeCommand idcode timestamp
    (u16ToBeBytes (codec.code command))

/-- A command frame by its bytes. -/
lemma eq_commandFrame_iff {b₀ b₁ b₂ b₃ b₄ b₅ b₆ b₇ b₈ b₉ quality b₁₁ b₁₂ b₁₃ b₁₄ b₁₅ hi lo : UInt8}
    {idcode : UInt16} {command : κ} {timestamp : Timestamp} :
    [b₀, b₁, b₂, b₃, b₄, b₅, b₆, b₇, b₈, b₉, quality, b₁₁, b₁₂, b₁₃, b₁₄, b₁₅, hi, lo] =
        codec.commandFrame quality idcode command timestamp ↔
      b₀ = syncByte ∧ b₁ = (codec.frameTypeCommand <<< 4) ||| codec.protocolVersion ∧
        [b₂, b₃] = u16ToBeBytes 18 ∧ [b₄, b₅] = u16ToBeBytes idcode ∧
        [b₆, b₇, b₈, b₉] = u32ToBeBytes timestamp.soc ∧
        [b₁₁, b₁₂, b₁₃] = (u32ToBeBytes timestamp.fracsec).tail ∧
        [b₁₄, b₁₅] = u16ToBeBytes (codec.code command) ∧
        [hi, lo] = u16ToBeBytes (crc16Ccitt
          [b₀, b₁, b₂, b₃, b₄, b₅, b₆, b₇, b₈, b₉, quality, b₁₁, b₁₂, b₁₃, b₁₄, b₁₅]) := by
  let payload :=
    [b₀, b₁, b₂, b₃, b₄, b₅, b₆, b₇, b₈, b₉, quality, b₁₁, b₁₂, b₁₃, b₁₄, b₁₅]
  let payload' := headerWith codec.protocolVersion quality codec.frameTypeCommand 18 idcode
    timestamp ++ u16ToBeBytes (codec.code command)
  have hpayload : payload = payload' ↔
      b₀ = syncByte ∧ b₁ = (codec.frameTypeCommand <<< 4) ||| codec.protocolVersion ∧
        [b₂, b₃] = u16ToBeBytes 18 ∧ [b₄, b₅] = u16ToBeBytes idcode ∧
        [b₆, b₇, b₈, b₉] = u32ToBeBytes timestamp.soc ∧
        [b₁₁, b₁₂, b₁₃] = (u32ToBeBytes timestamp.fracsec).tail ∧
        [b₁₄, b₁₅] = u16ToBeBytes (codec.code command) := by
    simp only [payload, payload', headerWith, u16ToBeBytes, u32ToBeBytes, List.cons_append,
      List.nil_append, List.tail_cons, List.cons.injEq, and_true, and_assoc, true_and]
    rfl
  have hsplit : payload ++ [hi, lo] = payload' ++ u16ToBeBytes (crc16Ccitt payload') ↔
      payload = payload' ∧ [hi, lo] = u16ToBeBytes (crc16Ccitt payload) := by
    constructor
    · intro h
      obtain ⟨hfront, hback⟩ := List.append_inj h rfl
      exact ⟨hfront, hfront ▸ hback⟩
    · rintro ⟨hfront, hback⟩
      rw [← hfront, ← hback]
  refine Iff.trans hsplit ?_
  rw [hpayload]
  simp only [and_assoc]
  rfl

/-- What decoding checks and reads, by the places in the frame. -/
lemma decodes_fields {bytes : List UInt8} {idcode : UInt16} {command : κ}
    {timestamp : Timestamp} :
    codec.Decodes bytes idcode command timestamp ↔
      bytes.length = 18 ∧ bytes.getD 0 0 = syncByte ∧
        bytes.getD 1 0 = (codec.frameTypeCommand <<< 4) ||| codec.protocolVersion ∧
        u16At bytes 2 = 18 ∧ u16At bytes 4 = idcode ∧
        u32FromBeBytes (bytes.getD 6 0) (bytes.getD 7 0) (bytes.getD 8 0) (bytes.getD 9 0) =
          timestamp.soc ∧
        u32FromBeBytes 0 (bytes.getD 11 0) (bytes.getD 12 0) (bytes.getD 13 0) =
          timestamp.fracsec ∧
        codec.code command = u16At bytes 14 ∧ checksumMatches bytes = true := by
  constructor
  · rintro ⟨frame, hparse, hcommand, rfl⟩
    obtain ⟨rfl, -, hsync, hsize, hcrc⟩ := parseWith_iff.mp hparse
    obtain ⟨hkind, hlength, hcode, rfl⟩ := parseCommandWith_iff.mp hcommand
    have hbyte := (codec.kind_iff _).mp hkind
    rw [hbyte, codec.validSync_iff] at hsync
    have hsize : u16At frame.bytes 2 = 18 := UInt16.toNat_inj.mp (hsize.trans hlength)
    exact ⟨hlength, hsync, hbyte, hsize, rfl, rfl, rfl, (codec.commandOfCode_iff _ _).mp hcode,
      hcrc⟩
  · rintro ⟨hlength, hsync, hbyte, hsize, hid, hsoc, hfracsec, hcode, hcrc⟩
    have henough : 16 ≤ bytes.length := by omega
    refine ⟨⟨bytes, henough⟩, parseWith_iff.mpr ⟨rfl, henough, ?_, ?_, hcrc⟩,
      parseCommandWith_iff.mpr ⟨(codec.kind_iff _).mpr hbyte, hlength,
        (codec.commandOfCode_iff _ _).mpr hcode, hid⟩, ?_⟩
    · rw [hbyte, codec.validSync_iff]
      exact hsync
    · rw [FrameView.declaredSize, hsize, hlength]
      rfl
    · exact congrArg₂ Timestamp.mk hsoc hfracsec

/-- Decoding finds the frames of commands and nothing else. -/
lemma decodes_iff {quality : UInt8} {bytes : List UInt8} {idcode : UInt16}
    {command : κ} {timestamp : Timestamp} (hquality : bytes.getD 10 0 = quality) :
    codec.Decodes bytes idcode command timestamp ↔
      timestamp.fracsec < 2 ^ 24 ∧ bytes = codec.commandFrame quality idcode command timestamp := by
  rw [decodes_fields]
  by_cases hlength : bytes.length = 18
  · match bytes, hlength, hquality with
    | [b₀, b₁, b₂, b₃, b₄, b₅, b₆, b₇, b₈, b₉, _, b₁₁, b₁₂, b₁₃, b₁₄, b₁₅, hi, lo], hlength, rfl =>
      have hcrc := (checksumMatches_append
        [b₀, b₁, b₂, b₃, b₄, b₅, b₆, b₇, b₈, b₉, quality, b₁₁, b₁₂, b₁₃, b₁₄, b₁₅] hi lo).trans
        (eq_comm.trans u16FromBeBytes_inj)
      rw [eq_commandFrame_iff, ← u16FromBeBytes_inj, ← u16FromBeBytes_inj, ← u16FromBeBytes_inj,
        ← u32FromBeBytes_inj]
      constructor
      · rintro ⟨-, h₀, h₁, h₂, hid, hsoc, hfracsec, hcode, h₁₆⟩
        obtain ⟨hsmall, htail⟩ := fracsec_iff.mp hfracsec
        exact ⟨hsmall, h₀, h₁, h₂, hid, hsoc, htail, hcode.symm, hcrc.mp h₁₆⟩
      · rintro ⟨hsmall, h₀, h₁, h₂, hid, hsoc, htail, hcode, h₁₆⟩
        exact ⟨hlength, h₀, h₁, h₂, hid, hsoc, fracsec_iff.mpr ⟨hsmall, htail⟩, hcode.symm,
          hcrc.mpr h₁₆⟩
  · have hne : bytes ≠ codec.commandFrame quality idcode command timestamp := by
      rintro rfl
      exact hlength (frameWith_length _ _ _ _ _ _)
    simp only [hlength, hne, false_and, and_false]

end CommandCodec

/-! ### The two versions -/

lemma WireV2.commandOfCode_iff (command : WireV2.Command) (value : UInt16) :
    WireV2.commandOfCode value = some command ↔ command.code = value := by
  constructor
  · intro h
    unfold WireV2.commandOfCode at h
    split_ifs at h with h₁ h₂ h₃ h₄ h₅ <;> obtain rfl := Option.some.inj h
    · exact h₁.symm
    · exact h₂.symm
    · exact h₃.symm
    · exact h₄.symm
    · exact h₅.symm
  · rintro rfl
    cases command <;> rfl

lemma WireV3.commandOfCode_iff (command : WireV3.Command) (value : UInt16) :
    WireV3.commandOfCode value = some command ↔ command.code = value := by
  constructor
  · intro h
    unfold WireV3.commandOfCode at h
    split_ifs at h with h₁ h₂ h₃ h₄ <;> obtain rfl := Option.some.inj h
    · exact h₁.symm
    · exact h₂.symm
    · exact h₃.symm
    · exact h₄.symm
  · rintro rfl
    cases command <;> rfl

def v2Codec : CommandCodec WireV2.Command where
  protocolVersion := v2ProtocolVersion
  quality := WireV2.messageTimeQualityUnknown
  frameTypeCommand := WireV2.frameTypeCommand
  validSync := WireV2.validSync
  commandOfCode := WireV2.commandOfCode
  code := WireV2.Command.code
  validSync_iff first := by
    rw [WireV2.validSync, Bool.and_eq_true, beq_iff_eq]
    exact and_iff_left rfl
  kind_iff := forall_uint8 (by decide +kernel)
  commandOfCode_iff := WireV2.commandOfCode_iff

def v3Codec : CommandCodec WireV3.Command where
  protocolVersion := v3ProtocolVersion
  quality := 0
  frameTypeCommand := WireV3.frameTypeCommand
  validSync := WireV3.validSync
  commandOfCode := WireV3.commandOfCode
  code := WireV3.Command.code
  validSync_iff _ := beq_iff_eq
  kind_iff := forall_uint8 (by decide +kernel)
  commandOfCode_iff := WireV3.commandOfCode_iff

/-- Encoding and decoding of commands undo each other; the byte before the fraction of a second is
written by the encoder and read by nobody. -/
structure CommandRoundTrip {κ : Type} (parse : List UInt8 → Except FrameError FrameView)
    (parseCommand : FrameView → Except FrameError (UInt16 × κ))
    (encodeCommand : UInt16 → κ → Timestamp → Except Failure (List UInt8)) (quality : UInt8) :
    Prop where
  parse_encode : ∀ idcode command timestamp, timestamp.fracsec < 2 ^ 24 →
    ∃ bytes frame, encodeCommand idcode command timestamp = .ok bytes ∧
      parse bytes = .ok frame ∧ parseCommand frame = .ok (idcode, command) ∧
        frame.timestamp = timestamp
  encode_parse : ∀ bytes frame idcode command, parse bytes = .ok frame →
    parseCommand frame = .ok (idcode, command) → bytes.getD 10 0 = quality →
      encodeCommand idcode command frame.timestamp = .ok bytes

lemma CommandCodec.roundTrip {κ : Type} (codec : CommandCodec κ) :
    CommandRoundTrip (fun bytes => FrameView.parseWith codec.validSync bytes 65535)
      (FrameView.parseCommandWith codec.protocolVersion codec.frameTypeCommand codec.commandOfCode)
      (fun idcode command timestamp =>
        .ok (codec.commandFrame codec.quality idcode command timestamp)) codec.quality where
  parse_encode idcode command timestamp hsmall := by
    obtain ⟨frame, hparse, hcommand, htime⟩ :=
      (codec.decodes_iff rfl).mpr ⟨hsmall, Eq.refl (codec.commandFrame codec.quality _ _ _)⟩
    exact ⟨_, frame, rfl, hparse, hcommand, htime⟩
  encode_parse bytes frame idcode command hparse hcommand hquality := by
    have hdecodes : codec.Decodes bytes idcode command frame.timestamp :=
      ⟨frame, hparse, hcommand, rfl⟩
    rw [((codec.decodes_iff hquality).mp hdecodes).2]

lemma versions_apart {bytes : List UInt8} {frame frame' : FrameView} {idcode idcode' : UInt16}
    {command : WireV2.Command} {command' : WireV3.Command} (h : WireV2.parse bytes = .ok frame)
    (hcommand : WireV2.parseCommand frame = .ok (idcode, command))
    (h' : WireV3.parse bytes = .ok frame') :
    WireV3.parseCommand frame' ≠ .ok (idcode', command') := by
  intro hcommand'
  obtain ⟨hbytes, -⟩ := parseWith_iff.mp h
  obtain ⟨hbytes', -⟩ := parseWith_iff.mp h'
  obtain ⟨⟨hversion, -⟩, -⟩ := parseCommandWith_iff.mp hcommand
  obtain ⟨⟨hversion', -⟩, -⟩ := parseCommandWith_iff.mp hcommand'
  rw [FrameView.version, hbytes'] at hversion'
  rw [FrameView.version, hbytes, hversion'] at hversion
  cases hversion

/-- Commands survive the wire in both versions, and no bytes are a command in both. -/
theorem command_codec :
    CommandRoundTrip WireV2.parse WireV2.parseCommand WireV2.encodeCommand
        WireV2.messageTimeQualityUnknown ∧
      CommandRoundTrip WireV3.parse WireV3.parseCommand WireV3.encodeCommand 0 ∧
      ∀ bytes frame frame' idcode idcode' command command',
        WireV2.parse bytes = .ok frame → WireV2.parseCommand frame = .ok (idcode, command) →
          WireV3.parse bytes = .ok frame' →
            WireV3.parseCommand frame' ≠ .ok (idcode', command') := by
  refine ⟨v2Codec.roundTrip, v3Codec.roundTrip, ?_⟩
  intro bytes frame frame' idcode idcode' command command' h hcommand h'
  exact versions_apart h hcommand h'

end PmuSimulator
