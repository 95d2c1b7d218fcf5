import Mathlib
import PmuSimulator.Probe.Frames
import PmuSimulator.Server.Delivery

/-!
# The formats of the simulator, as the probe reads them

What an accepted profile is compiled to can be encoded, and the probe decodes what is encoded: the
bodies are the fields its decoders take, one behind the other and to their end.
-/

namespace PmuSimulator

namespace Probe

open Decoder (Reads Fails check times)

/-- A body that fits the memory. -/
def Addressable (body : List UInt8) : Prop := body.length ≤ u64Max

/-! ### Fields -/

lemma reads_takeBytes (field : List UInt8) {length : Nat} (h : field.length = length) :
    Reads Addressable (takeBytes length) field field := by
  subst h
  intro front rest hbody
  have hstop : front.length + field.length ≤ (front ++ field ++ rest).length := by
    rw [List.length_append, List.length_append]
    exact Nat.le_add_right _ _
  have hadd : checkedAdd front.length field.length = some (front.length + field.length) :=
    checkedAdd_eq_some.mpr ⟨hstop.trans hbody, rfl⟩
  have hdrop : (front ++ field ++ rest).drop front.length = field ++ rest := by
    rw [List.append_assoc, List.drop_left]
  change takeBytes field.length (front ++ field ++ rest) front.length = _
  rw [takeBytes, hadd, @List.length_append _ front field]
  simp only [if_pos hstop, hdrop, List.take_left]

lemma reads_takeU16 (v : UInt16) : Reads Addressable takeU16 (u16ToBeBytes v) v :=
  (reads_takeBytes _ rfl).map (congrArg pure (u16FromBeBytes_toBeBytes v))

lemma reads_takeI16 (v : UInt16) : Reads Addressable takeI16 (u16ToBeBytes v) v.toInt16 :=
  (reads_takeBytes _ rfl).map (congrArg (pure ∘ UInt16.toInt16) (u16FromBeBytes_toBeBytes v))

lemma reads_takeU32 (v : UInt32) : Reads Addressable takeU32 (u32ToBeBytes v) v :=
  (reads_takeBytes _ rfl).map (congrArg pure (u32FromBeBytes_inj.mpr rfl))

lemma reads_orThrow {α : Type} {value : Option α} {a : α} {failure : ProbeFailure}
    (h : value = some a) : Reads Addressable (orThrow value failure) [] a := by
  subst h
  exact .pure a

/-- A name behind its length. -/
def IndexedName (bytes : List UInt8) : Prop :=
  ∃ name : String, name.utf8ByteSize ≤ 255 ∧
    bytes = UInt8.ofNat name.utf8ByteSize :: utf8Bytes name

lemma IndexedName.reads {bytes : List UInt8} (h : IndexedName bytes) :
    ∃ name, Reads Addressable takeName bytes name := by
  obtain ⟨name, hsize, rfl⟩ := h
  have hlength : (utf8Bytes name).length = (UInt8.ofNat name.utf8ByteSize).toNat := by
    rw [UInt8.toNat_ofNat', utf8Bytes_length]
    exact (Nat.mod_eq_of_lt (Nat.lt_succ_iff.mpr hsize)).symm
  have hbytes : Reads Addressable (takeBytes (UInt8.ofNat name.utf8ByteSize).toNat >>= fun bytes =>
      orThrow (fromUtf8 bytes) (.probe "configuration name is not UTF-8")) (utf8Bytes name ++ [])
      name := (reads_takeBytes _ hlength).bind (reads_orThrow (fromUtf8_utf8Bytes name))
  rw [List.append_nil] at hbytes
  exact ⟨name, (reads_takeBytes [UInt8.ofNat name.utf8ByteSize] rfl).bind
    ((reads_orThrow rfl).bind hbytes)⟩

/-- A name filled up to sixteen bytes. -/
def FixedName (bytes : List UInt8) : Prop := bytes.length = 16 ∧ bytes.all isPrintable = true

lemma FixedName.reads {bytes : List UInt8} (h : FixedName bytes) (message : String) :
    Reads Addressable (takeFixedName message) bytes () :=
  (reads_takeBytes _ h.1).map (if_pos h.2)

/-- A unit of phasors: its kind, and a count that is not zero. -/
def Phunit (phunit : UInt32) : Prop := ¬(phunit >>> 24 > 1 ∨ phunit &&& 0x00ffffff = 0)

lemma Phunit.reads {phunit : UInt32} (h : Phunit phunit) :
    Reads Addressable takePhunit (u32ToBeBytes phunit) () :=
  (reads_takeU32 phunit).map (if_pos h)

/-! ### Endpoints -/

/-- What the encoders need of an endpoint, and the probe checks of it. -/
structure Readable (e : EndpointDescriptor) : Prop where
  timeBase : e.timeBase ≠ 0 ∧ e.timeBase >>> 24 = 0
  pmuId : ¬(e.pmuId = 0 ∨ e.pmuId = 0xffff)
  dataRateHz : e.dataRateHz ≠ 0
  multiple : e.timeBase % e.dataRateHz.toUInt32 = 0
  protocolVersion : e.protocolVersion = e.wireVersion.protocolVersion
  v2 : e.wireVersion = .v2 → ∃ metadata, e.v2 = some metadata ∧ FixedName metadata.stationName ∧
    metadata.channelNames.length = 6 ∧ (∀ name ∈ metadata.channelNames, FixedName name) ∧
    metadata.phunits.length = 6 ∧ ∀ phunit ∈ metadata.phunits, Phunit phunit
  v3 : e.wireVersion = .v3 → IndexedName e.pdcName ∧ IndexedName e.pmuName ∧
    e.globalPmuId.length = 16 ∧
    e.channelNames.length = 8 ∧ ∀ name ∈ e.channelNames, IndexedName name

/-! ### Configurations -/

section TimeBase

variable {label : String} {timeBase : UInt32} {expectedRateHz : UInt16}

lemma reads_checkTimeBase (hbase : timeBase ≠ 0 ∧ timeBase >>> 24 = 0) (hrate : expectedRateHz ≠ 0)
    (hmultiple : timeBase % expectedRateHz.toUInt32 = 0) :
    Reads Addressable (checkTimeBase label timeBase expectedRateHz) [] () := by
  have hvalid : ¬(timeBase = 0 ∨ timeBase >>> 24 ≠ 0) :=
    not_or.mpr ⟨hbase.1, not_not.mpr hbase.2⟩
  simp only [checkTimeBase, if_neg hvalid, if_neg hrate]
  exact .check _ hmultiple

/-- A rate that does not divide the base is refused, and one of zero divides nothing. -/
lemma fails_checkTimeBase
    (h : ¬(expectedRateHz ≠ 0 ∧ timeBase % expectedRateHz.toUInt32 = 0)) :
    ∃ failure, Fails Addressable (checkTimeBase label timeBase expectedRateHz) [] failure := by
  by_cases hvalid : timeBase = 0 ∨ timeBase >>> 24 ≠ 0
  · simp only [checkTimeBase, if_pos hvalid]
    exact ⟨_, fun _ _ _ => rfl⟩
  by_cases hrate : expectedRateHz = 0
  · simp only [checkTimeBase, if_neg hvalid, if_pos hrate]
    exact ⟨_, fun _ _ _ => rfl⟩
  · have hmultiple : ¬ timeBase % expectedRateHz.toUInt32 = 0 := fun hm => h ⟨hrate, hm⟩
    simp only [checkTimeBase, if_neg hvalid, if_neg hrate, check, if_neg hmultiple]
    exact ⟨_, fun _ _ _ => rfl⟩

end TimeBase

variable {e : EndpointDescriptor} {expectedRateHz : UInt16}

/-- The scales of the phasors of a V3 configuration. -/
def phasorScales (e : EndpointDescriptor) : List UInt8 :=
  (List.range phasorCount).flatMap fun channel =>
    [0, 0, WireV3.phaseType channel (channel ≥ 3), 0] ++
      WireV3.f32Bytes (if channel < 3 then e.voltageScale else e.currentScale) ++
      WireV3.f32Bytes 0.0 ++ WireV3.f32Bytes e.voltageClass

lemma pmuFlag_attributes (nominalFrequencyHz : UInt16) :
    WireV3.pmuFlag nominalFrequencyHz &&& ((1 : UInt16) <<< 12) = 0 := by
  unfold WireV3.pmuFlag
  split_ifs <;> decide

section Regrouping

variable (a b c d rest : List UInt8)

lemma append_two : a ++ (b ++ rest) = (a ++ b) ++ rest := (List.append_assoc _ _ _).symm

lemma append_three : a ++ (b ++ (c ++ rest)) = (a ++ b ++ c) ++ rest := by
  rw [append_two, append_two]

lemma append_four : a ++ (b ++ (c ++ (d ++ rest))) = (a ++ b ++ c ++ d) ++ rest := by
  rw [append_three, append_two]

end Regrouping

lemma reads_v3Configuration (h : Readable e) (hversion : e.wireVersion = .v3)
    (hrate : expectedRateHz ≠ 0) (hmultiple : e.timeBase % expectedRateHz.toUInt32 = 0) :
    Reads Addressable (v3ConfigurationFields expectedRateHz) (WireV3.configurationBody e)
      ⟨e.timeBase, e.pmuId, [e.dataRateHz.toInt16, e.dataRateHz.toInt16]⟩ := by
  obtain ⟨⟨pdcName, hpdc⟩, ⟨pmuName, hpmu⟩, hglobal, hchannels, hnames⟩ :
      (∃ name, Reads Addressable takeName e.pdcName name) ∧
        (∃ name, Reads Addressable takeName e.pmuName name) ∧ e.globalPmuId.length = 16 ∧
          e.channelNames.length = 8 ∧
            ∀ name ∈ e.channelNames, ∃ text, Reads Addressable takeName name text := by
    obtain ⟨hpdc, hpmu, hglobal, hchannels, hnames⟩ := h.v3 hversion
    exact ⟨hpdc.reads, hpmu.reads, hglobal, hchannels, fun name hname => (hnames name hname).reads⟩
  have hprotocol : e.protocolVersion = v3ProtocolVersion := by
    rw [h.protocolVersion, hversion]
    rfl
  have htimes := Reads.times hnames
  rw [hchannels] at htimes
  unfold v3ConfigurationFields WireV3.configurationBody
  simp only [List.append_assoc]
  refine (reads_takeU16 0).bind (.check_bind rfl ?_)
  refine (reads_takeU32 e.timeBase).bind ?_
  refine (reads_checkTimeBase h.timeBase hrate hmultiple).skip ?_
  refine hpdc.bind ((reads_takeU16 1).bind (.check_bind rfl ?_))
  refine hpmu.bind ((reads_takeU16 e.pmuId).bind (.check_bind h.pmuId ?_))
  refine (reads_takeU16 _).bind (.check_bind (congrArg UInt8.toUInt16 hprotocol) ?_)
  refine (reads_takeBytes _ hglobal).bind ((reads_takeU16 1).bind (.check_bind rfl ?_))
  refine (reads_takeU16 6).bind ((reads_takeU16 0).bind ((reads_takeU16 1).bind
    ((reads_takeU16 1).bind ((reads_takeU16 0).bind (.check_bind rfl ?_)))))
  refine htimes.bind ?_
  refine (reads_takeBytes (phasorScales e) rfl).bind ?_
  rw [append_four]
  refine (reads_takeBytes _ rfl).bind ?_
  rw [append_three]
  refine (reads_takeBytes _ rfl).bind ?_
  refine (reads_takeU16 _).bind (.check_bind (pmuFlag_attributes e.nominalFrequencyHz) ?_)
  rw [append_two]
  refine (reads_takeBytes _ rfl).bind ?_
  refine (reads_takeI16 _).bind ((reads_takeU16 0).bind ?_)
  exact (reads_takeI16 _).bind ((reads_takeU16 0).map rfl)

/-- Where the rate does not divide the base, decoding ends there. -/
lemma fails_v3Configuration
    (h : ¬(expectedRateHz ≠ 0 ∧ e.timeBase % expectedRateHz.toUInt32 = 0)) :
    ∃ field failure, field <+: WireV3.configurationBody e ∧
      Fails Addressable (v3ConfigurationFields expectedRateHz) field failure := by
  obtain ⟨failure, hfails⟩ := fails_checkTimeBase h
  refine ⟨_, failure, ?_, (reads_takeU16 0).bind_fails (Reads.skip_fails (.check _ rfl)
    ((reads_takeU32 e.timeBase).bind_fails (hfails.bind _)))⟩
  unfold WireV3.configurationBody
  simp only [List.append_assoc, List.append_nil]
  exact (List.prefix_append_right_inj _).mpr (List.prefix_append _ _)

lemma reads_v2Configuration (h : Readable e) {metadata : V2EndpointMetadata}
    (hmetadata : e.v2 = some metadata) (hversion : e.wireVersion = .v2)
    (hrate : expectedRateHz ≠ 0) (hmultiple : e.timeBase % expectedRateHz.toUInt32 = 0) :
    Reads Addressable (v2ConfigurationFields expectedRateHz)
      (WireV2.configurationBody e metadata)
      ⟨e.timeBase, e.pmuId, [e.dataRateHz.toInt16]⟩ := by
  obtain ⟨metadata', hmetadata', hstation, hchannels, hnames, hcount, hphunits⟩ := h.v2 hversion
  obtain rfl : metadata = metadata' := Option.some.inj (hmetadata.symm.trans hmetadata')
  have htimes := Reads.times fun name hname =>
    ⟨_, (hnames name hname).reads "V2 channel name is not fixed-width ASCII"⟩
  have hphunits : ∀ field ∈ metadata.phunits.map u32ToBeBytes,
      ∃ a, Reads Addressable takePhunit field a := by
    intro field hfield
    obtain ⟨phunit, hphunit, rfl⟩ := List.mem_map.mp hfield
    exact ⟨_, (hphunits phunit hphunit).reads⟩
  have htimes' := Reads.times hphunits
  rw [hchannels] at htimes
  rw [List.length_map, hcount] at htimes'
  have hnominal : ¬(if e.nominalFrequencyHz = 50 then (1 : UInt16) else 0) > 1 := by
    split_ifs <;> decide
  unfold v2ConfigurationFields WireV2.configurationBody
  rw [List.flatMap_def]
  simp only [List.append_assoc]
  refine (reads_takeU32 e.timeBase).bind ?_
  refine (reads_checkTimeBase h.timeBase hrate hmultiple).skip ?_
  refine (reads_takeU16 1).bind (.check_bind rfl ?_)
  refine (hstation.reads _).bind ?_
  refine (reads_takeU16 e.pmuId).bind (.check_bind h.pmuId ?_)
  refine (reads_takeU16 1).bind (.check_bind rfl ?_)
  refine (reads_takeU16 6).bind ((reads_takeU16 0).bind ((reads_takeU16 0).bind
    (.check_bind rfl ?_)))
  refine htimes.bind (htimes'.bind ?_)
  refine (reads_takeU16 _).bind (.check_bind hnominal ?_)
  exact (reads_takeU16 0).bind ((reads_takeI16 _).map rfl)

lemma fails_v2Configuration {metadata : V2EndpointMetadata}
    (h : ¬(expectedRateHz ≠ 0 ∧ e.timeBase % expectedRateHz.toUInt32 = 0)) :
    ∃ field failure, field <+: WireV2.configurationBody e metadata ∧
      Fails Addressable (v2ConfigurationFields expectedRateHz) field failure := by
  obtain ⟨failure, hfails⟩ := fails_checkTimeBase h
  refine ⟨_, failure, ?_, (reads_takeU32 e.timeBase).bind_fails (hfails.bind _)⟩
  unfold WireV2.configurationBody
  simp only [List.append_assoc, List.append_nil]
  exact List.prefix_append _ _

section Summarized

variable {message : String} {body : List UInt8} {fields : BodyDecoder ConfigurationFields}
  {summary : ConfigurationSummary}

lemma summarize_iff {found : ConfigurationFields} (h : Reads Addressable fields body found)
    (hbody : Addressable body) :
    summarize message body expectedRateHz fields = .ok summary ↔
      (∀ rate ∈ found.rates, rate = expectedRateHz.toInt16) ∧
        summary = ⟨found.timeBase, found.pmuId, expectedRateHz⟩ := by
  have hrates : (body.length ≠ body.length ∨
      found.rates.any (· ≠ expectedRateHz.toInt16) = true) ↔
        ¬∀ rate ∈ found.rates, rate = expectedRateHz.toInt16 := by
    simp
  simp only [summarize, h.whole hbody, ok_bind, hrates]
  by_cases hall : ∀ rate ∈ found.rates, rate = expectedRateHz.toInt16
  · rw [if_neg (not_not.mpr hall)]
    simp only [pure, Except.pure, Except.ok.injEq, and_iff_right hall, eq_comm]
  · rw [if_pos hall]
    simp [hall, throw, throwThe, MonadExceptOf.throw]

lemma summarize_fails {field : List UInt8} {failure : ProbeFailure} (hfront : field <+: body)
    (h : Fails Addressable fields field failure) (hbody : Addressable body) :
    summarize message body expectedRateHz fields ≠ .ok summary := by
  obtain ⟨rest, rfl⟩ := hfront
  simp only [summarize, h.whole hbody, error_bind]
  exact fun hok => by cases hok

end Summarized

lemma toInt16_inj {v v' : UInt16} : v.toInt16 = v'.toInt16 ↔ v = v' :=
  (Function.LeftInverse.injective UInt16.toUInt16_toInt16).eq_iff

/-- The probe takes a configuration at the rate of the endpoint, and at no other. -/
lemma decodeConfiguration_iff (decode : List UInt8 → Except ProbeFailure ConfigurationSummary)
    {message : String} {body : List UInt8} {fields : BodyDecoder ConfigurationFields}
    {rates : List Int16} {summary : ConfigurationSummary} (h : Readable e)
    (hdecode : decode body = summarize message body expectedRateHz fields)
    (hbody : Addressable body)
    (hrates : ∀ rate, (∀ r ∈ rates, r = rate) ↔ e.dataRateHz.toInt16 = rate)
    (hreads : expectedRateHz ≠ 0 → e.timeBase % expectedRateHz.toUInt32 = 0 →
      Reads Addressable fields body ⟨e.timeBase, e.pmuId, rates⟩)
    (hfails : ¬(expectedRateHz ≠ 0 ∧ e.timeBase % expectedRateHz.toUInt32 = 0) →
      ∃ field failure, field <+: body ∧ Fails Addressable fields field failure) :
    decode body = .ok summary ↔
      expectedRateHz = e.dataRateHz ∧ summary = ⟨e.timeBase, e.pmuId, expectedRateHz⟩ := by
  rw [hdecode]
  by_cases hdivides : expectedRateHz ≠ 0 ∧ e.timeBase % expectedRateHz.toUInt32 = 0
  · rw [summarize_iff (hreads hdivides.1 hdivides.2) hbody, hrates, toInt16_inj,
      eq_comm (a := e.dataRateHz)]
  · obtain ⟨field, failure, hfront, hfail⟩ := hfails hdivides
    refine iff_of_false (summarize_fails hfront hfail hbody) ?_
    rintro ⟨rfl, -⟩
    exact hdivides ⟨h.dataRateHz, h.multiple⟩

/-! ### Sizes -/

lemma IndexedName.length_le {bytes : List UInt8} (h : IndexedName bytes) :
    bytes.length ≤ 256 := by
  obtain ⟨name, hsize, rfl⟩ := h
  rw [List.length_cons, utf8Bytes_length]
  exact Nat.succ_le_succ hsize

lemma length_flatten_le {bound : Nat} {fields : List (List UInt8)}
    (h : ∀ field ∈ fields, field.length ≤ bound) :
    fields.flatten.length ≤ fields.length * bound := by
  rw [List.length_flatten]
  have hsum := List.sum_le_card_nsmul (fields.map List.length) bound fun n hn => by
    obtain ⟨field, hfield, rfl⟩ := List.mem_map.mp hn
    exact h field hfield
  simpa using hsum

lemma v3ConfigurationBody_length_le (h : Readable e) (hversion : e.wireVersion = .v3) :
    minFrameBytes + (WireV3.configurationBody e).length ≤ 4095 := by
  obtain ⟨hpdc, hpmu, hglobal, hchannels, hnames⟩ := h.v3 hversion
  have hpdc := hpdc.length_le
  have hpmu := hpmu.length_le
  have hnames := length_flatten_le fun name hname => (hnames name hname).length_le
  have hscales : (phasorScales e).length = 96 := rfl
  unfold phasorScales at hscales
  unfold WireV3.configurationBody
  simp only [List.length_append, u16ToBeBytes_length, u32ToBeBytes_length, WireV3.f32Bytes,
    minFrameBytes, frameHeaderBytes, frameChecksumBytes] at hscales ⊢
  omega

lemma v2ConfigurationBody_length (h : Readable e) (hversion : e.wireVersion = .v2)
    {metadata : V2EndpointMetadata} (hmetadata : e.v2 = some metadata) :
    (WireV2.configurationBody e metadata).length = 158 := by
  obtain ⟨metadata', hmetadata', hstation, hchannels, hnames, hcount, -⟩ := h.v2 hversion
  obtain rfl : metadata = metadata' := Option.some.inj (hmetadata.symm.trans hmetadata')
  have hnames : metadata.channelNames.flatten.length = metadata.channelNames.length * 16 := by
    rw [List.length_flatten, List.eq_replicate_of_mem (l := metadata.channelNames.map List.length)
      (a := 16), List.length_map, List.sum_replicate, smul_eq_mul]
    intro n hn
    obtain ⟨name, hname, rfl⟩ := List.mem_map.mp hn
    exact (hnames name hname).1
  have hphunits : (metadata.phunits.flatMap u32ToBeBytes).length = metadata.phunits.length * 4 := by
    rw [List.length_flatMap]
    simp
  unfold WireV2.configurationBody
  simp only [List.length_append, u16ToBeBytes_length, u32ToBeBytes_length, hstation.1, hnames,
    hphunits, hchannels, hcount]

/-! ### Static frames -/

/-- `decode_configuration` of either version. -/
def decodeConfiguration :
    WireVersion → List UInt8 → UInt16 → Except ProbeFailure ConfigurationSummary
  | .v2 => decodeV2Configuration
  | .v3 => decodeV3Configuration

lemma decodeV3Configuration_iff (h : Readable e) (hversion : e.wireVersion = .v3)
    {summary : ConfigurationSummary} :
    decodeV3Configuration (WireV3.configurationBody e) expectedRateHz = .ok summary ↔
      expectedRateHz = e.dataRateHz ∧ summary = ⟨e.timeBase, e.pmuId, expectedRateHz⟩ := by
  have hsize := v3ConfigurationBody_length_le h hversion
  have hbody : Addressable (WireV3.configurationBody e) :=
    (Nat.le_add_left _ _).trans (hsize.trans (by decide))
  refine decodeConfiguration_iff (decodeV3Configuration · expectedRateHz) h rfl hbody
    (fun rate => ?_) (reads_v3Configuration h hversion) fails_v3Configuration
  simp

lemma decodeV2Configuration_iff (h : Readable e) (hversion : e.wireVersion = .v2)
    {metadata : V2EndpointMetadata} (hmetadata : e.v2 = some metadata)
    {summary : ConfigurationSummary} :
    decodeV2Configuration (WireV2.configurationBody e metadata) expectedRateHz = .ok summary ↔
      expectedRateHz = e.dataRateHz ∧ summary = ⟨e.timeBase, e.pmuId, expectedRateHz⟩ := by
  have hbody : Addressable (WireV2.configurationBody e metadata) := by
    rw [Addressable, v2ConfigurationBody_length h hversion hmetadata]
    decide
  refine decodeConfiguration_iff (decodeV2Configuration · expectedRateHz) h rfl hbody
    (fun rate => ?_) (reads_v2Configuration h hmetadata hversion) fails_v2Configuration
  simp

/-- `MAX_FRAME_BYTES` of the probe. -/
def maxFrameBytes : Nat := 4 * 1024

/-- The type of the frame a command is answered with. -/
def answerFrameType : ServerCommand → Option UInt8
  | .v2Header => some WireV2.frameTypeHeader
  | .v2Configuration1 => some WireV2.frameTypeConfiguration1
  | .v2Configuration2 => some WireV2.frameTypeConfiguration2
  | .v3Capability => some WireV3.frameTypeCapability
  | .v3StreamConfiguration => some WireV3.frameTypeStreamConfiguration
  | .stop | .start => none

/-- The probe finds in the bytes the answer of an endpoint to a command. -/
structure DecodesAnswer (e : EndpointDescriptor) (timestamp : Timestamp) (command : ServerCommand)
    (bytes : List UInt8) (frame : DecodedFrame) : Prop where
  fits : bytes.length < maxFrameBytes
  decoded : decodeFrame e.wireVersion bytes = .ok frame
  frameType : answerFrameType command = some frame.frameType
  streamId : frame.streamId = e.streamId
  timestamp : frame.timestamp = timestamp
  header : command = .v2Header → decodeHeader frame.body = .ok ()
  configuration : command ≠ .v2Header → ∀ expectedRateHz summary,
    decodeConfiguration e.wireVersion frame.body expectedRateHz = .ok summary ↔
      expectedRateHz = e.dataRateHz ∧ summary = ⟨e.timeBase, e.pmuId, expectedRateHz⟩

lemma encodeFrameWith_ok {protocolVersion quality frameType : UInt8} {idcode : UInt16}
    {timestamp : Timestamp} {body : List UInt8} (h : minFrameBytes + body.length ≤ 65535) :
    encodeFrameWith protocolVersion quality frameType idcode timestamp body =
      .ok (frameWith protocolVersion quality frameType idcode timestamp body) := if_pos h

section Answers

variable {timestamp : Timestamp} {k : ServerCommand}

/-- The configurations of a V2 endpoint. -/
lemma decodesAnswer_v2 (h : Readable e) (hversion : e.wireVersion = .v2)
    {metadata : V2EndpointMetadata} (hmetadata : e.v2 = some metadata)
    (hfracsec : timestamp.fracsec < 2 ^ 24) {frameType : UInt8} (hcarries : Carries .v2 frameType)
    (hk : answerFrameType k = some frameType) (hne : k ≠ .v2Header) :
    ∃ frame, DecodesAnswer e timestamp k (frameWith v2ProtocolVersion
      WireV2.messageTimeQualityUnknown frameType e.streamId timestamp
      (WireV2.configurationBody e metadata)) frame := by
  have hlength := v2ConfigurationBody_length h hversion hmetadata
  have hsize : minFrameBytes + (WireV2.configurationBody e metadata).length ≤ 65535 := by
    rw [hlength]
    decide
  have hdecoded := decodeFrame_frameWith (q := WireV2.messageTimeQualityUnknown)
    (i := e.streamId) hcarries hfracsec hsize
  refine ⟨_, ?_, by rw [hversion]; exact hdecoded, hk, rfl, rfl,
    fun hheader => absurd hheader hne, fun _ expectedRateHz summary => ?_⟩
  · rw [frameWith_length, hlength]
    decide
  · rw [hversion]
    exact decodeV2Configuration_iff h hversion hmetadata

/-- The configurations of a V3 endpoint. -/
lemma decodesAnswer_v3 (h : Readable e) (hversion : e.wireVersion = .v3)
    (hfracsec : timestamp.fracsec < 2 ^ 24) {frameType : UInt8} (hcarries : Carries .v3 frameType)
    (hk : answerFrameType k = some frameType) (hne : k ≠ .v2Header) :
    ∃ frame, DecodesAnswer e timestamp k (frameWith v3ProtocolVersion 0 frameType
      e.streamId timestamp (WireV3.configurationBody e)) frame := by
  have hlength := v3ConfigurationBody_length_le h hversion
  have hsize : minFrameBytes + (WireV3.configurationBody e).length ≤ 65535 :=
    hlength.trans (by decide)
  have hdecoded := decodeFrame_frameWith (q := 0) (i := e.streamId) hcarries hfracsec hsize
  refine ⟨_, ?_, by rw [hversion]; exact hdecoded, hk, rfl, rfl,
    fun hheader => absurd hheader hne, fun _ expectedRateHz summary => ?_⟩
  · rw [frameWith_length]
    exact Nat.lt_of_le_of_lt hlength (by decide)
  · rw [hversion]
    exact decodeV3Configuration_iff h hversion

/-- The header of a V2 endpoint. -/
lemma decodesAnswer_header (hversion : e.wireVersion = .v2) {stationName : List UInt8}
    (hstation : FixedName stationName) (hfracsec : timestamp.fracsec < 2 ^ 24) :
    ∃ frame, DecodesAnswer e timestamp .v2Header (frameWith v2ProtocolVersion
      WireV2.messageTimeQualityUnknown WireV2.frameTypeHeader e.streamId timestamp stationName)
      frame := by
  have hsize : minFrameBytes + stationName.length ≤ 65535 := by
    rw [hstation.1]
    decide
  have hcarries : Carries .v2 WireV2.frameTypeHeader := by decide
  have hdecoded := decodeFrame_frameWith (q := WireV2.messageTimeQualityUnknown)
    (i := e.streamId) hcarries hfracsec hsize
  refine ⟨_, ?_, by rw [hversion]; exact hdecoded, rfl, rfl, rfl, fun _ => ?_,
    fun hne => absurd rfl hne⟩
  · rw [frameWith_length, hstation.1]
    decide
  · have hne : stationName ≠ [] := List.ne_nil_of_length_pos (by rw [hstation.1]; decide)
    simp [decodeHeader, hstation.2, hne]

lemma staticFrames_v2 (h : Readable e) (hversion : e.wireVersion = .v2)
    {metadata : V2EndpointMetadata} (hmetadata : e.v2 = some metadata)
    (hstation : FixedName metadata.stationName) :
    staticFrames e timestamp = .ok (.v2
      (frameWith v2ProtocolVersion WireV2.messageTimeQualityUnknown WireV2.frameTypeHeader
        e.streamId timestamp metadata.stationName)
      (frameWith v2ProtocolVersion WireV2.messageTimeQualityUnknown WireV2.frameTypeConfiguration1
        e.streamId timestamp (WireV2.configurationBody e metadata))
      (frameWith v2ProtocolVersion WireV2.messageTimeQualityUnknown WireV2.frameTypeConfiguration2
        e.streamId timestamp (WireV2.configurationBody e metadata))) := by
  have hsize : minFrameBytes + (WireV2.configurationBody e metadata).length ≤ 65535 := by
    rw [v2ConfigurationBody_length h hversion hmetadata]
    decide
  have hheader : minFrameBytes + metadata.stationName.length ≤ 65535 := by
    rw [hstation.1]
    decide
  simp only [staticFrames, hversion, WireV2.encodeHeader, WireV2.encodeConfiguration1,
    WireV2.encodeConfiguration2, WireV2.encodeConfiguration, hmetadata, WireV2.encodeFrame,
    encodeFrameWith_ok hsize, encodeFrameWith_ok hheader, ok_bind]
  rfl

lemma staticFrames_v3 (h : Readable e) (hversion : e.wireVersion = .v3) :
    staticFrames e timestamp = .ok (.v3
      (frameWith v3ProtocolVersion 0 WireV3.frameTypeCapability e.streamId timestamp
        (WireV3.configurationBody e))
      (frameWith v3ProtocolVersion 0 WireV3.frameTypeStreamConfiguration e.streamId timestamp
        (WireV3.configurationBody e))) := by
  have hsize := (v3ConfigurationBody_length_le h hversion).trans (show 4095 ≤ 65535 by decide)
  simp only [staticFrames, hversion, WireV3.encodeCapability, WireV3.encodeStreamConfiguration,
    WireV3.encodeConfiguration, WireV3.encodeFrame, encodeFrameWith_ok hsize, ok_bind]
  rfl

/-- The static frames of an endpoint are encoded, one for each command of its wire version, and the
probe decodes each of them. -/
lemma staticFrames_decoded (h : Readable e) (hfracsec : timestamp.fracsec < 2 ^ 24) :
    ∃ frames, staticFrames e timestamp = .ok frames ∧
      ∀ command, (informationPending e.wireVersion command).isSome →
        ∃ bytes frame, frames.staticFrame command = some bytes ∧
          DecodesAnswer e timestamp command bytes frame := by
  cases hversion : e.wireVersion with
  | v2 =>
    obtain ⟨metadata, hmetadata, hstation, -⟩ := h.v2 hversion
    refine ⟨_, staticFrames_v2 h hversion hmetadata hstation, fun command hcommand => ?_⟩
    cases command with
    | v2Header =>
      obtain ⟨frame, hframe⟩ := decodesAnswer_header hversion hstation hfracsec
      exact ⟨_, frame, rfl, hframe⟩
    | v2Configuration1 =>
      obtain ⟨frame, hframe⟩ := decodesAnswer_v2 (k := .v2Configuration1) h hversion
        hmetadata hfracsec (by decide) rfl (by decide)
      exact ⟨_, frame, rfl, hframe⟩
    | v2Configuration2 =>
      obtain ⟨frame, hframe⟩ := decodesAnswer_v2 (k := .v2Configuration2) h hversion
        hmetadata hfracsec (by decide) rfl (by decide)
      exact ⟨_, frame, rfl, hframe⟩
    | _ => cases hcommand
  | v3 =>
    refine ⟨_, staticFrames_v3 h hversion, fun command hcommand => ?_⟩
    cases command with
    | v3Capability =>
      obtain ⟨frame, hframe⟩ := decodesAnswer_v3 (k := .v3Capability) h hversion hfracsec
        (by decide) rfl (by decide)
      exact ⟨_, frame, rfl, hframe⟩
    | v3StreamConfiguration =>
      obtain ⟨frame, hframe⟩ := decodesAnswer_v3 (k := .v3StreamConfiguration) h hversion
        hfracsec (by decide) rfl (by decide)
      exact ⟨_, frame, rfl, hframe⟩
    | _ => cases hcommand

end Answers

/-- The frame that is looked at for readiness is one the probe decodes. -/
lemma selectedWireFrameIsValid_of_readable (h : Readable e) {limits : Limits}
    {timestamp : Timestamp} (hfracsec : timestamp.fracsec < 2 ^ 24) :
    ∃ bound, bindEndpoint limits timestamp e = .ok bound ∧
      selectedWireFrameIsValid bound = true := by
  obtain ⟨frames, hframes, hdecoded⟩ := staticFrames_decoded h hfracsec
  have hbound : bindEndpoint limits timestamp e = .ok {
      descriptor := e, limits, frames, dataFrame := emptyDataFrame e.wireVersion
      connections := fun _ => none } := by
    rw [bindEndpoint, hframes]
    rfl
  refine ⟨_, hbound, ?_⟩
  have hsound := bindEndpoint_sound hbound
  unfold EndpointContext.Sound at hsound
  cases frames with
  | v2 header configuration1 configuration2 =>
    have hversion : e.wireVersion = .v2 := hsound
    obtain ⟨bytes, frame, hbytes, hanswer⟩ := hdecoded .v2Header (by rw [hversion]; rfl)
    obtain rfl := Option.some.inj hbytes
    have hdecode := hanswer.decoded
    rw [hversion] at hdecode
    obtain ⟨view, hparse, hprotocol, rfl⟩ := decodeFrame_iff.mp hdecode
    have hparse : WireV2.parse header = .ok view := hparse
    have htype : view.frameType = WireV2.frameTypeHeader := (Option.some.inj hanswer.frameType).symm
    have hid : view.idcode = e.streamId := hanswer.streamId
    simp only [selectedWireFrameIsValid, hversion, hparse, hprotocol, htype, hid, decide_true,
      Bool.and_self, WireVersion.protocolVersion]
  | v3 capability streamConfiguration =>
    have hversion : e.wireVersion = .v3 := hsound
    obtain ⟨bytes, frame, hbytes, hanswer⟩ := hdecoded .v3Capability (by rw [hversion]; rfl)
    obtain rfl := Option.some.inj hbytes
    have hdecode := hanswer.decoded
    rw [hversion] at hdecode
    obtain ⟨view, hparse, hprotocol, rfl⟩ := decodeFrame_iff.mp hdecode
    have hparse : WireV3.parse capability = .ok view := hparse
    have htype : view.frameType = WireV3.frameTypeCapability :=
      (Option.some.inj hanswer.frameType).symm
    have hid : view.idcode = e.streamId := hanswer.streamId
    simp only [selectedWireFrameIsValid, hversion, hparse, hprotocol, htype, hid, decide_true,
      Bool.and_self, WireVersion.protocolVersion]

/-! ### Data frames -/

/-- `decode_periodic_data` of either version. -/
def decodePeriodicData : WireVersion → DecodedFrame → ConfigurationSummary → Option Timestamp →
    Except ProbeFailure Unit
  | .v2 => decodeV2PeriodicData
  | .v3 => decodeV3PeriodicData

/-- `FRAME_TYPE_PERIODIC_DATA` of either version. -/
def dataFrameType : WireVersion → UInt8
  | .v2 => WireV2.frameTypePeriodicData
  | .v3 => WireV3.frameTypePeriodicData

/-- A timestamp is taken at a reporting interval, one interval after the one before it. -/
lemma checkTimestamp_iff (label : String) (timestamp : Timestamp)
    (configuration : ConfigurationSummary) (previous : Option Timestamp)
    (hrate : configuration.dataRateHz ≠ 0)
    (hstep : configuration.timeBase / configuration.dataRateHz.toUInt32 ≠ 0) :
    checkTimestamp label timestamp configuration previous = .ok () ↔
      timestamp.fracsec < configuration.timeBase ∧
        timestamp.fracsec % (configuration.timeBase / configuration.dataRateHz.toUInt32) = 0 ∧
        ∀ p ∈ previous, ticks configuration timestamp - ticks configuration p =
          (configuration.timeBase / configuration.dataRateHz.toUInt32).toNat := by
  simp only [checkTimestamp, if_neg hrate, if_neg hstep]
  by_cases hwithin : timestamp.fracsec ≥ configuration.timeBase
  · rw [if_pos hwithin]
    simp [UInt32.not_lt.mpr hwithin]
  rw [if_neg hwithin, and_iff_right (UInt32.not_le.mp hwithin)]
  by_cases haligned :
      timestamp.fracsec % (configuration.timeBase / configuration.dataRateHz.toUInt32) = 0
  · rw [if_neg (not_not.mpr haligned), and_iff_right haligned]
    cases previous with
    | none => simp
    | some p => simp
  · rw [if_pos haligned]
    simp [haligned]

/-- The data frame of a tick is a frame of its endpoint, and the probe checks no more of it than its
timestamp. -/
lemma contents_decoded (h : Readable e) {context : EndpointContext}
    (hdescriptor : context.descriptor = e) (seed : UInt64) {tick : Tick}
    (hfracsec : tick.timestamp.fracsec < 2 ^ 24) :
    ∃ bytes frame label, (QueuedFrame.data tick).contents context seed = some bytes ∧
      bytes.length = periodicDataFrameBytes e.wireVersion ∧
      decodeFrame e.wireVersion bytes = .ok frame ∧
      frame.frameType = dataFrameType e.wireVersion ∧ frame.streamId = e.streamId ∧
      frame.timestamp = tick.timestamp ∧
      decodePeriodicData e.wireVersion frame = checkTimestamp label tick.timestamp := by
  subst hdescriptor
  cases hversion : context.descriptor.wireVersion with
  | v2 =>
    obtain ⟨metadata, hmetadata, -⟩ := h.v2 hversion
    generalize hstat : (if metadata.goodStat && !tick.degradedTime then (0 : UInt16)
      else WireV2.statFlagSyncUncertain ||| WireV2.statPmuTimeQualityUnknown) = stat
    have hconservative : ¬(stat ≠ 0 ∧
        stat ≠ WireV2.statFlagSyncUncertain ||| WireV2.statPmuTimeQualityUnknown) := by
      rw [← hstat]
      split_ifs <;> simp
    have hcontents : (QueuedFrame.data tick).contents context seed =
        some (frameWith v2ProtocolVersion WireV2.messageTimeQualityUnknown
          WireV2.frameTypePeriodicData context.descriptor.streamId tick.timestamp
          (u16ToBeBytes stat ++ sampledBody context.descriptor seed tick.sampleIndex tick.signal
            fun channel => WireV2.phunitScale (metadata.phunits.getD channel 0))) := by
      simp only [QueuedFrame.contents, encodeDataFrame, hversion, emptyDataFrame,
        WireV2.encodePeriodicDataWithScenario, hmetadata, DataFrame.bytes, ← hstat]
    refine ⟨_, _, "V2 ", hcontents, rfl, decodeFrame_frameWith (v := .v2) (by decide)
      hfracsec (show 46 ≤ 65535 by decide), rfl, rfl, rfl, ?_⟩
    funext configuration previous
    have hread : u16At (u16ToBeBytes stat ++ sampledBody context.descriptor seed tick.sampleIndex
        tick.signal fun channel => WireV2.phunitScale (metadata.phunits.getD channel 0)) 0 = stat :=
      u16FromBeBytes_toBeBytes stat
    simp only [decodePeriodicData, decodeV2PeriodicData, hread, if_neg hconservative]
    rfl
  | v3 =>
    have hcontents : (QueuedFrame.data tick).contents context seed =
        some (WireV3.encodePeriodicDataWithScenario context.descriptor seed tick.sampleIndex
          tick.timestamp tick.degradedTime tick.signal) := by
      simp only [QueuedFrame.contents, encodeDataFrame, hversion, emptyDataFrame, DataFrame.bytes]
    exact ⟨_, _, "", hcontents, rfl, decodeFrame_frameWith (v := .v3) (by decide)
      hfracsec (show 48 ≤ 65535 by decide), rfl, rfl, rfl, rfl⟩

end Probe

end PmuSimulator
