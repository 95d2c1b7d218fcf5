import Mathlib
import PmuSimulator.Probe.Profiles

/-!
# The whole format

Everything an endpoint of an accepted profile writes of its own accord, its static frames and its
data frames, is what both readers take it for. The probe reads a configuration to its end and no
further, and takes a data frame at every timestamp that is a sum of whole reporting intervals.
-/

namespace PmuSimulator

namespace Probe

open Decoder

variable {e : EndpointDescriptor} {timestamp : Timestamp}

/-- Both readers take the bytes for a frame of the endpoint. -/
structure Agreed (e : EndpointDescriptor) (frameType : UInt8) (timestamp : Timestamp)
    (bytes : List UInt8) (frame : DecodedFrame) : Prop where
  parsed : ∃ view, parseFrame e.wireVersion bytes = .ok view ∧
    view.version = e.wireVersion.protocolVersion ∧ view.frameType = frameType ∧
    view.idcode = e.streamId ∧ view.timestamp = timestamp
  decoded : decodeFrame e.wireVersion bytes = .ok frame
  frameType : frame.frameType = frameType
  streamId : frame.streamId = e.streamId
  timestamp : frame.timestamp = timestamp

/-- The probe takes the configuration of the endpoint, at its rate, to its end and no further. -/
structure Summarized (e : EndpointDescriptor) (body : List UInt8) : Prop where
  summary : ∀ expectedRateHz summary,
    decodeConfiguration e.wireVersion body expectedRateHz = .ok summary ↔
      expectedRateHz = e.dataRateHz ∧ summary = ⟨e.timeBase, e.pmuId, expectedRateHz⟩
  whole : ∀ more, Addressable (body ++ more) → ∀ expectedRateHz summary,
    decodeConfiguration e.wireVersion (body ++ more) expectedRateHz = .ok summary → more = []

lemma Agreed.of_decoded {frameType : UInt8} {bytes : List UInt8} {frame : DecodedFrame}
    (decoded : decodeFrame e.wireVersion bytes = .ok frame) (htype : frame.frameType = frameType)
    (hid : frame.streamId = e.streamId) (htime : frame.timestamp = timestamp) :
    Agreed e frameType timestamp bytes frame := by
  obtain ⟨view, hparse, hversion, rfl⟩ := decodeFrame_iff.mp decoded
  exact ⟨⟨view, hparse, hversion, htype, hid, htime⟩, decoded, htype, hid, htime⟩

/-! ### Configurations -/

lemma summarize_whole {message : String} {body more : List UInt8} {expectedRateHz : UInt16}
    {fields : BodyDecoder ConfigurationFields} {found : ConfigurationFields}
    {summary : ConfigurationSummary} (h : Reads Addressable fields body found)
    (hbody : Addressable (body ++ more))
    (hok : summarize message (body ++ more) expectedRateHz fields = .ok summary) : more = [] := by
  have hread : fields.runFrom (body ++ more) 0 = .ok (found, body.length) := h [] more hbody
  by_contra hne
  have hshort : body.length ≠ (body ++ more).length := by
    rw [List.length_append]
    have := List.length_pos_iff.mpr hne
    omega
  simp only [summarize, hread, ok_bind, if_pos (Or.inl hshort)] at hok
  cases hok

/-- What stands behind a configuration is not passed over. -/
lemma decodeConfiguration_whole {message : String} {body more : List UInt8}
    {expectedRateHz : UInt16} {fields : BodyDecoder ConfigurationFields} {rates : List Int16}
    {summary : ConfigurationSummary}
    (hreads : expectedRateHz ≠ 0 → e.timeBase % expectedRateHz.toUInt32 = 0 →
      Reads Addressable fields body ⟨e.timeBase, e.pmuId, rates⟩)
    (hfails : ¬(expectedRateHz ≠ 0 ∧ e.timeBase % expectedRateHz.toUInt32 = 0) →
      ∃ field failure, field <+: body ∧ Fails Addressable fields field failure)
    (hbody : Addressable (body ++ more))
    (hok : summarize message (body ++ more) expectedRateHz fields = .ok summary) : more = [] := by
  by_cases hdivides : expectedRateHz ≠ 0 ∧ e.timeBase % expectedRateHz.toUInt32 = 0
  · exact summarize_whole (hreads hdivides.1 hdivides.2) hbody hok
  · obtain ⟨field, failure, hfront, hfail⟩ := hfails hdivides
    exact absurd hok
      (summarize_fails (hfront.trans (List.prefix_append _ _)) hfail hbody)

/-- The body of a frame that is written is what is decoded as its body. -/
lemma body_of_frameWith {v : WireVersion} {quality frameType : UInt8} {idcode : UInt16}
    {body : List UInt8} {frame : DecodedFrame} (hcarries : Carries v frameType)
    (hfracsec : timestamp.fracsec < 2 ^ 24) (hsize : minFrameBytes + body.length ≤ 65535)
    (h : decodeFrame v (frameWith v.protocolVersion quality frameType idcode timestamp body) =
      .ok frame) : frame.body = body :=
  congrArg DecodedFrame.body
    (Except.ok.inj (h.symm.trans (decodeFrame_frameWith hcarries hfracsec hsize)))

/-- Both configurations of an endpoint have the one body of its version. -/
lemma configuration_summarized (h : Readable e) (hfracsec : timestamp.fracsec < 2 ^ 24)
    {frames : EndpointFrames} (hframes : staticFrames e timestamp = .ok frames)
    {command : ServerCommand} (hcommand : (informationPending e.wireVersion command).isSome)
    (hne : command ≠ .v2Header) {bytes : List UInt8} {frame : DecodedFrame}
    (hbytes : frames.staticFrame command = some bytes)
    (hanswer : DecodesAnswer e timestamp command bytes frame) : Summarized e frame.body := by
  refine ⟨hanswer.configuration hne, ?_⟩
  have hdecoded := hanswer.decoded
  cases hversion : e.wireVersion with
  | v2 =>
    rw [hversion] at hcommand hdecoded
    obtain ⟨metadata, hmetadata, hstation, -⟩ := h.v2 hversion
    obtain rfl := Except.ok.inj
      ((staticFrames_v2 h hversion hmetadata hstation).symm.trans hframes)
    have hsize : minFrameBytes + (WireV2.configurationBody e metadata).length ≤ 65535 := by
      rw [v2ConfigurationBody_length h hversion hmetadata]
      decide
    have hbody : frame.body = WireV2.configurationBody e metadata := by
      cases command with
      | v2Header => exact absurd rfl hne
      | v2Configuration1 =>
        obtain rfl := Option.some.inj hbytes
        exact body_of_frameWith (v := .v2) (by decide) hfracsec hsize hdecoded
      | v2Configuration2 =>
        obtain rfl := Option.some.inj hbytes
        exact body_of_frameWith (v := .v2) (by decide) hfracsec hsize hdecoded
      | _ => cases hcommand
    rw [hbody]
    intro more hmore expectedRateHz summary
    exact decodeConfiguration_whole (reads_v2Configuration h hmetadata hversion)
      fails_v2Configuration hmore
  | v3 =>
    rw [hversion] at hcommand hdecoded
    obtain rfl := Except.ok.inj ((staticFrames_v3 h hversion).symm.trans hframes)
    have hsize : minFrameBytes + (WireV3.configurationBody e).length ≤ 65535 :=
      (v3ConfigurationBody_length_le h hversion).trans (by decide)
    have hbody : frame.body = WireV3.configurationBody e := by
      cases command with
      | v3Capability =>
        obtain rfl := Option.some.inj hbytes
        exact body_of_frameWith (v := .v3) (by decide) hfracsec hsize hdecoded
      | v3StreamConfiguration =>
        obtain rfl := Option.some.inj hbytes
        exact body_of_frameWith (v := .v3) (by decide) hfracsec hsize hdecoded
      | _ => cases hcommand
    rw [hbody]
    intro more hmore expectedRateHz summary
    exact decodeConfiguration_whole (reads_v3Configuration h hversion) fails_v3Configuration hmore

/-! ### Timestamps -/

/-- Every timestamp a clock gives fits its field. -/
lemma timestampForSample_within {dataRateHz : UInt16} {timeBase : UInt32}
    (admitted : AdmittedRate dataRateHz timeBase) {clock : WallClock}
    (aligned : clock.Aligned dataRateHz timeBase) (i : Nat) :
    (clock.timestampForSample i).fracsec.toNat < timeBase.toNat := by
  have hfits := admitted.fits
  have hlt (total : Nat) : total % timeBase.toNat < timeBase.toNat := Nat.mod_lt _ admitted.positive
  simp only [WallClock.timestampForSample, aligned.base]
  rw [truncateToU32_toNat ((hlt _).trans_le (hfits.trans (by decide)))]
  exact hlt _

/-- A timestamp is at a reporting interval as long as its ticks are counted in a word. -/
lemma timestampForSample_boundary {dataRateHz : UInt16} {timeBase : UInt32}
    (admitted : AdmittedRate dataRateHz timeBase) {clock : WallClock}
    (aligned : clock.Aligned dataRateHz timeBase) {i : Nat}
    (hticks : clock.firstTimestamp.fracsec.toNat + i * clock.ticksPerFrame < 2 ^ 64) :
    timeBase.toNat / dataRateHz.toNat ∣ (clock.timestampForSample i).fracsec.toNat := by
  have hfits := admitted.fits
  have hlt (total : Nat) : total % timeBase.toNat < timeBase.toNat := Nat.mod_lt _ admitted.positive
  have hunsaturated : min (i * clock.ticksPerFrame) u64Max = i * clock.ticksPerFrame := by
    refine Nat.min_eq_left ?_
    simp only [u64Max]
    omega
  simp only [WallClock.timestampForSample, hunsaturated, Nat.mod_eq_of_lt hticks, aligned.base]
  rw [truncateToU32_toNat ((hlt _).trans_le (hfits.trans (by decide)))]
  refine (Nat.dvd_mod_iff (Dvd.intro_left 50 admitted.fifty_mul)).mpr ?_
  rw [aligned.interval]
  exact Nat.dvd_add aligned.boundary (Nat.dvd_mul_left _ _)

/-! ### Accepted profiles -/

section Numbers

variable {F : Type} [Add F] [Mul F] [Div F] [LT F] [LE F] [DecidableLT F] [DecidableLE F]
  [OfScientific F] [Numeric F]

/-- Everything an endpoint of an accepted profile writes, at any timestamp of the clock it is bound
with, is encoded without a panic, and both readers take it for what it is; the probe takes its
configurations to their end, and its data frames as long as their ticks are counted in a word. A
server that is bound with the profile is ready. -/
theorem formats_agree (single : F → Float32) (profile : Profile F) (compiled : CompiledProfile)
    (truncates : Numeric.Truncates F) (accepted : compileProfile single profile = .ok compiled) :
    (∀ e ∈ compiled.endpoints, ∀ (wallClock : SystemTime) (now started : Instant)
      (clock : WallClock),
      WallClock.alignedStart e.dataRateHz e.timeBase wallClock now = .ok (clock, started) →
      ∀ i : Nat,
        (∃ frames, staticFrames e (clock.timestampForSample i) = .ok frames ∧
          ∀ command, (informationPending e.wireVersion command).isSome →
            ∃ bytes frameType frame, frames.staticFrame command = some bytes ∧
              answerFrameType command = some frameType ∧
              Agreed e frameType (clock.timestampForSample i) bytes frame ∧
              (command = .v2Header → decodeHeader frame.body = .ok ()) ∧
              (command ≠ .v2Header → Summarized e frame.body)) ∧
        ∀ (context : EndpointContext) (seed : UInt64) (tick : Tick), context.descriptor = e →
          tick.timestamp = clock.timestampForSample i →
          ∃ bytes frame, (QueuedFrame.data tick).contents context seed = some bytes ∧
            Agreed e (dataFrameType e.wireVersion) (clock.timestampForSample i) bytes frame ∧
            (clock.firstTimestamp.fracsec.toNat + i * clock.ticksPerFrame < 2 ^ 64 →
              decodePeriodicData e.wireVersion frame ⟨e.timeBase, e.pmuId, e.dataRateHz⟩ none =
                .ok ())) ∧
    ∀ (input : BindInput) (s : Server), input.profile = compiled → bindInner input = .ok s →
      s.ready = true := by
  obtain ⟨wireVersion, tables, hcompiles⟩ := compileProfile_ok accepted
  refine ⟨?_, fun input s hprofile hbind => ready_of_bind truncates hcompiles hprofile hbind⟩
  intro e he wallClock now started clock hstart i
  have readable := readable_of_compiles truncates hcompiles he
  have admitted := admittedRate_of_compiles hcompiles he
  have aligned := WallClock.aligned_of_start admitted hstart
  have hwithin := timestampForSample_within admitted aligned i
  have hfracsec : (clock.timestampForSample i).fracsec < 2 ^ 24 :=
    UInt32.lt_iff_toNat_lt.mpr (hwithin.trans_le (admitted.fits.trans (by decide)))
  constructor
  · obtain ⟨frames, hframes, hanswers⟩ := staticFrames_decoded readable hfracsec
    refine ⟨frames, hframes, fun command hcommand => ?_⟩
    obtain ⟨bytes, frame, hbytes, hanswer⟩ := hanswers command hcommand
    refine ⟨bytes, frame.frameType, frame, hbytes, hanswer.frameType,
      .of_decoded hanswer.decoded rfl hanswer.streamId hanswer.timestamp, hanswer.header, ?_⟩
    intro hne
    exact configuration_summarized readable hfracsec hframes hcommand hne hbytes hanswer
  · rintro context seed tick rfl htick
    obtain ⟨bytes, frame, label, hcontents, -, hdecoded, htype, hid, htime, hcheck⟩ :=
      contents_decoded readable rfl seed (htick ▸ hfracsec)
    refine ⟨bytes, frame, hcontents, .of_decoded hdecoded htype hid (htime.trans htick), ?_⟩
    intro hticks
    rw [hcheck, htick]
    refine (checkTimestamp_boundary label admitted hwithin
      (timestampForSample_boundary admitted aligned hticks) _ none).mpr ?_
    simp

end Numbers

theorem formats_agree_small :
    (∃ frames, staticFrames soleDescriptor (soleStart.1.timestampForSample 3) = .ok frames ∧
      ∃ bytes frame, frames.staticFrame .v2Configuration2 = some bytes ∧
        Agreed soleDescriptor WireV2.frameTypeConfiguration2 (soleStart.1.timestampForSample 3)
          bytes frame ∧
        decodeConfiguration .v2 frame.body 50 = .ok ⟨1000000, 1001, 50⟩) ∧
    (∃ bytes frame, (QueuedFrame.data ⟨3, soleStart.1.timestampForSample 3, true, none⟩).contents
        soleContext 7 = some bytes ∧
      decodeFrame .v2 bytes = .ok frame ∧
      decodePeriodicData .v2 frame ⟨1000000, 1001, 50⟩ none = .ok ()) ∧
    soleServer.ready = true := by
  obtain ⟨hframes, hready⟩ := formats_agree singleOf (soleProfile 230000 400 10) soleCompiled
    Numeric.truncates_rat compileProfile_sole
  obtain ⟨⟨frames, hstatic, hanswers⟩, hdata⟩ := hframes soleDescriptor mem_soleCompiled
    999990000000 0 _ _ (eq_ok_get _) 3
  have hversion : soleDescriptor.wireVersion = .v2 := by decide +kernel
  refine ⟨⟨frames, hstatic, ?_⟩, ?_, ?_⟩
  · obtain ⟨bytes, frameType, frame, hbytes, htype, hagreed, -, hsummarized⟩ :=
      hanswers .v2Configuration2 (by decide +kernel)
    obtain rfl := Option.some.inj htype
    refine ⟨bytes, frame, hbytes, hagreed, ?_⟩
    have hsummary := (hsummarized (by decide)).summary
    rw [hversion] at hsummary
    exact (hsummary _ _).mpr (by decide +kernel)
  · obtain ⟨bytes, frame, hcontents, hagreed, htaken⟩ := hdata soleContext 7
      ⟨3, soleStart.1.timestampForSample 3, true, none⟩ rfl rfl
    have hdecoded := hagreed.decoded
    have hsummary : (⟨soleDescriptor.timeBase, soleDescriptor.pmuId, soleDescriptor.dataRateHz⟩ :
        ConfigurationSummary) = ⟨1000000, 1001, 50⟩ := by decide +kernel
    rw [hversion] at hdecoded htaken
    rw [hsummary] at htaken
    exact ⟨bytes, frame, hcontents, hdecoded, htaken (by decide +kernel)⟩
  · exact hready { soleInput .v2 none with profile := soleCompiled } soleServer rfl
      (eq_ok_get (x := bindInner { soleInput .v2 none with profile := soleCompiled }) _)

/-- The data frame of the last sample there is stands between two reporting intervals, and is not
taken. -/
theorem last_sample_refused :
    compileProfile singleOf (soleProfile 230000 400 10) = .ok soleCompiled ∧
    soleContext.descriptor ∈ soleCompiled.endpoints ∧
    WallClock.alignedStart soleDescriptor.dataRateHz soleDescriptor.timeBase 999990000000 0 =
      .ok soleStart ∧
    ∃ bytes frame, (QueuedFrame.data
        ⟨u64Max, soleStart.1.timestampForSample u64Max, false, none⟩).contents soleContext 7 =
          some bytes ∧
      decodeFrame .v2 bytes = .ok frame ∧
      decodePeriodicData .v2 frame ⟨1000000, 1001, 50⟩ none ≠ .ok () := by
  refine ⟨compileProfile_sole, mem_soleCompiled, eq_ok_get _, ?_⟩
  obtain ⟨wireVersion, tables, hcompiles⟩ := compileProfile_ok compileProfile_sole
  have readable := readable_of_compiles Numeric.truncates_rat hcompiles mem_soleCompiled
  have hlast :
      (Tick.timestamp ⟨u64Max, soleStart.1.timestampForSample u64Max, false, none⟩).fracsec <
        2 ^ 24 := by
    decide +kernel
  obtain ⟨bytes, frame, label, hcontents, -, hdecoded, -, -, -, hcheck⟩ :=
    contents_decoded readable (rfl : soleContext.descriptor = soleDescriptor) 7 hlast
  have hversion : soleDescriptor.wireVersion = .v2 := by decide +kernel
  rw [hversion] at hdecoded hcheck
  refine ⟨bytes, frame, hcontents, hdecoded, ?_⟩
  rw [hcheck, ne_eq, checkTimestamp_iff _ _ _ _ (by decide) (by decide)]
  rintro ⟨-, hboundary, -⟩
  exact absurd hboundary (by decide +kernel)

end Probe

end PmuSimulator
