import Mathlib
import PmuSimulator.Console.EndpointView
import PmuSimulator.Probe.Formats
import PmuSimulator.Server.Reporting

/-!
# Accepted profiles on the wire

Whatever profile the compiler accepts, its endpoints can be encoded: the server binds it as soon as
its clock can be aligned, it is ready from then on, and the probe decodes every static frame, every
error response and every data frame of it.
-/

namespace PmuSimulator

/-- Conversion to an integer truncates, where the integer has at most 24 bits. -/
structure Numeric.Truncates (F : Type) [LE F] [OfScientific F] [Numeric F] : Prop where
  toU32 : ∀ x : F, 1.0 ≤ x → x ≤ Numeric.ofU32 0x00ffffff →
    1 ≤ Numeric.toU32 x ∧ Numeric.toU32 x ≤ 0x00ffffff

/-- The rationals truncate. -/
lemma Numeric.truncates_rat : Numeric.Truncates ℚ where
  toU32 x hlower hupper := by
    have hlower : (1 : ℚ) ≤ x := by norm_num at hlower; exact hlower
    have hupper : x ≤ (16777215 : ℤ) := hupper
    have hfloor : (1 : ℤ) ≤ ⌊x⌋ := Int.le_floor.mpr (by exact_mod_cast hlower)
    have hfloor' : ⌊x⌋ ≤ 16777215 := Int.cast_le.mp ((Int.floor_le x).trans hupper)
    have hsmall : min ⌊x⌋.toNat (2 ^ 32 - 1) = ⌊x⌋.toNat := by omega
    have htoNat : (Numeric.toU32 x).toNat = ⌊x⌋.toNat := by
      change (UInt32.ofNat (min ⌊x⌋.toNat (2 ^ 32 - 1))).toNat = _
      rw [hsmall]
      exact UInt32.toNat_ofNat_of_lt' (show ⌊x⌋.toNat < 2 ^ 32 by omega)
    rw [UInt32.le_iff_toNat_le, UInt32.le_iff_toNat_le, htoNat]
    change 1 ≤ ⌊x⌋.toNat ∧ ⌊x⌋.toNat ≤ 16777215
    omega

lemma CoreStep.ready {core core' : ServerCore} {input : Input} (h : CoreStep core input core') :
    core'.ready = core.ready := by
  cases h <;> rfl

/-! ### Lists made element by element -/

/-- Every element of a list that was made element by element was made from one. -/
lemma exists_of_mapM_ok {α β φ : Type} {f : α → Except φ β} {as : List α} {bs : List β}
    (h : as.mapM f = .ok bs) : bs.length = as.length ∧ ∀ b ∈ bs, ∃ a ∈ as, f a = .ok b := by
  have hall := forall₂_of_mapM_ok h
  refine ⟨hall.length_eq.symm, ?_⟩
  clear h
  induction hall with
  | nil => exact fun b hb => absurd hb (List.not_mem_nil)
  | cons hab _ ih =>
    intro b hb
    rcases List.mem_cons.mp hb with rfl | hb
    · exact ⟨_, List.mem_cons_self .., hab⟩
    · obtain ⟨a, ha, hab⟩ := ih b hb
      exact ⟨a, List.mem_cons_of_mem _ ha, hab⟩

/-- A list is made element by element where every element is. -/
lemma mapM_isOk {α β φ : Type} {f : α → Except φ β} {as : List α}
    (h : ∀ a ∈ as, ∃ b, f a = .ok b) : ∃ bs, as.mapM f = .ok bs := by
  induction as with
  | nil => exact ⟨[], rfl⟩
  | cons a as ih =>
    obtain ⟨b, hb⟩ := h a (List.mem_cons_self ..)
    obtain ⟨bs, hbs⟩ := ih fun a ha => h a (List.mem_cons_of_mem _ ha)
    refine ⟨b :: bs, ?_⟩
    rw [List.mapM_cons, hb, ok_bind, hbs]
    rfl

/-! ### Timestamps -/

/-- The second of a sample fits its field. -/
def WallClock.Reaches (clock : WallClock) (i : Nat) : Prop :=
  (clock.firstTimestamp.ticks clock.timeBase + i * clock.ticksPerFrame) / clock.timeBase ≤ u32Max

instance WallClock.decidableReaches (clock : WallClock) (i : Nat) :
    Decidable (clock.Reaches i) := inferInstanceAs (Decidable (_ ≤ _))

/-- The timestamp of a sample whose second fits, by the interval of the clock. -/
lemma timestampForSample_of_reaches {dataRateHz : UInt16} {timeBase : UInt32}
    (admitted : AdmittedRate dataRateHz timeBase) {clock : WallClock}
    (aligned : clock.Aligned dataRateHz timeBase) {i : Nat} (h : clock.Reaches i) :
    (clock.timestampForSample i).ticks timeBase.toNat =
        clock.firstTimestamp.ticks timeBase.toNat + i * (timeBase.toNat / dataRateHz.toNat) ∧
      (clock.timestampForSample i).fracsec.toNat < timeBase.toNat ∧
      timeBase.toNat / dataRateHz.toNat ∣ (clock.timestampForSample i).fracsec.toNat := by
  unfold WallClock.Reaches at h
  rw [aligned.interval, aligned.base] at h
  exact WallClock.timestampForSample_exact admitted aligned h

/-- The timestamp of the static frames fits its fields. -/
lemma firstTimestamp_fracsec {dataRateHz : UInt16} {timeBase : UInt32}
    (admitted : AdmittedRate dataRateHz timeBase) {wallClock : SystemTime} {now started : Instant}
    {clock : WallClock}
    (h : WallClock.alignedStart dataRateHz timeBase wallClock now = .ok (clock, started)) :
    (clock.timestampForSample 0).fracsec < 2 ^ 24 := by
  have aligned := WallClock.aligned_of_start admitted h
  have hpos := admitted.positive
  have hsecond : (clock.firstTimestamp.ticks timeBase.toNat +
      0 * (timeBase.toNat / dataRateHz.toNat)) / timeBase.toNat ≤ u32Max := by
    have hwithin := aligned.within
    rw [Nat.zero_mul, Nat.add_zero, Timestamp.ticks, Nat.mul_comm, Nat.mul_add_div hpos,
      Nat.div_eq_of_lt hwithin]
    exact Nat.lt_succ_iff.mp clock.firstTimestamp.soc.toNat_lt
  obtain ⟨-, hlt, -⟩ := WallClock.timestampForSample_exact admitted aligned hsecond
  exact UInt32.lt_iff_toNat_lt.mpr (hlt.trans_le (admitted.fits.trans (by decide)))

/-- The timestamp of an error response fits its fields. -/
lemma responseTimestamp_fracsec {timeBase : UInt32} {wallClock : SystemTime} {timestamp : Timestamp}
    (hpos : 0 < timeBase.toNat) (hfits : timeBase.toNat ≤ 0x00ffffff)
    (h : responseTimestamp timeBase wallClock = .ok timestamp) : timestamp.fracsec < 2 ^ 24 := by
  unfold responseTimestamp at h
  cases hepoch : wallClock.sinceEpoch with
  | none =>
    rw [hepoch] at h
    cases h
  | some sinceEpoch =>
    simp only [hepoch] at h
    split_ifs at h with hlate
    obtain rfl := Except.ok.inj h
    have hnanos : sinceEpoch % nanosPerSecond < nanosPerSecond := Nat.mod_lt _ (by decide)
    have hticks : sinceEpoch % nanosPerSecond * timeBase.toNat / nanosPerSecond < timeBase.toNat :=
      Nat.div_lt_of_lt_mul (Nat.mul_lt_mul_of_pos_right hnanos hpos)
    rw [UInt32.lt_iff_toNat_lt, truncateToU32, UInt32.toNat_ofNat']
    exact (Nat.mod_le _ _).trans_lt ((Nat.mod_le _ _).trans_lt
      (hticks.trans (Nat.lt_succ_of_le hfits)))

/-- A reporting interval in ticks, as the probe works it out. -/
lemma toNat_interval (timeBase : UInt32) (dataRateHz : UInt16) :
    (timeBase / dataRateHz.toUInt32).toNat = timeBase.toNat / dataRateHz.toNat := by
  rw [UInt32.toNat_div]
  rfl

/-- Two multiples of an interval are one interval apart when they follow each other. -/
lemma one_interval_apart {t i j n : Nat} (h : 0 < n) :
    t + i * n - (t + j * n) = n ↔ i = j + 1 := by
  rw [Nat.add_sub_add_left, ← Nat.sub_mul, Nat.mul_eq_right h.ne']
  omega

namespace Probe

/-! ### Names -/

lemma encodedName_indexed {value field : String} {encoded : List UInt8}
    (h : encodedName value field = .ok encoded) : IndexedName encoded := by
  obtain ⟨rfl, hsize⟩ := encodedName_ok h
  exact ⟨value, hsize, rfl⟩

lemma v2FixedAscii_fixed {value field : String} {encoded : List UInt8}
    (h : v2FixedAscii value field = .ok encoded) : FixedName encoded := by
  unfold v2FixedAscii at h
  split_ifs at h with hvalid
  obtain rfl := Except.ok.inj h
  simp only [Bool.or_eq_true, decide_eq_true_eq, not_or, Nat.not_lt, Bool.not_eq_true',
    Bool.not_eq_false] at hvalid
  obtain ⟨⟨-, hsize⟩, hprintable⟩ := hvalid
  constructor
  · rw [List.length_append, List.length_replicate, utf8Bytes_length]
    exact Nat.add_sub_cancel' hsize
  · rw [List.all_append, Bool.and_eq_true]
    refine ⟨hprintable, ?_⟩
    rw [List.all_eq_true]
    intro byte hbyte
    rw [List.eq_of_mem_replicate hbyte]
    rfl

/-! ### Units -/

/-- A count of at most 24 bits behind its kind. -/
lemma phunit_of_count {k count : UInt32} {j : Nat} (hkind : k.toNat = 2 ^ 24 * j) (hj : j ≤ 1)
    (hpos : 1 ≤ count) (hfits : count ≤ 0x00ffffff) : Phunit (k ||| count) := by
  have hpos : 1 ≤ count.toNat := UInt32.le_iff_toNat_le.mp hpos
  have hlt : count.toNat < 2 ^ 24 := Nat.lt_succ_of_le (UInt32.le_iff_toNat_le.mp hfits)
  have hor : (k ||| count).toNat = 2 ^ 24 * j + count.toNat := by
    rw [UInt32.toNat_or, hkind, Nat.two_pow_add_eq_or_of_lt hlt]
  rintro (hlarge | hzero)
  · have hlarge := UInt32.lt_iff_toNat_lt.mp hlarge
    rw [UInt32.toNat_shiftRight, hor, Nat.shiftRight_eq_div_pow] at hlarge
    change 1 < (2 ^ 24 * j + count.toNat) / 2 ^ 24 at hlarge
    omega
  · have hzero := congrArg UInt32.toNat hzero
    rw [UInt32.toNat_and, hor] at hzero
    change (2 ^ 24 * j + count.toNat) &&& (2 ^ 24 - 1) = 0 at hzero
    rw [Nat.and_two_pow_sub_one_eq_mod] at hzero
    omega

section Numbers

variable {F : Type} [Add F] [Mul F] [Div F] [LT F] [LE F] [DecidableLT F] [DecidableLE F]
  [OfScientific F] [Numeric F]

omit [Add F] [Div F] [LT F] [DecidableLT F] in
lemma v2Phunit_phunit (truncates : Numeric.Truncates F) {scale : F} {current : Bool}
    {field : String} {phunit : UInt32} (h : v2Phunit scale current field = .ok phunit) :
    Phunit phunit := by
  obtain ⟨_, hchecked, h⟩ := bind_eq_ok.mp h
  obtain rfl := Except.ok.inj h
  obtain ⟨-, hlower, hupper⟩ := ensure_eq_ok.mp hchecked
  obtain ⟨hpos, hfits⟩ := truncates.toU32 _ hlower hupper
  cases current with
  | false => exact phunit_of_count (k := 0) (j := 0) rfl (by decide) hpos hfits
  | true => exact phunit_of_count (k := 0x01000000) (j := 1) rfl (by decide) hpos hfits

/-! ### Endpoints -/

variable {single : F → Float32} {profile : Profile F} {compiled : CompiledProfile}
  {wireVersion : WireVersion} {tables : ChannelTables} {e : EndpointDescriptor}

lemma admittedRate_of_compiles (h : profile.Compiles single compiled wireVersion tables)
    (he : e ∈ compiled.endpoints) : AdmittedRate e.dataRateHz e.timeBase := by
  obtain ⟨index, -, hfrom⟩ := h.mem_endpoints he
  obtain ⟨hpos, hfits⟩ := h.fleet.timeBase
  rw [hfrom.dataRateHz, hfrom.timeBase]
  refine ⟨h.fleet.rate, UInt32.le_iff_toNat_le.mp hpos, UInt32.le_iff_toNat_le.mp hfits, ?_⟩
  have hmultiple := congrArg UInt32.toNat h.fleet.multiple
  rw [UInt32.toNat_mod] at hmultiple
  exact hmultiple

/-- Every endpoint of an accepted profile can be encoded. -/
lemma readable_of_compiles (truncates : Numeric.Truncates F)
    (h : profile.Compiles single compiled wireVersion tables) (he : e ∈ compiled.endpoints) :
    Readable e := by
  obtain ⟨index, hindex, hfrom⟩ := h.mem_endpoints he
  obtain ⟨hpos, hfits⟩ := h.fleet.timeBase
  have hids := h.fleet.pmuIds
  have hchannels := h.channels
  refine { timeBase := ⟨?_, ?_⟩, pmuId := ?_, dataRateHz := ?_, multiple := ?_,
           protocolVersion := ?_, v2 := fun hversion => ?_, v3 := fun hversion => ?_ }
  · rw [hfrom.timeBase]
    rintro hzero
    rw [hzero] at hpos
    exact absurd hpos (by decide)
  · have hlt : profile.fleet.timeBase.toNat < 2 ^ 24 :=
      Nat.lt_succ_of_le (UInt32.le_iff_toNat_le.mp hfits)
    rw [hfrom.timeBase, ← UInt32.toNat_inj, UInt32.toNat_shiftRight, Nat.shiftRight_eq_div_pow]
    exact Nat.div_eq_of_lt hlt
  · have hid := hfrom.pmuId
    rintro (hzero | hlast)
    · rw [hzero] at hid
      change 0 = _ at hid
      omega
    · rw [hlast] at hid
      change 65535 = _ at hid
      omega
  · rw [hfrom.dataRateHz, h.fleet.rate]
    decide
  · rw [hfrom.timeBase, hfrom.dataRateHz]
    exact h.fleet.multiple
  · rw [hfrom.protocolVersion, hfrom.wireVersion, h.fleet.version]
  · rw [hfrom.wireVersion] at hversion
    subst hversion
    obtain ⟨channelNames, hnames, hchannels⟩ := bind_eq_ok.mp hchannels
    obtain ⟨phunits, hphunits, hchannels⟩ := bind_eq_ok.mp hchannels
    obtain rfl := Except.ok.inj hchannels
    obtain ⟨voltage, hvoltage, hphunits⟩ := bind_eq_ok.mp hphunits
    obtain ⟨current, hcurrent, hphunits⟩ := bind_eq_ok.mp hphunits
    obtain rfl := Except.ok.inj hphunits
    obtain ⟨hcount, hall⟩ := exists_of_mapM_ok hnames
    have hvoltage := v2Phunit_phunit truncates hvoltage
    have hcurrent := v2Phunit_phunit truncates hcurrent
    cases hfrom.named with
    | v2 encoded metadata pmuName channels =>
      refine ⟨_, metadata, v2FixedAscii_fixed encoded, hcount, fun name hname => ?_, rfl, ?_⟩
      · obtain ⟨text, -, htext⟩ := hall name hname
        exact v2FixedAscii_fixed htext
      · simp [hvoltage, hcurrent]
  · rw [hfrom.wireVersion] at hversion
    subst hversion
    obtain ⟨channelNames, hnames, hchannels⟩ := bind_eq_ok.mp hchannels
    obtain rfl := Except.ok.inj hchannels
    obtain ⟨hcount, hall⟩ := exists_of_mapM_ok hnames
    cases hfrom.named with
    | v3 encoded metadata channels =>
      refine ⟨encodedName_indexed hfrom.pdcName, encodedName_indexed encoded, hfrom.globalPmuId,
        channels ▸ hcount, fun name hname => ?_⟩
      obtain ⟨text, -, htext⟩ := hall name (channels ▸ hname)
      exact encodedName_indexed htext

/-! ### Static frames -/

/-- Every command of the wire version is answered with a frame that is encoded without a panic, and
that the probe decodes: with its type, identifier and timestamp, a header of printable text, and a
configuration that it reads to the end at the rate of the endpoint, and at no other. -/
theorem staticFrames_agree (single : F → Float32) (profile : Profile F) (compiled : CompiledProfile)
    (truncates : Numeric.Truncates F) (accepted : compileProfile single profile = .ok compiled)
    (e : EndpointDescriptor) (he : e ∈ compiled.endpoints) (timestamp : Timestamp)
    (hfracsec : timestamp.fracsec < 2 ^ 24) :
    ∃ frames, staticFrames e timestamp = .ok frames ∧
      ∀ command, (informationPending e.wireVersion command).isSome →
        ∃ bytes frame, frames.staticFrame command = some bytes ∧
          DecodesAnswer e timestamp command bytes frame := by
  obtain ⟨wireVersion, tables, hcompiles⟩ := compileProfile_ok accepted
  exact staticFrames_decoded (readable_of_compiles truncates hcompiles he) hfracsec

/-- An endpoint of the small profile. -/
def soleDescriptor : EndpointDescriptor := soleCompiled.endpoints.head (by decide +kernel)

lemma mem_soleCompiled : soleDescriptor ∈ soleCompiled.endpoints := List.head_mem _

theorem staticFrames_agree_small :
    ∃ frames, staticFrames soleDescriptor ⟨1000, 20000⟩ = .ok frames ∧
      ∃ bytes frame, frames.staticFrame .v2Header = some bytes ∧
        DecodesAnswer soleDescriptor ⟨1000, 20000⟩ .v2Header bytes frame := by
  obtain ⟨frames, hframes, hanswers⟩ := staticFrames_agree singleOf (soleProfile 230000 400 10)
    soleCompiled Numeric.truncates_rat compileProfile_sole soleDescriptor mem_soleCompiled
    ⟨1000, 20000⟩ (by decide)
  exact ⟨frames, hframes, hanswers .v2Header (by decide +kernel)⟩

/-! ### Error responses -/

lemma value_inj {code code' : WireV3.ErrorResponseCode} (h : code.value = code'.value) :
    code = code' := by
  cases code <;> cases code' <;> first | rfl | cases h

/-- An error response is a frame to the probe, with the stream identifier and the code it was made
with, and with no other code. -/
theorem errorResponse_agrees (single : F → Float32) (profile : Profile F)
    (compiled : CompiledProfile) (accepted : compileProfile single profile = .ok compiled)
    (context : EndpointContext) (he : context.descriptor ∈ compiled.endpoints)
    (wallClock : SystemTime) (timestamp : Timestamp)
    (htimestamp : responseTimestamp context.descriptor.timeBase wallClock = .ok timestamp)
    (seed : UInt64) (streamId : UInt16) (code : WireV3.ErrorResponseCode) :
    ∃ bytes frame,
      (QueuedFrame.errorResponse streamId code timestamp).contents context seed = some bytes ∧
      decodeFrame .v3 bytes = .ok frame ∧ frame.frameType = WireV3.frameTypeErrorResponse ∧
      frame.streamId = streamId ∧ frame.timestamp = timestamp ∧
      ∀ code', decodeErrorResponse frame.body = .ok (WireV3.ErrorResponseCode.value code') ↔
        code' = code := by
  obtain ⟨wireVersion, tables, hcompiles⟩ := compileProfile_ok accepted
  have admitted := admittedRate_of_compiles hcompiles he
  have hfracsec := responseTimestamp_fracsec admitted.positive admitted.fits htimestamp
  have hcarries : Carries .v3 WireV3.frameTypeErrorResponse := by decide
  have hbody : minFrameBytes + (u16ToBeBytes code.value ++ u16ToBeBytes 0).length ≤ 65535 :=
    show 20 ≤ 65535 by decide
  have hdecoded : decodeFrame .v3 (WireV3.encodeErrorResponse streamId code timestamp) = .ok
      ⟨WireV3.frameTypeErrorResponse, streamId, timestamp, 0,
        u16ToBeBytes code.value ++ u16ToBeBytes 0⟩ :=
    decodeFrame_frameWith hcarries hfracsec hbody
  refine ⟨_, _, rfl, hdecoded, rfl, rfl, rfl, fun code' => ?_⟩
  have hcode : decodeErrorResponse (u16ToBeBytes code.value ++ u16ToBeBytes 0) =
      .ok code.value := by
    have hlength : ¬ (u16ToBeBytes code.value ++ u16ToBeBytes 0).length ≠ 4 := not_not.mpr rfl
    rw [decodeErrorResponse, if_neg hlength]
    exact congrArg Except.ok (u16FromBeBytes_toBeBytes _)
  rw [hcode, Except.ok.injEq]
  constructor
  · intro h
    exact value_inj h.symm
  · rintro rfl
    rfl

theorem errorResponse_agrees_small :
    ∃ bytes frame, (QueuedFrame.errorResponse 9 .wrongStreamOrPmu ⟨999, 990000⟩).contents
        ⟨soleDescriptor, soleCompiled.limits, .v2 [] [] []⟩ 7 = some bytes ∧
      decodeFrame .v3 bytes = .ok frame ∧ decodeErrorResponse frame.body = .ok 2 := by
  obtain ⟨bytes, frame, hcontents, hdecoded, -, -, -, hcode⟩ :=
    errorResponse_agrees singleOf (soleProfile 230000 400 10) soleCompiled compileProfile_sole
      ⟨soleDescriptor, soleCompiled.limits, .v2 [] [] []⟩ mem_soleCompiled 999990000000
      ⟨999, 990000⟩ (by decide +kernel) 7 9 .wrongStreamOrPmu
  exact ⟨bytes, frame, hcontents, hdecoded, (hcode .wrongStreamOrPmu).mpr rfl⟩

/-! ### Binding -/

/-- The endpoints of an accepted profile are bound to frames that are ready. -/
lemma bindEndpoints_ready (limits : Limits) (truncates : Numeric.Truncates F)
    (h : profile.Compiles single compiled wireVersion tables) {timestamp : Timestamp}
    (hfracsec : timestamp.fracsec < 2 ^ 24) :
    ∃ endpoints, compiled.endpoints.mapM (bindEndpoint limits timestamp) = .ok endpoints ∧
      endpoints.all selectedWireFrameIsValid = true := by
  have hbind : ∀ e ∈ compiled.endpoints, ∃ bound, bindEndpoint limits timestamp e = .ok bound ∧
      selectedWireFrameIsValid bound = true := fun e he =>
    selectedWireFrameIsValid_of_readable (readable_of_compiles truncates h he) hfracsec
  obtain ⟨endpoints, hendpoints⟩ := mapM_isOk fun e he =>
    (hbind e he).imp fun bound hbound => hbound.1
  refine ⟨endpoints, hendpoints, List.all_eq_true.mpr fun bound hbound => ?_⟩
  obtain ⟨e, he, hmade⟩ := (exists_of_mapM_ok hendpoints).2 bound hbound
  obtain ⟨bound', hbound', hvalid⟩ := hbind e he
  obtain rfl := Except.ok.inj (hmade.symm.trans hbound')
  exact hvalid

/-- A server that is bound with an accepted profile is ready. -/
lemma ready_of_bind (truncates : Numeric.Truncates F)
    (h : profile.Compiles single compiled wireVersion tables) {input : BindInput}
    (hprofile : input.profile = compiled) {s : Server} (hbind : bindInner input = .ok s) :
    s.ready = true := by
  obtain ⟨first, rest, clock, started, endpoints, hall, -, aligned, hendpoints, hserver⟩ :=
    bindInner_ok hbind
  rw [hprofile] at hall
  have hfracsec := firstTimestamp_fracsec (admittedRate_of_compiles h
    (hall ▸ List.mem_cons_self ..)) aligned
  obtain ⟨endpoints', hendpoints', hvalid⟩ :=
    bindEndpoints_ready input.profile.limits truncates h hfracsec
  rw [hall] at hendpoints'
  obtain rfl := Except.ok.inj (hendpoints.symm.trans hendpoints')
  rw [hserver]
  exact hvalid

/-- A server of the small profile. -/
def soleServer : Server :=
  (bindInner { soleInput .v2 none with profile := soleCompiled }).toOption.get (by decide +kernel)

/-- A clock that starts at a whole second, and when it does. -/
def soleStart : WallClock × Instant :=
  (WallClock.alignedStart soleDescriptor.dataRateHz soleDescriptor.timeBase 999990000000 0
    ).toOption.get (by decide +kernel)

/-- The context of the endpoint. -/
def soleContext : EndpointContext := ⟨soleDescriptor, soleCompiled.limits, (.v2 [] [] [])⟩

/-- A timestamp at a reporting interval is taken, one interval behind the one before it. -/
lemma checkTimestamp_boundary (label : String) {dataRateHz : UInt16} {timeBase : UInt32}
    (admitted : AdmittedRate dataRateHz timeBase) {timestamp : Timestamp}
    (hwithin : timestamp.fracsec.toNat < timeBase.toNat)
    (hboundary : timeBase.toNat / dataRateHz.toNat ∣ timestamp.fracsec.toNat) (pmuId : UInt16)
    (previous : Option Timestamp) :
    checkTimestamp label timestamp ⟨timeBase, pmuId, dataRateHz⟩ previous = .ok () ↔
      ∀ p ∈ previous, ticks ⟨timeBase, pmuId, dataRateHz⟩ timestamp -
        ticks ⟨timeBase, pmuId, dataRateHz⟩ p = timeBase.toNat / dataRateHz.toNat := by
  have hstep := toNat_interval timeBase dataRateHz
  have hrate : dataRateHz ≠ 0 := by
    rw [admitted.rate]
    decide
  have hnonzero : timeBase / dataRateHz.toUInt32 ≠ 0 := by
    rw [← UInt32.toNat_inj.ne, hstep]
    exact admitted.interval_pos.ne'
  have hinterval : timestamp.fracsec % (timeBase / dataRateHz.toUInt32) = 0 := by
    rw [← UInt32.toNat_inj, UInt32.toNat_mod, hstep]
    exact Nat.mod_eq_zero_of_dvd hboundary
  rw [checkTimestamp_iff label timestamp ⟨timeBase, pmuId, dataRateHz⟩ previous hrate hnonzero,
    and_iff_right (UInt32.lt_iff_toNat_lt.mpr hwithin), and_iff_right hinterval, hstep]

/-- The data frame of a sample, as the probe takes it. -/
lemma contents_taken {context : EndpointContext} (readable : Readable context.descriptor)
    (admitted : AdmittedRate context.descriptor.dataRateHz context.descriptor.timeBase)
    {clock : WallClock}
    (aligned : clock.Aligned context.descriptor.dataRateHz context.descriptor.timeBase)
    (seed : UInt64) {tick : Tick} {i : Nat} (htick : tick.timestamp = clock.timestampForSample i)
    (hreaches : clock.Reaches i) :
    ∃ bytes frame, (QueuedFrame.data tick).contents context seed = some bytes ∧
      bytes.length = periodicDataFrameBytes context.descriptor.wireVersion ∧
      decodeFrame context.descriptor.wireVersion bytes = .ok frame ∧
      frame.frameType = dataFrameType context.descriptor.wireVersion ∧
      frame.streamId = context.descriptor.streamId ∧
      frame.timestamp = clock.timestampForSample i ∧
      ∀ configuration : ConfigurationSummary,
        configuration.timeBase = context.descriptor.timeBase →
        configuration.dataRateHz = context.descriptor.dataRateHz →
        decodePeriodicData context.descriptor.wireVersion frame configuration none = .ok () ∧
        ∀ j, clock.Reaches j →
          (decodePeriodicData context.descriptor.wireVersion frame configuration
            (some (clock.timestampForSample j)) = .ok () ↔ i = j + 1) := by
  obtain ⟨hticks, hwithin, hboundary⟩ := timestampForSample_of_reaches admitted aligned hreaches
  have hfracsec : tick.timestamp.fracsec < 2 ^ 24 := by
    rw [htick]
    exact UInt32.lt_iff_toNat_lt.mpr (hwithin.trans_le (admitted.fits.trans (by decide)))
  obtain ⟨bytes, frame, label, hcontents, hlength, hdecoded, htype, hid, htime, hcheck⟩ :=
    contents_decoded readable rfl seed hfracsec
  refine ⟨bytes, frame, hcontents, hlength, hdecoded, htype, hid, htime.trans htick, ?_⟩
  rintro ⟨timeBase, pmuId, dataRateHz⟩ rfl rfl
  have htaken (previous : Option Timestamp) :=
    checkTimestamp_boundary label admitted hwithin hboundary pmuId previous
  rw [hcheck, htick]
  refine ⟨(htaken none).mpr (by simp), fun j hj => (htaken (some _)).trans ?_⟩
  obtain ⟨hticks', -, -⟩ := timestampForSample_of_reaches admitted aligned hj
  simp only [Option.mem_some_iff, forall_eq']
  change (clock.timestampForSample i).ticks context.descriptor.timeBase.toNat -
    (clock.timestampForSample j).ticks context.descriptor.timeBase.toNat = _ ↔ _
  rw [hticks, hticks', one_interval_apart admitted.interval_pos]

/-- The probe takes the data frame of a sample, whatever its values: as the first one, and behind
the frame of another sample exactly when it is the next one. -/
theorem dataFrames_agree (single : F → Float32) (profile : Profile F) (compiled : CompiledProfile)
    (truncates : Numeric.Truncates F) (accepted : compileProfile single profile = .ok compiled)
    (context : EndpointContext) (he : context.descriptor ∈ compiled.endpoints)
    (wallClock : SystemTime) (now started : Instant) (clock : WallClock)
    (aligned : WallClock.alignedStart context.descriptor.dataRateHz context.descriptor.timeBase
      wallClock now = .ok (clock, started)) (seed : UInt64) (tick : Tick) (i : Nat)
    (htick : tick.timestamp = clock.timestampForSample i) (hreaches : clock.Reaches i) :
    ∃ bytes frame, (QueuedFrame.data tick).contents context seed = some bytes ∧
      decodeFrame context.descriptor.wireVersion bytes = .ok frame ∧
      frame.frameType = dataFrameType context.descriptor.wireVersion ∧
      frame.streamId = context.descriptor.streamId ∧
      frame.timestamp = clock.timestampForSample i ∧
      ∀ configuration : ConfigurationSummary,
        configuration.timeBase = context.descriptor.timeBase →
        configuration.dataRateHz = context.descriptor.dataRateHz →
        decodePeriodicData context.descriptor.wireVersion frame configuration none = .ok () ∧
        ∀ j, clock.Reaches j →
          (decodePeriodicData context.descriptor.wireVersion frame configuration
            (some (clock.timestampForSample j)) = .ok () ↔ i = j + 1) := by
  obtain ⟨wireVersion, tables, hcompiles⟩ := compileProfile_ok accepted
  have admitted := admittedRate_of_compiles hcompiles he
  obtain ⟨bytes, frame, hcontents, -, hframe⟩ :=
    contents_taken (readable_of_compiles truncates hcompiles he) admitted
      (WallClock.aligned_of_start admitted aligned) seed htick hreaches
  exact ⟨bytes, frame, hcontents, hframe⟩

theorem dataFrames_agree_small :
    ∃ bytes frame, (QueuedFrame.data ⟨3, soleStart.1.timestampForSample 3, true, none⟩).contents
        soleContext 7 = some bytes ∧
      decodeFrame .v2 bytes = .ok frame ∧
      decodePeriodicData .v2 frame ⟨1000000, 1001, 50⟩
        (some (soleStart.1.timestampForSample 2)) = .ok () := by
  obtain ⟨bytes, frame, hcontents, hdecoded, -, -, -, htaken⟩ :=
    dataFrames_agree singleOf (soleProfile 230000 400 10) soleCompiled Numeric.truncates_rat
      compileProfile_sole soleContext mem_soleCompiled 999990000000 0 _ _ (eq_ok_get _) 7
      ⟨3, soleStart.1.timestampForSample 3, true, none⟩ 3 rfl (by decide +kernel)
  have hversion : soleContext.descriptor.wireVersion = .v2 := by decide +kernel
  rw [hversion] at hdecoded htaken
  obtain ⟨-, hnext⟩ := htaken ⟨1000000, 1001, 50⟩ (by decide +kernel) (by decide +kernel)
  exact ⟨bytes, frame, hcontents, hdecoded, (hnext 2 (by decide +kernel)).mpr rfl⟩

end Numbers

end Probe

end PmuSimulator
