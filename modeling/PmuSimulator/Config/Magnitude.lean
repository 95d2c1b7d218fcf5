import Mathlib
import PmuSimulator.Config.Compiled
import PmuSimulator.Wire.V2

/-!
# Magnitudes and their scale

The compiler admits a magnitude when its quotient by the configured scale fits 16 bits. A V2 frame
does not divide by that scale, but by the one that was rounded into the 24-bit count of a PHUNIT.
The two differ by up to a half of a hundred-thousandth, which for the smallest scales is a large
part of them.

The encoder's arithmetic is given over any numbers, as the compiler's is; over the rationals it is
exact.
-/

namespace PmuSimulator

section Numbers

variable {F : Type} [Add F] [Mul F] [Div F] [OfScientific F] [Numeric F]

/-- The magnitude of a phasor channel without an excursion, at a value of its waveform. -/
def PhasorRecipe.sampledMagnitude (phasors : PhasorRecipe F) (channel : Nat) (waveform : F) : F :=
  if channel < 3 then phasors.voltageMagnitude + phasors.voltageVariation * waveform
  else phasors.currentMagnitude + phasors.currentVariation * waveform

/-- The scale that a PHUNIT stands for. -/
def scaleOfPhunit (phunit : UInt32) : F := Numeric.ofU32 (phunit &&& 0x00ffffff) / 100000.0

/-- The rounded quotient of a magnitude by a scale, before it is made a 16-bit number. -/
def roundedMagnitude (value scale : F) : F := Numeric.round (value / scale)

end Numbers

/-- The phasors of an endpoint. -/
def EndpointDescriptor.phasors (e : EndpointDescriptor) : PhasorRecipe Float32 where
  voltageMagnitude := e.voltageMagnitude
  voltageVariation := e.voltageVariation
  voltageClass := e.voltageClass
  voltageScale := e.voltageScale
  currentMagnitude := e.currentMagnitude
  currentVariation := e.currentVariation
  currentScale := e.currentScale

/-- On single-precision numbers, this is what the encoder computes. -/
theorem fixedMagnitude_sampled (e : EndpointDescriptor) (seed : UInt64)
    (sampleIndex channel : Nat) (phunit : UInt32) :
    fixedMagnitude (sampledMagnitude e seed sampleIndex none channel)
        (WireV2.phunitScale phunit) =
      (roundedMagnitude
        (e.phasors.sampledMagnitude channel (waveform seed e.index channel sampleIndex))
        (scaleOfPhunit phunit)).toUInt16 := rfl

/-! ### Rounding -/

lemma roundAway_of_nonneg {q : ℚ} (h : 0 ≤ q) : roundAway q = round q := if_pos h

lemma roundAway_nonneg {q : ℚ} (h : 0 ≤ q) : 0 ≤ roundAway q := by
  rw [roundAway_of_nonneg h, round_eq]
  exact Int.floor_nonneg.mpr (by linarith)

lemma roundAway_le_iff {q : ℚ} (h : 0 ≤ q) (n : ℤ) : roundAway q ≤ n ↔ 2 * q < 2 * n + 1 := by
  rw [roundAway_of_nonneg h, round_eq, ← Int.lt_add_one_iff, Int.floor_lt]
  push_cast
  constructor
  · intro hlt
    linarith
  · intro hlt
    linarith

/-! ### What the compiler admits -/

lemma validatePositiveFinite_ok {name : String} {value : ℚ} {u : Unit}
    (h : validatePositiveFinite name value = .ok u) : 0 < value := by
  obtain ⟨_, -, h⟩ := bind_eq_ok.mp h
  have hpositive := ensure_eq_ok.mp h
  norm_num at hpositive
  exact hpositive

lemma validateNonNegative_ok {name : String} {value : ℚ} {u : Unit}
    (h : validateNonNegative name value = .ok u) : 0 ≤ value := by
  obtain ⟨_, -, h⟩ := bind_eq_ok.mp h
  have hnonneg := ensure_eq_ok.mp h
  norm_num at hnonneg
  exact hnonneg

lemma validateVoltage_ok {phasors : PhasorRecipe ℚ} (h : validateVoltage phasors = .ok ()) :
    0 < phasors.voltageMagnitude ∧ 0 ≤ phasors.voltageVariation ∧
      phasors.voltageVariation ≤ phasors.voltageMagnitude := by
  obtain ⟨_, hmagnitude, h⟩ := bind_eq_ok.mp h
  obtain ⟨_, hvariation, h⟩ := bind_eq_ok.mp h
  obtain ⟨_, hle, h⟩ := bind_eq_ok.mp h
  exact ⟨validatePositiveFinite_ok hmagnitude, validateNonNegative_ok hvariation,
    not_lt.mp (ensure_eq_ok.mp hle)⟩

lemma validateCurrent_ok {phasors : PhasorRecipe ℚ} (h : validateCurrent phasors = .ok ()) :
    0 < phasors.currentMagnitude ∧ 0 ≤ phasors.currentVariation ∧
      phasors.currentVariation ≤ phasors.currentMagnitude := by
  obtain ⟨_, hmagnitude, h⟩ := bind_eq_ok.mp h
  obtain ⟨_, hvariation, h⟩ := bind_eq_ok.mp h
  obtain ⟨_, hle, h⟩ := bind_eq_ok.mp h
  exact ⟨validatePositiveFinite_ok hmagnitude, validateNonNegative_ok hvariation,
    not_lt.mp (ensure_eq_ok.mp hle)⟩

/-- The count of a PHUNIT is below its kind. -/
lemma phunit_count (current : Bool) {n : ℕ} (hn : n ≤ 0x00ffffff) :
    (((if current then 0x01000000 else 0) ||| UInt32.ofNat n) &&& 0x00ffffff).toNat = n := by
  have hlt : n < 2 ^ 24 := Nat.lt_succ_of_le hn
  have hnat : (UInt32.ofNat n).toNat = n := UInt32.toNat_ofNat_of_lt (hlt.trans (by decide))
  rw [UInt32.toNat_and, UInt32.toNat_or, hnat]
  change (_ ||| n) &&& (2 ^ 24 - 1) = n
  rw [Nat.and_two_pow_sub_one_eq_mod, Nat.or_mod_two_pow, Nat.mod_eq_of_lt hlt]
  cases current with
  | false => simp
  | true => simp

/-- A scale that a PHUNIT represents is there as its rounded count. -/
lemma v2Phunit_ok {scale : ℚ} {current : Bool} {field : String} {phunit : UInt32}
    (h : v2Phunit scale current field = .ok phunit) :
    1 ≤ roundAway (scale * 100000) ∧
      (scaleOfPhunit phunit : ℚ) = roundAway (scale * 100000) / 100000 := by
  obtain ⟨_, hrange, h⟩ := bind_eq_ok.mp h
  obtain rfl := Except.ok.inj h
  obtain ⟨-, hlower, hupper⟩ := ensure_eq_ok.mp hrange
  have hround : (Numeric.round (scale * 100000.0) : ℚ) = (roundAway (scale * 100000) : ℤ) := by
    norm_num [Numeric.round]
  rw [hround] at hlower hupper ⊢
  have hone : 1 ≤ roundAway (scale * 100000) := by
    norm_num at hlower
    exact_mod_cast hlower
  have hmost : roundAway (scale * 100000) ≤ 0x00ffffff := by
    change ((roundAway (scale * 100000) : ℤ) : ℚ) ≤ ((0x00ffffff : UInt32).toNat : ℚ) at hupper
    exact_mod_cast hupper
  refine ⟨hone, ?_⟩
  obtain ⟨n, hn⟩ := Int.eq_ofNat_of_zero_le (zero_le_one.trans hone)
  rw [hn] at hmost ⊢
  have hcount : (Numeric.toU32 (((n : ℤ) : ℚ)) : UInt32) = UInt32.ofNat n := by
    simp only [Numeric.toU32]
    rw [Int.floor_intCast, Int.toNat_natCast, Nat.min_eq_left (by omega)]
  simp only [scaleOfPhunit, hcount]
  change ((UInt32.toNat _ : ℕ) : ℚ) / 100000.0 = _
  rw [phunit_count current (by omega)]
  norm_num

/-! ### Saturation -/

/-- The rounded quotients of all values of a waveform fit 16 bits when the largest does. -/
lemma roundedMagnitude_fits_iff {magnitude variation : ℚ} {n : ℤ} (hn : 1 ≤ n)
    (hvariation : 0 ≤ variation) (hle : variation ≤ magnitude) :
    (∀ w ∈ Set.Icc (-1 : ℚ) 1,
      0 ≤ roundedMagnitude (magnitude + variation * w) ((n : ℚ) / 100000) ∧
      roundedMagnitude (magnitude + variation * w) ((n : ℚ) / 100000) ≤ 65535) ↔
    200000 * (magnitude + variation) < 131071 * n := by
  have hpos : (0 : ℚ) < n := by exact_mod_cast hn
  have hquotient (value : ℚ) : value / ((n : ℚ) / 100000) = value * 100000 / n := by
    rw [div_div_eq_mul_div]
  have hnonneg (w : ℚ) (hw : -1 ≤ w) :
      0 ≤ (magnitude + variation * w) * 100000 / n := by
    have hvalue : 0 ≤ magnitude + variation * w := by nlinarith
    positivity
  have hfits (w : ℚ) (hw : -1 ≤ w) :
      roundedMagnitude (magnitude + variation * w) ((n : ℚ) / 100000) ≤ 65535 ↔
        200000 * (magnitude + variation * w) < 131071 * n := by
    have hround := roundAway_le_iff (hnonneg w hw) 65535
    rw [mul_div_assoc', div_lt_iff₀ hpos] at hround
    simp only [roundedMagnitude, Numeric.round, hquotient]
    constructor
    · intro h
      have := hround.mp (by exact_mod_cast h)
      push_cast at this
      linarith
    · intro h
      have := hround.mpr (by push_cast; linarith)
      exact_mod_cast this
  constructor
  · intro h
    have hone := (hfits 1 (by norm_num)).mp (h 1 (by norm_num)).2
    rwa [mul_one] at hone
  · rintro h w ⟨hlower, hupper⟩
    refine ⟨?_, (hfits w hlower).mpr ?_⟩
    · simp only [roundedMagnitude, Numeric.round, hquotient]
      exact_mod_cast roundAway_nonneg (hnonneg w hlower)
    · nlinarith

/-- A V2 profile as the compiler makes it. -/
lemma v2_tables {single : ℚ → Float32} {profile : Profile ℚ} {compiled : CompiledProfile}
    (hv2 : profile.fleet.protocolVersion = v2ProtocolVersion)
    (h : compileProfile single profile = .ok compiled) :
    ∃ channelNames phunits, v2Phunits profile.fleet.phasors = .ok phunits ∧
      profile.Compiles single compiled .v2 (.v2 channelNames phunits) := by
  obtain ⟨wireVersion, tables, hcompiles⟩ := compileProfile_ok h
  have hversion := hcompiles.fleet.version
  have hchannels := hcompiles.channels
  cases wireVersion with
  | v2 =>
    obtain ⟨channelNames, -, hchannels⟩ := bind_eq_ok.mp hchannels
    obtain ⟨phunits, hphunits, hchannels⟩ := bind_eq_ok.mp hchannels
    obtain rfl := Except.ok.inj hchannels
    exact ⟨channelNames, phunits, hphunits, hcompiles⟩
  | v3 =>
    rw [hv2] at hversion
    exact absurd hversion (by decide)

/-- The magnitudes of an accepted V2 profile never saturate exactly when the largest voltage and the
largest current lie below 65535.5 of the scale that was rounded into the PHUNIT. -/
theorem magnitudes_fit_iff (single : ℚ → Float32) (profile : Profile ℚ)
    (compiled : CompiledProfile) (hv2 : profile.fleet.protocolVersion = v2ProtocolVersion)
    (h : compileProfile single profile = .ok compiled) :
    (∀ e ∈ compiled.endpoints, ∀ metadata, e.v2 = some metadata →
      ∀ channel < phasorCount, ∀ w ∈ Set.Icc (-1 : ℚ) 1,
        0 ≤ roundedMagnitude (profile.fleet.phasors.sampledMagnitude channel w)
          (scaleOfPhunit (metadata.phunits.getD channel 0)) ∧
        roundedMagnitude (profile.fleet.phasors.sampledMagnitude channel w)
          (scaleOfPhunit (metadata.phunits.getD channel 0)) ≤ 65535) ↔
    200000 * (profile.fleet.phasors.voltageMagnitude + profile.fleet.phasors.voltageVariation) <
        131071 * roundAway (profile.fleet.phasors.voltageScale * 100000) ∧
      200000 * (profile.fleet.phasors.currentMagnitude + profile.fleet.phasors.currentVariation) <
        131071 * roundAway (profile.fleet.phasors.currentScale * 100000) := by
  obtain ⟨channelNames, phunits, hphunits, hcompiles⟩ := v2_tables hv2 h
  obtain ⟨voltage, hvoltage, hphunits⟩ := bind_eq_ok.mp hphunits
  obtain ⟨current, hcurrent, hphunits⟩ := bind_eq_ok.mp hphunits
  obtain rfl := Except.ok.inj hphunits
  obtain ⟨hvoltageCount, hvoltageScale⟩ := v2Phunit_ok hvoltage
  obtain ⟨hcurrentCount, hcurrentScale⟩ := v2Phunit_ok hcurrent
  obtain ⟨-, hvariation, hle⟩ := validateVoltage_ok hcompiles.fleet.voltage
  obtain ⟨-, hvariation', hle'⟩ := validateCurrent_ok hcompiles.fleet.current
  rw [← roundedMagnitude_fits_iff hvoltageCount hvariation hle,
    ← roundedMagnitude_fits_iff hcurrentCount hvariation' hle', ← hvoltageScale, ← hcurrentScale]
  have hmetadata {e : EndpointDescriptor} (he : e ∈ compiled.endpoints) :
      ∃ metadata, e.v2 = some metadata ∧
        metadata.phunits = [voltage, voltage, voltage, current, current, current] := by
    obtain ⟨index, -, hfrom⟩ := hcompiles.mem_endpoints he
    cases hfrom.named with
    | v2 encoded metadata pmuName channels => exact ⟨_, metadata, rfl⟩
  constructor
  · intro hall
    obtain ⟨e, he⟩ : ∃ e, e ∈ compiled.endpoints := by
      refine List.exists_mem_of_length_pos ?_
      rw [← hcompiles.endpoints.length_eq, List.length_range]
      exact hcompiles.fleet.nonempty
    obtain ⟨metadata, hsome, hunits⟩ := hmetadata he
    refine ⟨fun w hw => ?_, fun w hw => ?_⟩
    · have := hall e he metadata hsome 0 (by decide) w hw
      rwa [hunits] at this
    · have := hall e he metadata hsome 3 (by decide) w hw
      rwa [hunits] at this
  · rintro ⟨hvoltages, hcurrents⟩ e he metadata hsome channel hchannel w hw
    obtain ⟨metadata', hsome', hunits⟩ := hmetadata he
    obtain rfl := Option.some.inj (hsome.symm.trans hsome')
    rw [hunits]
    -- three channels are voltages, three are currents
    match channel, hchannel with
    | 0, _ | 1, _ | 2, _ => exact hvoltages w hw
    | 3, _ | 4, _ | 5, _ => exact hcurrents w hw

theorem magnitudes_fit_iff_small :
    ∃ compiled, compileProfile singleOf (soleProfile 230000 400 10) = .ok compiled ∧
      ∀ e ∈ compiled.endpoints, ∀ metadata, e.v2 = some metadata →
        ∀ channel < phasorCount, ∀ w ∈ Set.Icc (-1 : ℚ) 1,
          0 ≤ roundedMagnitude
            ((soleProfile 230000 400 10).fleet.phasors.sampledMagnitude channel w)
            (scaleOfPhunit (metadata.phunits.getD channel 0)) ∧
          roundedMagnitude
            ((soleProfile 230000 400 10).fleet.phasors.sampledMagnitude channel w)
            (scaleOfPhunit (metadata.phunits.getD channel 0)) ≤ 65535 := by
  have hok : (compileProfile singleOf (soleProfile 230000 400 10)).isOk = true := by
    decide +kernel
  cases h : compileProfile singleOf (soleProfile 230000 400 10) with
  | error e =>
    rw [h] at hok
    cases hok
  | ok compiled =>
    refine ⟨compiled, rfl, (magnitudes_fit_iff singleOf _ compiled rfl h).mpr ?_⟩
    decide +kernel

/-- The scale `7 / 2 ^ 19` has the count 1, so the magnitude is divided by a hundred-thousandth. -/
theorem magnitude_saturates :
    ∃ compiled, compileProfile singleOf (soleProfile (65535 * 7 / 2 ^ 19) 0 (7 / 2 ^ 19)) =
        .ok compiled ∧
      ∃ e ∈ compiled.endpoints, ∃ metadata, e.v2 = some metadata ∧
        roundedMagnitude
          ((soleProfile (65535 * 7 / 2 ^ 19) 0 (7 / 2 ^ 19)).fleet.phasors.sampledMagnitude 0 1)
          (scaleOfPhunit (metadata.phunits.getD 0 0)) = 87499 := by
  have hcounts : (compileProfile singleOf (soleProfile (65535 * 7 / 2 ^ 19) 0 (7 / 2 ^ 19))).map
      (fun compiled => compiled.endpoints.map fun e => e.v2.map V2EndpointMetadata.phunits) =
        .ok [some [1, 1, 1, 0x010186a0, 0x010186a0, 0x010186a0]] := by
    decide +kernel
  cases h : compileProfile singleOf (soleProfile (65535 * 7 / 2 ^ 19) 0 (7 / 2 ^ 19)) with
  | error e =>
    rw [h] at hcounts
    cases hcounts
  | ok compiled =>
    rw [h] at hcounts
    obtain ⟨e, rest, hendpoints, he, -⟩ := List.map_eq_cons_iff.mp (Except.ok.inj hcounts)
    obtain ⟨metadata, hmetadata, hunits⟩ := Option.map_eq_some_iff.mp he
    refine ⟨compiled, rfl, e, by simp [hendpoints], metadata, hmetadata, ?_⟩
    rw [hunits]
    decide +kernel

end PmuSimulator
