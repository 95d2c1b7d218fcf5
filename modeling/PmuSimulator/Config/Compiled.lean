import Mathlib
import PmuSimulator.Config.Profile

/-!
# What an accepted profile satisfies

Acceptance is taken apart once: into what the validation has checked of the fleet, and into what
each endpoint has of it. Later proofs do not open the compiler again.
-/

namespace PmuSimulator

/-! ### Checks -/

@[simp] lemma ensure_eq_ok {condition : Prop} [Decidable condition] {message : String} {u : Unit} :
    ensure condition message = .ok u ↔ condition := by
  unfold ensure
  split_ifs with h
  · simp [h]
  · simp [h]

@[simp] lemma okOr_eq_ok {α : Type} {value : Option α} {message : String} {a : α} :
    okOr value message = .ok a ↔ value = some a := by
  cases value with
  | none => simp [okOr]
  | some b => simp [okOr]

lemma toU16?_eq_some {n : Nat} {a : UInt16} (h : toU16? n = some a) : a.toNat = n := by
  unfold toU16? at h
  split_ifs at h with hn
  obtain rfl := Option.some.inj h
  exact UInt16.toNat_ofNat_of_lt hn

lemma checkedAddU16_eq_some {a b c : UInt16} (h : checkedAddU16 a b = some c) :
    c.toNat = a.toNat + b.toNat := by
  unfold checkedAddU16 at h
  split_ifs at h with hlt
  obtain rfl := Option.some.inj h
  rw [UInt16.toNat_add, Nat.mod_eq_of_lt hlt]

lemma tryFrom_ok {protocolVersion : UInt8} {wireVersion : WireVersion}
    (h : WireVersion.tryFrom protocolVersion = .ok wireVersion) :
    wireVersion.protocolVersion = protocolVersion := by
  unfold WireVersion.tryFrom at h
  split_ifs at h with h₂ h₃
  · obtain rfl := Except.ok.inj h
    exact h₂.symm
  · obtain rfl := Except.ok.inj h
    exact h₃.symm

/-- The identifiers of a range that ends in an admitted one are in `1..=65534`. -/
lemma finalIdentifier_ok {first offset final : UInt16} {name : String}
    (h : finalIdentifier first offset name = .ok final) :
    final.toNat = first.toNat + offset.toNat ∧ 1 ≤ first.toNat ∧ final.toNat ≤ 65534 := by
  obtain ⟨finalValue, hadd, h⟩ := bind_eq_ok.mp h
  obtain ⟨_, hrange, h⟩ := bind_eq_ok.mp h
  obtain rfl := Except.ok.inj h
  rw [ensure_eq_ok, not_or] at hrange
  refine ⟨checkedAddU16_eq_some (okOr_eq_ok.mp hadd), ?_, ?_⟩
  · rw [Nat.one_le_iff_ne_zero, ne_eq, ← UInt16.toNat_zero, UInt16.toNat_inj]
    exact hrange.1
  · have hlt := finalValue.toNat_lt
    have hne : finalValue.toNat ≠ 65535 := fun h => hrange.2 (UInt16.toNat_inj.mp h)
    omega

variable {F : Type}

/-! ### Endpoints -/

/-- The name of an endpoint, and what else depends on the wire version. -/
inductive EndpointDescriptor.Named (profile : Profile F) (nameSource : String) :
    ChannelTables → EndpointDescriptor → Prop
  | v2 {channelNames : List (List UInt8)} {phunits : List UInt32} {stationName : List UInt8}
      {e : EndpointDescriptor}
      (encoded : v2FixedAscii nameSource "fleet.pmu_name_prefix" = .ok stationName)
      (metadata : e.v2 = some ⟨stationName, channelNames, phunits,
        profile.fleet.v2GoodStatPmuIds.contains e.pmuId⟩)
      (pmuName : e.pmuName = []) (channels : e.channelNames = []) :
      Named profile nameSource (.v2 channelNames phunits) e
  | v3 {channelNames : List (List UInt8)} {e : EndpointDescriptor}
      (encoded : encodedName nameSource "fleet.pmu_name_prefix" = .ok e.pmuName)
      (metadata : e.v2 = none) (channels : e.channelNames = channelNames) :
      Named profile nameSource (.v3 channelNames) e

/-- What the endpoint of an index has of its profile. -/
structure EndpointDescriptor.CompiledFrom (single : F → Float32) (profile : Profile F)
    (wireVersion : WireVersion) (tables : ChannelTables) (i : Nat) (e : EndpointDescriptor) :
    Prop where
  index : e.index = i
  port : e.port.toNat = profile.fleet.firstListenPort.toNat + i
  streamId : e.streamId.toNat = profile.fleet.firstStreamId.toNat + i
  pmuId : e.pmuId.toNat = profile.fleet.firstPmuId.toNat + i
  wireVersion : e.wireVersion = wireVersion
  protocolVersion : e.protocolVersion = profile.fleet.protocolVersion
  pdcName : encodedName profile.fleet.pdcName "fleet.pdc_name" = .ok e.pdcName
  globalPmuId : e.globalPmuId.length = 16
  named : EndpointDescriptor.Named profile
    (pmuNameSource profile.fleet.pmuNamePrefix (i + 1)) tables e
  timeBase : e.timeBase = profile.fleet.timeBase
  dataRateHz : e.dataRateHz = profile.fleet.dataRateHz
  nominalFrequencyHz : e.nominalFrequencyHz = profile.fleet.nominalFrequencyHz
  voltageMagnitude : e.voltageMagnitude = single profile.fleet.phasors.voltageMagnitude
  voltageVariation : e.voltageVariation = single profile.fleet.phasors.voltageVariation
  currentMagnitude : e.currentMagnitude = single profile.fleet.phasors.currentMagnitude
  currentVariation : e.currentVariation = single profile.fleet.phasors.currentVariation

lemma deterministicUuid_length (seed : UInt64) (index : Nat) :
    (deterministicUuid seed index).length = 16 := by
  simp only [deterministicUuid, List.length_modify, List.length_append]
  rfl

lemma compileEndpoint_ok {single : F → Float32} {profile : Profile F} {wireVersion : WireVersion}
    {pdcName : List UInt8} {tables : ChannelTables} {index : Nat} {e : EndpointDescriptor}
    (hpdc : encodedName profile.fleet.pdcName "fleet.pdc_name" = .ok pdcName)
    (h : compileEndpoint single profile wireVersion pdcName tables index = .ok e) :
    e.CompiledFrom single profile wireVersion tables index := by
  obtain ⟨offset, hoffset, h⟩ := bind_eq_ok.mp h
  obtain ⟨port, hport, h⟩ := bind_eq_ok.mp h
  obtain ⟨streamId, hstream, h⟩ := bind_eq_ok.mp h
  obtain ⟨pmuId, hpmu, h⟩ := bind_eq_ok.mp h
  obtain ⟨⟨pmuName, globalPmuId, channelNames, v2⟩, hnamed, h⟩ := bind_eq_ok.mp h
  obtain rfl := Except.ok.inj h
  have hindex := toU16?_eq_some (okOr_eq_ok.mp hoffset)
  have hadd {a b : UInt16} {message : String}
      (h : okOr (checkedAddU16 a offset) message = .ok b) : b.toNat = a.toNat + index := by
    rw [checkedAddU16_eq_some (okOr_eq_ok.mp h), hindex]
  have hglobal : globalPmuId.length = 16 := by
    cases tables with
    | v2 names phunits =>
      obtain ⟨stationName, -, hnamed⟩ := bind_eq_ok.mp hnamed
      cases hnamed
      rfl
    | v3 names =>
      obtain ⟨encoded, -, hnamed⟩ := bind_eq_ok.mp hnamed
      cases hnamed
      exact deterministicUuid_length _ _
  refine { index := rfl, port := hadd hport, streamId := hadd hstream, pmuId := hadd hpmu,
           wireVersion := rfl, protocolVersion := rfl, pdcName := hpdc, globalPmuId := hglobal,
           named := ?_, timeBase := rfl, dataRateHz := rfl, nominalFrequencyHz := rfl,
           voltageMagnitude := rfl, voltageVariation := rfl, currentMagnitude := rfl,
           currentVariation := rfl }
  cases tables with
  | v2 names phunits =>
    obtain ⟨stationName, hstation, hnamed⟩ := bind_eq_ok.mp hnamed
    cases hnamed
    exact .v2 hstation rfl rfl rfl
  | v3 names =>
    obtain ⟨encoded, hencoded, hnamed⟩ := bind_eq_ok.mp hnamed
    cases hnamed
    exact .v3 hencoded rfl rfl

section Numbers

variable [Add F] [Mul F] [Div F] [LT F] [LE F] [DecidableLT F] [DecidableLE F]
  [OfScientific F] [Numeric F]

/-! ### Fleets -/

/-- What `validate_fleet` has checked when it admits a fleet. -/
structure Fleet.Admitted (fleet : Fleet F) (maxLogicalPmus : Nat) (wireVersion : WireVersion) :
    Prop where
  nonempty : 1 ≤ fleet.count
  bounded : fleet.count ≤ maxLogicalPmus
  version : wireVersion.protocolVersion = fleet.protocolVersion
  rate : fleet.dataRateHz = 50
  timeBase : 1 ≤ fleet.timeBase ∧ fleet.timeBase ≤ 0x00ffffff
  multiple : fleet.timeBase % fleet.dataRateHz.toUInt32 = 0
  nominal : fleet.nominalFrequencyHz = 50 ∨ fleet.nominalFrequencyHz = 60
  streamIds : 1 ≤ fleet.firstStreamId.toNat ∧
    fleet.firstStreamId.toNat + (fleet.count - 1) ≤ 65534
  pmuIds : 1 ≤ fleet.firstPmuId.toNat ∧ fleet.firstPmuId.toNat + (fleet.count - 1) ≤ 65534
  voltage : validateVoltage fleet.phasors = .ok ()
  current : validateCurrent fleet.phasors = .ok ()
  signals : validateSignals fleet.frequencyDeviationHz fleet.rocofHzPerS = .ok ()

omit [Mul F] in
lemma validateFleet_ok {fleet : Fleet F} {maxLogicalPmus : Nat} {wireVersion : WireVersion}
    (h : validateFleet fleet maxLogicalPmus = .ok wireVersion) :
    fleet.Admitted maxLogicalPmus wireVersion := by
  obtain ⟨_, hcount, h⟩ := bind_eq_ok.mp h
  obtain ⟨version, hversion, h⟩ := bind_eq_ok.mp h
  obtain ⟨_, hrate, h⟩ := bind_eq_ok.mp h
  obtain ⟨_, hbase, h⟩ := bind_eq_ok.mp h
  obtain ⟨_, hmultiple, h⟩ := bind_eq_ok.mp h
  obtain ⟨_, hnominal, h⟩ := bind_eq_ok.mp h
  obtain ⟨_, _, h⟩ := bind_eq_ok.mp h
  obtain ⟨_, _, h⟩ := bind_eq_ok.mp h
  obtain ⟨countMinusOne, hminus, h⟩ := bind_eq_ok.mp h
  obtain ⟨_, hstream, h⟩ := bind_eq_ok.mp h
  obtain ⟨_, hpmu, h⟩ := bind_eq_ok.mp h
  obtain ⟨_, _, h⟩ := bind_eq_ok.mp h
  obtain ⟨_, hvoltage, h⟩ := bind_eq_ok.mp h
  obtain ⟨_, hcurrent, h⟩ := bind_eq_ok.mp h
  obtain ⟨_, hsignals, h⟩ := bind_eq_ok.mp h
  obtain rfl := Except.ok.inj h
  have hoffset := toU16?_eq_some (okOr_eq_ok.mp hminus)
  obtain ⟨hfinal, hfirst, hlast⟩ := finalIdentifier_ok hstream
  obtain ⟨hfinal', hfirst', hlast'⟩ := finalIdentifier_ok hpmu
  rw [hoffset] at hfinal hfinal'
  exact {
    nonempty := (ensure_eq_ok.mp hcount).1
    bounded := (ensure_eq_ok.mp hcount).2
    version := tryFrom_ok hversion
    rate := ensure_eq_ok.mp hrate
    timeBase := ensure_eq_ok.mp hbase
    multiple := ensure_eq_ok.mp hmultiple
    nominal := ensure_eq_ok.mp hnominal
    streamIds := ⟨hfirst, hfinal ▸ hlast⟩
    pmuIds := ⟨hfirst', hfinal' ▸ hlast'⟩
    voltage := hvoltage
    current := hcurrent
    signals := hsignals }

/-! ### Profiles -/

/-- What `compile_profile` has checked and made when it accepts a profile. -/
structure Profile.Compiles (single : F → Float32) (profile : Profile F)
    (compiled : CompiledProfile) (wireVersion : WireVersion) (tables : ChannelTables) : Prop where
  limits : validateLimits profile.limits = .ok ()
  fleet : profile.fleet.Admitted profile.limits.maxLogicalPmus wireVersion
  firstPort : 1 ≤ profile.fleet.firstListenPort.toNat
  channels : ChannelTables.compile wireVersion profile.fleet.phasors = .ok tables
  seed : compiled.seed = profile.seed
  commandFrameBytes : compiled.limits.commandFrameBytes = profile.limits.maxCommandFrameBytes
  endpoints : List.Forall₂
    (fun index e => e.CompiledFrom single profile wireVersion tables index)
    (List.range profile.fleet.count) compiled.endpoints

lemma compileProfile_ok {single : F → Float32} {profile : Profile F} {compiled : CompiledProfile}
    (h : compileProfile single profile = .ok compiled) :
    ∃ wireVersion tables, profile.Compiles single compiled wireVersion tables := by
  obtain ⟨_, hlimits, h⟩ := bind_eq_ok.mp h
  obtain ⟨wireVersion, hfleet, h⟩ := bind_eq_ok.mp h
  obtain ⟨countMinusOne, hminus, h⟩ := bind_eq_ok.mp h
  obtain ⟨finalPort, hport, h⟩ := bind_eq_ok.mp h
  obtain ⟨_, _, h⟩ := bind_eq_ok.mp h
  obtain ⟨_, _, h⟩ := bind_eq_ok.mp h
  obtain ⟨_, hports, h⟩ := bind_eq_ok.mp h
  obtain ⟨pdcName, hpdc, h⟩ := bind_eq_ok.mp h
  obtain ⟨tables, htables, h⟩ := bind_eq_ok.mp h
  obtain ⟨endpoints, hendpoints, h⟩ := bind_eq_ok.mp h
  obtain rfl := Except.ok.inj h
  refine ⟨wireVersion, tables, {
    limits := hlimits
    fleet := validateFleet_ok hfleet
    firstPort := ?_
    channels := htables
    seed := rfl
    commandFrameBytes := rfl
    endpoints := (forall₂_of_mapM_ok hendpoints).imp fun _ _ => compileEndpoint_ok hpdc }⟩
  rw [Nat.one_le_iff_ne_zero, ne_eq, ← UInt16.toNat_zero, UInt16.toNat_inj]
  exact (not_or.mp (ensure_eq_ok.mp hports)).1

lemma Profile.Compiles.mem_endpoints {single : F → Float32} {profile : Profile F}
    {compiled : CompiledProfile} {wireVersion : WireVersion} {tables : ChannelTables}
    (h : profile.Compiles single compiled wireVersion tables) {e : EndpointDescriptor}
    (he : e ∈ compiled.endpoints) :
    ∃ index < profile.fleet.count,
      e.CompiledFrom single profile wireVersion tables index := by
  obtain ⟨index, hindex, rfl⟩ := List.getElem_of_mem he
  obtain ⟨hlength, hget⟩ := List.forall₂_iff_get.mp h.endpoints
  have hlt : index < (List.range profile.fleet.count).length := hlength ▸ hindex
  have hcompiled := hget index hlt hindex
  rw [List.get_eq_getElem, List.getElem_range] at hcompiled
  exact ⟨index, by simpa using hlt, hcompiled⟩

end Numbers

/-! ### A small profile -/

/-- A profile with one V2 endpoint. -/
def soleProfile (voltageMagnitude voltageVariation voltageScale : ℚ) : Profile ℚ where
  seed := 7
  limits := ⟨1, 2, 4096, 4096, 4096⟩
  fleet := {
    count := 1
    firstListenPort := 4712
    firstStreamId := 1001
    firstPmuId := 1001
    pdcName := "WAMA"
    pmuNamePrefix := "WAMA-PMU-"
    protocolVersion := 2
    v2GoodStatPmuIds := []
    dataRateHz := 50
    timeBase := 1000000
    nominalFrequencyHz := 50
    phasors := ⟨voltageMagnitude, voltageVariation, 400000, voltageScale, 500, 3 / 2, 1⟩
    frequencyDeviationHz := ⟨1 / 100, 1 / 500⟩
    rocofHzPerS := ⟨0, 1 / 1000⟩ }

/-- How a rational is held in single precision, where numerator and denominator are exact. -/
def singleOf (q : ℚ) : Float32 := Float32.ofInt q.num / Float32.ofInt q.den

lemma eq_ok_get {α φ : Type} {x : Except φ α} (h : x.toOption.isSome = true) :
    x = .ok (x.toOption.get h) := by
  cases x with
  | error e => cases h
  | ok a => rfl

/-- The profile, compiled. -/
def soleCompiled : CompiledProfile :=
  (compileProfile singleOf (soleProfile 230000 400 10)).toOption.get (by decide +kernel)

lemma compileProfile_sole :
    compileProfile singleOf (soleProfile 230000 400 10) = .ok soleCompiled := eq_ok_get _

end PmuSimulator
