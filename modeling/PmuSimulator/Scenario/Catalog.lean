import Mathlib
import PmuSimulator.Platform

/-!
# Scenario catalogs

A raw catalog, as the YAML reader hands it over, is compiled entry by entry at startup. What the
running controller relies on is `ScenarioCatalog.WellFormed`: names are distinct and valid, a
transient scenario has a positive duration, and only a signal excursion carries a signal.
-/

namespace PmuSimulator

def scenarioCatalogVersion : Nat := 1

/-- `MAX_SCENARIO_CATALOG_ENTRIES`. -/
def maxScenarioCatalogEntries : Nat := 128

inductive ScenarioKind where
  | normal
  | degradedTime
  | missingFrames
  | disconnectPdc
  | signalExcursion
  | recovery
  deriving DecidableEq, Repr

inductive ScenarioLifecycle where
  | transient
  | sustained
  deriving DecidableEq, Repr

structure SignalExcursion where
  voltageMagnitudeDelta : Float32
  frequencyDeviationHz : Float32
  rocofHzPerS : Float32

structure ScenarioDefinition where
  name : String
  kind : ScenarioKind
  startFrameOffset : Nat
  lifecycle : ScenarioLifecycle
  durationFrames : Option Nat
  signal : Option SignalExcursion

structure ScenarioCatalog where
  version : Nat
  scenarios : List ScenarioDefinition

/-- `ScenarioCatalog::scenario`: the first entry of that name. -/
def ScenarioCatalog.scenario (catalog : ScenarioCatalog) (name : String) :
    Option ScenarioDefinition :=
  catalog.scenarios.find? fun scenario => scenario.name == name

/-! ### Compilation -/

structure RawScenario where
  name : String
  kind : ScenarioKind
  startFrameOffset : Nat
  lifecycle : ScenarioLifecycle
  durationFrames : Option Nat
  signal : Option SignalExcursion

structure RawScenarioCatalog where
  version : Nat
  scenarios : List RawScenario

/-- `ScenarioCatalogError`, a message. -/
structure ScenarioCatalogError where
  message : String
  deriving DecidableEq, Repr

/-- A byte of a scenario name: a lowercase ASCII letter, a digit or a hyphen. -/
def isNameByte (b : UInt8) : Bool :=
  (0x61 ≤ b && b ≤ 0x7a) || (0x30 ≤ b && b ≤ 0x39) || b == 0x2d

def validateName (name : String) : Except ScenarioCatalogError Unit :=
  if name.isEmpty || name.utf8ByteSize > 64 || !name.toUTF8.data.toList.all isNameByte then
    .error ⟨"scenario names must contain 1 to 64 lowercase ASCII letters, digits, or hyphens"⟩
  else
    .ok ()

def compileSignal (raw : SignalExcursion) : Except ScenarioCatalogError SignalExcursion :=
  if !raw.voltageMagnitudeDelta.isFinite || !raw.frequencyDeviationHz.isFinite ||
      !raw.rocofHzPerS.isFinite then
    .error ⟨"signal excursion values must be finite"⟩
  else if raw.voltageMagnitudeDelta == 0 && raw.frequencyDeviationHz == 0 &&
      raw.rocofHzPerS == 0 then
    .error ⟨"signal_excursion must change at least one signal"⟩
  else
    .ok raw

def compileDuration (lifecycle : ScenarioLifecycle) (raw : Option Nat) :
    Except ScenarioCatalogError (Option Nat) :=
  match lifecycle, raw with
  | .transient, some durationFrames =>
    if durationFrames > 0 then .ok (some durationFrames)
    else .error ⟨"transient scenarios must have a positive duration_frames value"⟩
  | .transient, none => .error ⟨"transient scenarios must define duration_frames"⟩
  | .sustained, none => .ok none
  | .sustained, some _ => .error ⟨"sustained scenarios must not define duration_frames"⟩

def compileScenarioSignal (kind : ScenarioKind) (raw : Option SignalExcursion) :
    Except ScenarioCatalogError (Option SignalExcursion) :=
  match kind, raw with
  | .signalExcursion, some signal => some <$> compileSignal signal
  | .signalExcursion, none => .error ⟨"signal_excursion scenarios must define signal values"⟩
  | _, some _ => .error ⟨"only signal_excursion scenarios may define signal values"⟩
  | _, none => .ok none

def compileScenario (raw : RawScenario) : Except ScenarioCatalogError ScenarioDefinition := do
  let durationFrames ← compileDuration raw.lifecycle raw.durationFrames
  let signal ← compileScenarioSignal raw.kind raw.signal
  return { name := raw.name, kind := raw.kind, startFrameOffset := raw.startFrameOffset,
           lifecycle := raw.lifecycle, durationFrames, signal }

/-- One turn of the loop over the raw entries. -/
def compileEntry (scenarios : List ScenarioDefinition) (raw : RawScenario) :
    Except ScenarioCatalogError (List ScenarioDefinition) := do
  validateName raw.name
  if scenarios.any fun scenario => scenario.name == raw.name then
    .error ⟨"scenario catalog must not contain duplicate scenario names"⟩
  else
    return scenarios ++ [← compileScenario raw]

def compileCatalog (catalog : RawScenarioCatalog) :
    Except ScenarioCatalogError ScenarioCatalog :=
  if catalog.version ≠ scenarioCatalogVersion then
    .error ⟨s!"scenario catalog version must be {scenarioCatalogVersion}"⟩
  else if catalog.scenarios.isEmpty then
    .error ⟨"scenario catalog must define at least one scenario"⟩
  else if catalog.scenarios.length > maxScenarioCatalogEntries then
    .error ⟨s!"scenario catalog must define no more than {maxScenarioCatalogEntries} scenarios to fit the management response limit"⟩
  else do
    let scenarios ← catalog.scenarios.foldlM compileEntry []
    return { version := catalog.version, scenarios }

/-! ### What compilation guarantees -/

/-- What a compiled entry satisfies. -/
structure ScenarioDefinition.WellFormed (scenario : ScenarioDefinition) : Prop where
  name : validateName scenario.name = .ok ()
  transient : scenario.lifecycle = .transient → ∃ d, scenario.durationFrames = some d ∧ 0 < d
  sustained : scenario.lifecycle = .sustained → scenario.durationFrames = none
  signal : scenario.signal.isSome → scenario.kind = .signalExcursion

/-- What a compiled catalog satisfies. -/
structure ScenarioCatalog.WellFormed (catalog : ScenarioCatalog) : Prop where
  entry : ∀ scenario ∈ catalog.scenarios, scenario.WellFormed
  names : (catalog.scenarios.map ScenarioDefinition.name).Nodup
  bounded : catalog.scenarios.length ≤ maxScenarioCatalogEntries

lemma compileDuration_ok {lifecycle : ScenarioLifecycle} {raw duration : Option Nat}
    (h : compileDuration lifecycle raw = .ok duration) :
    (lifecycle = .transient → ∃ d, duration = some d ∧ 0 < d) ∧
      (lifecycle = .sustained → duration = none) := by
  unfold compileDuration at h
  split at h
  · split_ifs at h with hd
    obtain rfl := Except.ok.inj h
    exact ⟨fun _ => ⟨_, rfl, hd⟩, fun h => by cases h⟩
  · cases h
  · obtain rfl := Except.ok.inj h
    exact ⟨fun h => (by cases h), fun _ => rfl⟩
  · cases h

lemma compileScenarioSignal_ok {kind : ScenarioKind} {raw signal : Option SignalExcursion}
    (h : compileScenarioSignal kind raw = .ok signal) (hs : signal.isSome) :
    kind = .signalExcursion := by
  unfold compileScenarioSignal at h
  split at h
  · rfl
  · rfl
  · cases h
  · obtain rfl := Except.ok.inj h
    cases hs

lemma compileScenario_wellFormed {raw : RawScenario} {scenario : ScenarioDefinition}
    (hname : validateName raw.name = .ok ()) (h : compileScenario raw = .ok scenario) :
    scenario.name = raw.name ∧ scenario.WellFormed := by
  obtain ⟨duration, hd, h⟩ := bind_eq_ok.mp h
  obtain ⟨signal, hs, h⟩ := bind_eq_ok.mp h
  obtain rfl := Except.ok.inj h
  obtain ⟨ht, hsus⟩ := compileDuration_ok hd
  exact ⟨rfl, hname, ht, hsus, compileScenarioSignal_ok hs⟩

lemma compileEntry_ok {scenarios scenarios' : List ScenarioDefinition} {raw : RawScenario}
    (h : compileEntry scenarios raw = .ok scenarios') :
    ∃ scenario, scenarios' = scenarios ++ [scenario] ∧ scenario.WellFormed ∧
      scenario.name ∉ scenarios.map ScenarioDefinition.name := by
  obtain ⟨_, hname, h⟩ := bind_eq_ok.mp h
  split_ifs at h with hdup
  obtain ⟨scenario, hs, h⟩ := bind_eq_ok.mp h
  obtain ⟨hn, hwf⟩ := compileScenario_wellFormed hname hs
  refine ⟨scenario, (Except.ok.inj h).symm, hwf, ?_⟩
  rw [hn]
  intro hmem
  obtain ⟨t, ht, hname⟩ := List.mem_map.mp hmem
  exact hdup (List.any_eq_true.mpr ⟨t, ht, beq_iff_eq.mpr hname⟩)

lemma compileEntries_ok {raws : List RawScenario} {scenarios out : List ScenarioDefinition}
    (h : raws.foldlM compileEntry scenarios = .ok out)
    (hwf : ∀ s ∈ scenarios, s.WellFormed)
    (hnd : (scenarios.map ScenarioDefinition.name).Nodup) :
    (∀ s ∈ out, s.WellFormed) ∧ (out.map ScenarioDefinition.name).Nodup ∧
      out.length = scenarios.length + raws.length := by
  induction raws generalizing scenarios with
  | nil =>
    obtain rfl := Except.ok.inj h
    exact ⟨hwf, hnd, rfl⟩
  | cons r rs ih =>
    obtain ⟨next, hnext, h⟩ := bind_eq_ok.mp h
    obtain ⟨scenario, rfl, hs, hnew⟩ := compileEntry_ok hnext
    obtain ⟨h₁, h₂, h₃⟩ := ih h
      (fun s hmem => (List.mem_append.mp hmem).elim (hwf s) fun h =>
        List.mem_singleton.mp h ▸ hs)
      (by
        rw [List.map_append, List.nodup_append]
        refine ⟨hnd, by simp, fun a ha b hb => ?_⟩
        rintro rfl
        obtain rfl : a = scenario.name := by simpa using hb
        exact hnew ha)
    refine ⟨h₁, h₂, ?_⟩
    simp only [h₃, List.length_append, List.length_cons, List.length_nil]
    omega

/-- Every catalog that compiles is well formed. -/
theorem compileCatalog_wellFormed {raw : RawScenarioCatalog} {catalog : ScenarioCatalog}
    (h : compileCatalog raw = .ok catalog) : catalog.WellFormed := by
  unfold compileCatalog at h
  split_ifs at h with hversion hempty hlength
  obtain ⟨scenarios, hs, h⟩ := bind_eq_ok.mp h
  obtain rfl := Except.ok.inj h
  obtain ⟨h₁, h₂, h₃⟩ := compileEntries_ok hs (by simp) (by simp)
  refine ⟨h₁, h₂, ?_⟩
  rw [h₃]
  simpa using hlength

lemma ScenarioCatalog.WellFormed.scenario {catalog : ScenarioCatalog} (h : catalog.WellFormed)
    {name : String} {scenario : ScenarioDefinition} (hs : catalog.scenario name = some scenario) :
    scenario.WellFormed :=
  h.entry scenario (List.mem_of_find?_eq_some hs)

/-! ### A catalog of two entries, on which results are instantiated -/

/-- A sustained loss of time quality. -/
def holdover : ScenarioDefinition where
  name := "holdover"
  kind := .degradedTime
  startFrameOffset := 0
  lifecycle := .sustained
  durationFrames := none
  signal := none

/-- Two frames left out, after one frame. -/
def dropout : ScenarioDefinition where
  name := "dropout"
  kind := .missingFrames
  startFrameOffset := 1
  lifecycle := .transient
  durationFrames := some 2
  signal := none

def smallRawCatalog : RawScenarioCatalog where
  version := 1
  scenarios := [holdover, dropout].map fun s =>
    { name := s.name, kind := s.kind, startFrameOffset := s.startFrameOffset,
      lifecycle := s.lifecycle, durationFrames := s.durationFrames, signal := s.signal }

def smallCatalog : ScenarioCatalog where
  version := 1
  scenarios := [holdover, dropout]

lemma compileCatalog_small : compileCatalog smallRawCatalog = .ok smallCatalog := rfl

end PmuSimulator
