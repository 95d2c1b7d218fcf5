import Mathlib
import PmuSimulator.Console.DecimalText
import PmuSimulator.Management.Fleet
import PmuSimulator.Server.Identity

/-!
# Endpoints on the console

The console is told the fleet once and each endpoint by its stream identifier. It works out the
rest: how far the identifier is from the first one is also how far the port and the PMU identifier
are, and is one less than the ordinal of the name.
-/

namespace PmuSimulator

/-! ### What the console is told -/

/-- The fleet of a snapshot; numbers of the console are exact here. -/
structure ConsoleFleet where
  pdcName : ConsoleText
  pmuNamePrefix : ConsoleText
  wireVersion : ℕ
  reportingRateHz : ℕ
  nominalFrequencyHz : ℕ
  firstStreamId : ℕ
  firstPmuId : ℕ
  firstPort : ℕ
  deriving DecidableEq, Repr

/-- The record of the server, as the console reads it. -/
def ManagementFleetState.onConsole (fleet : ManagementFleetState) : ConsoleFleet where
  pdcName := consoleText fleet.pdcName.toList
  pmuNamePrefix := consoleText fleet.pmuNamePrefix.toList
  wireVersion := fleet.wireVersion.toNat
  reportingRateHz := fleet.reportingRateHz.toNat
  nominalFrequencyHz := fleet.nominalFrequencyHz.toNat
  firstStreamId := fleet.firstStreamId.toNat
  firstPmuId := fleet.firstPmuId.toNat
  firstPort := fleet.firstPort.toNat

/-- `normalizeFleet`, on a record whose numbers are in the range of their fields. -/
def normalizeFleet (fleet : ConsoleFleet) : Except ConsoleError ConsoleFleet := do
  assertSnapshot (fleet.wireVersion = 2 ∨ fleet.wireVersion = 3)
  assertSnapshot (fleet.firstPort > 0)
  let pmuNamePrefix ← requiredText fleet.pmuNamePrefix
  return { fleet with pmuNamePrefix }

/-! ### What it works out -/

structure EndpointView where
  streamId : ℕ
  pmuId : ℤ
  port : ℤ
  pmuName : ConsoleText
  pdcName : ConsoleText
  wireVersion : ℕ
  reportingRateHz : ℕ
  nominalFrequencyHz : ℕ
  deriving DecidableEq, Repr

/-- `String`, on an integer. -/
def stringOf (n : ℤ) : ConsoleText := consoleText (toString n).toList

/-- `padStart`. -/
def padStart (text : ConsoleText) (length : ℕ) (fill : UInt16) : ConsoleText :=
  text.leftpad length fill

def endpointView (streamId : ℕ) (fleet : ConsoleFleet) : EndpointView :=
  let offset : ℤ := streamId - fleet.firstStreamId
  { streamId
    pmuId := fleet.firstPmuId + offset
    port := fleet.firstPort + offset
    pmuName := fleet.pmuNamePrefix ++ padStart (stringOf (offset + 1)) 3 48
    pdcName := fleet.pdcName
    wireVersion := fleet.wireVersion
    reportingRateHz := fleet.reportingRateHz
    nominalFrequencyHz := fleet.nominalFrequencyHz }

/-- The console takes the record of a fleet whose PMUs have more to their names than an ordinal. -/
lemma normalizeFleet_onConsole {fleet : ManagementFleetState} {wireVersion : WireVersion}
    (hversion : fleet.wireVersion = wireVersion.protocolVersion)
    (hport : 1 ≤ fleet.firstPort.toNat) :
    normalizeFleet fleet.onConsole = .ok fleet.onConsole ↔ fleet.pmuNamePrefix ≠ "" := by
  have hknown : fleet.onConsole.wireVersion = 2 ∨ fleet.onConsole.wireVersion = 3 := by
    simp only [ManagementFleetState.onConsole, hversion]
    cases wireVersion with
    | v2 => exact .inl rfl
    | v3 => exact .inr rfl
  have hlistens : fleet.onConsole.firstPort > 0 := hport
  have hnamed : fleet.onConsole.pmuNamePrefix.length > 0 ↔ fleet.pmuNamePrefix ≠ "" := by
    simp only [ManagementFleetState.onConsole]
    rw [gt_iff_lt, List.length_pos_iff, ne_eq, consoleText_eq_nil, String.toList_eq_nil_iff]
  rw [normalizeFleet, assertSnapshot, if_pos hknown, ok_bind, assertSnapshot, if_pos hlistens,
    ok_bind, requiredText, assertSnapshot, ← hnamed]
  by_cases hlong : fleet.onConsole.pmuNamePrefix.length > 0
  · rw [if_pos hlong]
    exact iff_of_true rfl hlong
  · rw [if_neg hlong]
    exact iff_of_false (fun h => by cases h) hlong

/-! ### Names -/

lemma consoleText_append (s t : List Char) :
    consoleText (s ++ t) = consoleText s ++ consoleText t := List.flatMap_append

lemma consoleText_ascii {l : List Char} (h : ∀ c ∈ l, c.toNat < 128) :
    consoleText l = l.map fun c => UInt16.ofNat c.toNat := by
  induction l with
  | nil => rfl
  | cons c l ih =>
    have hc : c.toNat < 0x10000 := (h c (by simp)).trans (by decide)
    rw [consoleText, List.flatMap_cons, codeUnits, if_pos hc]
    change _ :: consoleText l = _
    rw [ih fun d hd => h d (by simp [hd])]
    rfl

/-- Both sides write an ordinal the same way. -/
lemma padStart_stringOf (n : ℕ) :
    padStart (stringOf n) 3 48 = consoleText (zeroPadded n).toList := by
  have hdigits {c : Char} (h : c ∈ (toString n).toList) : c.toNat < 128 := by
    have hrepr : (toString n).toList = Nat.toDigits 10 n := Nat.toList_repr
    rw [hrepr] at h
    have hdigit := Nat.isDigit_of_mem_toDigits (by decide) (by decide) h
    exact (toNat_of_isDigit hdigit).2.trans_lt (by decide)
  have hpadded {c : Char} (h : c ∈ (zeroPadded n).toList) : c.toNat < 128 :=
    (toNat_of_isDigit (zeroPadded_isDigit h)).2.trans_lt (by decide)
  have hstring : stringOf n = consoleText (toString n).toList := rfl
  rw [padStart, hstring, consoleText_ascii fun c hc => hdigits hc,
    consoleText_ascii fun c hc => hpadded hc, zeroPadded, String.toList_ofList, List.leftpad,
    List.leftpad, List.length_map, List.map_append, List.map_replicate]
  rfl

/-! ### Descriptors in a run -/

section Run

variable {registry : Registry} {codec : ManagementCodec} {l₀ l : EventLoop}
  {h : List (Machine.Taken EventLoop Input (List Report))}

/-- The endpoints of a server are those of its profile, however it runs. -/
lemma descriptors_of_run {input : BindInput} (hbind : bindInner input = .ok l₀.server)
    (run : (eventLoop registry codec).Run l₀ h l) :
    l.server.endpoints.map (·.descriptor) = input.profile.endpoints := by
  have hcontexts : l.server.core.contexts = l₀.server.core.contexts := by
    refine run.invariant (P := fun l => l.server.core.contexts = l₀.server.core.contexts) rfl ?_
    intro r input log r' ih hs
    exact (EventLoop.step_core hs).contexts.trans ih
  have hdescriptors : l.server.endpoints.map (·.descriptor) =
      l₀.server.endpoints.map (·.descriptor) := by
    have hmapped := congrArg (List.map EndpointContext.descriptor) hcontexts
    simp only [Server.core, List.map_map] at hmapped
    exact hmapped
  rw [hdescriptors]
  obtain ⟨first, rest, clock, started, endpoints, hprofile, -, -, hendpoints, hserver⟩ :=
    bindInner_ok hbind
  rw [hserver, hprofile]
  have hbound := forall₂_of_mapM_ok hendpoints
  clear hendpoints hserver
  generalize first :: rest = descriptors at hbound ⊢
  induction hbound with
  | nil => rfl
  | cons hhead htail ih =>
    obtain ⟨frames, -, hhead⟩ := bind_eq_ok.mp hhead
    obtain rfl := Except.ok.inj hhead
    rw [List.map_cons, ih]

end Run

/-! ### The fleet record loses nothing -/

/-- What the console works out for an endpoint. -/
lemma endpointView_compiled {F : Type} {single : F → Float32} {profile : Profile F}
    {wireVersion : WireVersion} {tables : ChannelTables} {fleet : ManagementFleetState}
    (hfront : fleet.pmuNamePrefix = profile.fleet.pmuNamePrefix)
    (hstream : fleet.firstStreamId = profile.fleet.firstStreamId)
    (hpmu : fleet.firstPmuId = profile.fleet.firstPmuId)
    (hport : fleet.firstPort = profile.fleet.firstListenPort) {e : EndpointDescriptor} {index : ℕ}
    (hfrom : e.CompiledFrom single profile wireVersion tables index) :
    (endpointView e.streamId.toNat fleet.onConsole).pmuId = e.pmuId.toNat ∧
      (endpointView e.streamId.toNat fleet.onConsole).port = e.port.toNat ∧
      (endpointView e.streamId.toNat fleet.onConsole).pmuName =
        consoleText (pmuNameSource profile.fleet.pmuNamePrefix (index + 1)).toList := by
  have hoffset : ((e.streamId.toNat : ℤ) - (profile.fleet.firstStreamId.toNat : ℕ)) = index := by
    rw [hfrom.streamId]
    push_cast
    ring
  simp only [endpointView, ManagementFleetState.onConsole, hfront, hstream, hpmu, hport, hoffset]
  refine ⟨?_, ?_, ?_⟩
  · rw [hfrom.pmuId]
    push_cast
    rfl
  · rw [hfrom.port]
    push_cast
    rfl
  · rw [pmuNameSource, String.toList_append, consoleText_append, ← padStart_stringOf]
    push_cast
    rfl

section Compiled

variable {F : Type} [Add F] [Mul F] [Div F] [LT F] [LE F] [DecidableLT F] [DecidableLE F]
  [OfScientific F] [Numeric F] {single : F → Float32} {profile : Profile F}
  {compiled : CompiledProfile} {wireVersion : WireVersion} {tables : ChannelTables}

/-- Values that are counted up from endpoint to endpoint are distinct. -/
lemma Profile.Compiles.nodup (h : profile.Compiles single compiled wireVersion tables)
    (value : EndpointDescriptor → UInt16) (first : ℕ)
    (hvalue : ∀ {index e}, e.CompiledFrom single profile wireVersion tables index →
      (value e).toNat = first + index) :
    (compiled.endpoints.map value).Nodup := by
  have hcounted : compiled.endpoints.map (fun e => (value e).toNat) =
      (List.range profile.fleet.count).map (first + ·) := by
    have hmapped := h.endpoints
    generalize List.range profile.fleet.count = indices at hmapped ⊢
    generalize compiled.endpoints = endpoints at hmapped ⊢
    induction hmapped with
    | nil => rfl
    | cons hfrom _ ih => rw [List.map_cons, List.map_cons, hvalue hfrom, ih]
  refine List.Nodup.of_map UInt16.toNat ?_
  rw [List.map_map]
  change (compiled.endpoints.map fun e => (value e).toNat).Nodup
  rw [hcounted]
  exact List.nodup_range.map fun _ _ => Nat.add_left_cancel

/-- The first endpoint of a profile. -/
lemma Profile.Compiles.first (h : profile.Compiles single compiled wireVersion tables) :
    ∃ e rest, compiled.endpoints = e :: rest ∧
      e.CompiledFrom single profile wireVersion tables 0 := by
  have hall := h.endpoints
  obtain ⟨n, hn⟩ := Nat.exists_eq_add_of_le' h.fleet.nonempty
  rw [hn, List.range_succ_eq_map, List.forall₂_cons_left_iff] at hall
  obtain ⟨e, rest, hfrom, -, hendpoints⟩ := hall
  exact ⟨e, rest, hendpoints, hfrom⟩

/-- The record management makes of the endpoints of a profile. -/
lemma Profile.Compiles.fleetState (h : profile.Compiles single compiled wireVersion tables)
    {endpoints : List Endpoint} (hendpoints : endpoints.map (·.descriptor) = compiled.endpoints) :
    ∃ fleet, managementFleetState endpoints = .ok fleet ∧
      fleet.wireVersion = wireVersion.protocolVersion ∧
      fleet.pmuNamePrefix = profile.fleet.pmuNamePrefix ∧
      fleet.firstStreamId = profile.fleet.firstStreamId ∧
      fleet.firstPmuId = profile.fleet.firstPmuId ∧
      fleet.firstPort = profile.fleet.firstListenPort := by
  obtain ⟨descriptor, rest, hfirst, hfrom⟩ := h.first
  rw [hfirst] at hendpoints
  obtain ⟨first, tail, rfl, rfl, -⟩ := List.map_eq_cons_iff.mp hendpoints
  obtain ⟨index, hindex, hfrom', hname⟩ := h.compiledName (e := first.descriptor) (by simp [hfirst])
  have hcount := h.count_le
  obtain ⟨hpdc, hsize⟩ := encodedName_ok hfrom.pdcName
  have hpdcName : managementPdcName first.descriptor = .ok profile.fleet.pdcName := by
    rw [managementPdcName, hpdc]
    simp only [List.isEmpty_cons, Bool.false_eq_true, if_false]
    exact managementIndexedName_ok hsize
  have hfront : managementPmuNamePrefix first.descriptor = .ok profile.fleet.pmuNamePrefix := by
    rw [managementPmuNamePrefix, managementPmuNameParts_ok (by omega) hname]
    rfl
  have hfirstId {a b : UInt16} (h : a.toNat = b.toNat + 0) : a = b := UInt16.toNat_inj.mp h
  refine ⟨{
    pdcName := profile.fleet.pdcName
    pmuNamePrefix := profile.fleet.pmuNamePrefix
    wireVersion := first.descriptor.wireVersion.protocolVersion
    reportingRateHz := first.descriptor.dataRateHz
    nominalFrequencyHz := first.descriptor.nominalFrequencyHz
    firstStreamId := first.descriptor.streamId
    firstPmuId := first.descriptor.pmuId
    firstPort := first.descriptor.port }, ?_,
    congrArg WireVersion.protocolVersion hfrom.wireVersion, rfl, hfirstId hfrom.streamId,
    hfirstId hfrom.pmuId, hfirstId hfrom.port⟩
  simp only [managementFleetState, List.head?_cons, expect, ok_bind, hpdcName, hfront]
  rfl

/-- The record of the fleet and its stream identifier are enough to name an endpoint, its port and
its PMU, in every run of a server of an accepted profile. The console takes the record unless the
names of the profile are ordinals and nothing more. -/
theorem fleetRecord_lossless (single : F → Float32) (profile : Profile F)
    (compiled : CompiledProfile) (h : compileProfile single profile = .ok compiled) :
    (compiled.endpoints.map EndpointDescriptor.port).Nodup ∧
    (compiled.endpoints.map EndpointDescriptor.streamId).Nodup ∧
    (compiled.endpoints.map EndpointDescriptor.pmuId).Nodup ∧
    (∀ e ∈ compiled.endpoints, (1 ≤ e.streamId.toNat ∧ e.streamId.toNat ≤ 65534) ∧
      (1 ≤ e.pmuId.toNat ∧ e.pmuId.toNat ≤ 65534)) ∧
    ∀ (registry : Registry) (codec : ManagementCodec) (input : BindInput) (l₀ l : EventLoop)
      (history : List (Machine.Taken EventLoop Input (List Report))),
      input.profile = compiled → bindInner input = .ok l₀.server →
      (eventLoop registry codec).Run l₀ history l →
      ∃ fleet, managementFleetState l.server.endpoints = .ok fleet ∧
        (normalizeFleet fleet.onConsole = .ok fleet.onConsole ↔
          profile.fleet.pmuNamePrefix ≠ "") ∧
        ∀ e ∈ compiled.endpoints, ∃ name front ordinal, e.CompiledName name ∧
          managementPmuName e = .ok name ∧
          managementPmuNameParts e = .ok (front, ordinal) ∧ front ++ ordinal = name ∧
          (endpointView e.streamId.toNat fleet.onConsole).pmuId = e.pmuId.toNat ∧
          (endpointView e.streamId.toNat fleet.onConsole).port = e.port.toNat ∧
          (endpointView e.streamId.toNat fleet.onConsole).pmuName = consoleText name.toList := by
  obtain ⟨wireVersion, tables, hcompiles⟩ := compileProfile_ok h
  refine ⟨hcompiles.nodup _ _ (·.port), hcompiles.nodup _ _ (·.streamId),
    hcompiles.nodup _ _ (·.pmuId), ?_, ?_⟩
  · intro e he
    obtain ⟨index, hindex, hfrom⟩ := hcompiles.mem_endpoints he
    obtain ⟨hstream, hstream'⟩ := hcompiles.fleet.streamIds
    obtain ⟨hpmu, hpmu'⟩ := hcompiles.fleet.pmuIds
    rw [hfrom.streamId, hfrom.pmuId]
    omega
  · intro registry codec input l₀ l history hprofile hbind run
    have hdescriptors := descriptors_of_run hbind run
    rw [hprofile] at hdescriptors
    obtain ⟨fleet, hfleet, hversion, hfront, hstream, hpmu, hport⟩ :=
      hcompiles.fleetState hdescriptors
    refine ⟨fleet, hfleet, ?_, fun e he => ?_⟩
    · rw [← hfront]
      exact normalizeFleet_onConsole hversion (hport ▸ hcompiles.firstPort)
    obtain ⟨index, hindex, hfrom, hname⟩ := hcompiles.compiledName he
    have hcount := hcompiles.count_le
    exact ⟨_, _, _, hname, managementPmuName_ok hname,
      managementPmuNameParts_ok (by omega) hname, rfl,
      endpointView_compiled hfront hstream hpmu hport hfrom⟩

end Compiled

/-- The small profile, with three endpoints. -/
def tripleProfile : Profile ℚ :=
  let sole := soleProfile 230000 400 10
  { sole with
    limits := { sole.limits with maxLogicalPmus := 3 }
    fleet := { sole.fleet with count := 3 } }

def tripleCompiled : CompiledProfile :=
  (compileProfile singleOf tripleProfile).toOption.get (by decide +kernel)

/-- The third endpoint of the profile. -/
def thirdDescriptor : EndpointDescriptor := tripleCompiled.endpoints.getLast (by decide +kernel)

/-- A server of the profile takes a client on its first endpoint. -/
theorem fleetRecord_lossless_small :
    ∃ server l, bindInner { soleInput .v2 none with profile := tripleCompiled } = .ok server ∧
      (eventLoop takingRegistry silentCodec).exec ⟨server, none⟩ [acceptOne] = .ok l ∧
      l.server.nextConnectionId = 2 ∧ ∃ fleet, managementFleetState l.server.endpoints = .ok fleet ∧
        normalizeFleet fleet.onConsole = .ok fleet.onConsole ∧
        (endpointView 1003 fleet.onConsole).pmuId = 1003 ∧
        (endpointView 1003 fleet.onConsole).port = 4714 ∧
        (endpointView 1003 fleet.onConsole).pmuName = consoleText "WAMA-PMU-003".toList := by
  have hruns : (bindInner { soleInput .v2 none with profile := tripleCompiled } >>= fun server =>
      (eventLoop takingRegistry silentCodec).exec ⟨server, none⟩ [acceptOne]).toOption.any
        (fun l => decide (l.server.nextConnectionId = 2)) = true := by
    decide +kernel
  obtain ⟨l, hl, hgiven⟩ := (Option.any_eq_true _ _).mp hruns
  obtain ⟨server, hbind, hexec⟩ := bind_eq_ok.mp (eq_ok_of_toOption hl)
  obtain ⟨history, -, run⟩ := Machine.run_of_exec hexec
  obtain ⟨-, -, -, -, hrun⟩ := fleetRecord_lossless singleOf tripleProfile tripleCompiled
    (eq_ok_get _)
  obtain ⟨fleet, hfleet, hnormal, hview⟩ := hrun takingRegistry silentCodec
    { soleInput .v2 none with profile := tripleCompiled } ⟨server, none⟩ l history rfl hbind run
  obtain ⟨name, front, ordinal, -, hname, -, -, hpmu, hport, hpmuName⟩ :=
    hview thirdDescriptor (List.getLast_mem _)
  have hthird : thirdDescriptor.streamId.toNat = 1003 ∧ thirdDescriptor.pmuId.toNat = 1003 ∧
      thirdDescriptor.port.toNat = 4714 := by
    decide +kernel
  have hcalled : managementPmuName thirdDescriptor = .ok "WAMA-PMU-003" := by
    decide +kernel
  obtain rfl := Except.ok.inj (hname.symm.trans hcalled)
  rw [hthird.1] at hpmu hport hpmuName
  refine ⟨server, l, hbind, hexec, of_decide_eq_true hgiven, fleet, hfleet,
    hnormal.mpr (by decide +kernel), ?_, ?_, hpmuName⟩
  · rw [hpmu, hthird.2.1]
    rfl
  · rw [hport, hthird.2.2]
    rfl

end PmuSimulator
