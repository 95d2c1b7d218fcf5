import Mathlib
import PmuSimulator.Server.Delivery
import PmuSimulator.Server.Emission

/-!
# The time quality of data frames

A V2 data frame says that its time is good exactly where the endpoint is listed as good, the time was
found verified at the boundary, and no scenario degrades it. A V3 data frame never says so. Nothing
else in a data frame depends on how good the time is.
-/

namespace PmuSimulator

/-! ### The status word -/

/-- Two frames differ in the status word and in the checksum at most. -/
structure SameButStatus (bytes bytes' : List UInt8) : Prop where
  length : bytes'.length = bytes.length
  same : ∀ j, j ≠ 14 → j ≠ 15 → j + frameChecksumBytes < bytes.length → bytes'[j]? = bytes[j]?

/-- Where one part of a list is replaced, the rest in front of its end stays. -/
lemma getElem?_outside {α : Type} {front old new rest last last' : List α}
    (hlength : new.length = old.length) {j : Nat}
    (houtside : j < front.length ∨ front.length + old.length ≤ j)
    (hj : j < front.length + old.length + rest.length) :
    (front ++ (new ++ rest) ++ last')[j]? = (front ++ (old ++ rest) ++ last)[j]? := by
  have hinside (middle last : List α) (hmiddle : middle.length = old.length) :
      (front ++ (middle ++ rest) ++ last)[j]? = (front ++ (middle ++ rest))[j]? := by
    refine List.getElem?_append_left ?_
    rw [List.length_append, List.length_append, hmiddle]
    omega
  rw [hinside new last' hlength, hinside old last rfl]
  rcases houtside with hfront | hbehind
  · rw [List.getElem?_append_left hfront, List.getElem?_append_left hfront]
  · have hrest (middle : List α) (hmiddle : middle.length = old.length) :
        (front ++ (middle ++ rest))[j]? = rest[j - front.length - old.length]? := by
      rw [List.getElem?_append_right (by omega), List.getElem?_append_right (by omega), hmiddle]
    rw [hrest new hlength, hrest old rfl]

section Frame

variable {protocolVersion quality frameType : UInt8} {idcode : UInt16} {timestamp : Timestamp}

/-- The status word is the first of the body. -/
lemma frameWith_status (stat : UInt16) (rest : List UInt8) :
    u16At (frameWith protocolVersion quality frameType idcode timestamp
      (u16ToBeBytes stat ++ rest)) 14 = stat := by
  have hstat := u16At_append (headerWith protocolVersion quality frameType
    (minFrameBytes + (u16ToBeBytes stat ++ rest).length) idcode timestamp)
    (UInt8.ofNat (stat.toNat / 256)) (UInt8.ofNat (stat.toNat % 256))
    (rest ++ u16ToBeBytes (crc16Ccitt (headerWith protocolVersion quality frameType
      (minFrameBytes + (u16ToBeBytes stat ++ rest).length) idcode timestamp ++
        (u16ToBeBytes stat ++ rest))))
  rw [u16FromBeBytes_toBeBytes] at hstat
  refine Eq.trans (congrArg₂ u16At ?_ rfl) hstat
  simp only [frameWith, List.append_assoc]
  rfl

/-- The word behind it is the second. -/
lemma frameWith_second (stat second : UInt16) (rest : List UInt8) :
    u16At (frameWith protocolVersion quality frameType idcode timestamp
      (u16ToBeBytes stat ++ u16ToBeBytes second ++ rest)) 16 = second := by
  have hsecond := u16At_append (headerWith protocolVersion quality frameType
    (minFrameBytes + (u16ToBeBytes stat ++ u16ToBeBytes second ++ rest).length) idcode timestamp ++
      u16ToBeBytes stat)
    (UInt8.ofNat (second.toNat / 256)) (UInt8.ofNat (second.toNat % 256))
    (rest ++ u16ToBeBytes (crc16Ccitt (headerWith protocolVersion quality frameType
      (minFrameBytes + (u16ToBeBytes stat ++ u16ToBeBytes second ++ rest).length) idcode
        timestamp ++ (u16ToBeBytes stat ++ u16ToBeBytes second ++ rest))))
  rw [u16FromBeBytes_toBeBytes] at hsecond
  refine Eq.trans (congrArg₂ u16At ?_ rfl) hsecond
  simp only [frameWith, List.append_assoc]
  rfl

lemma sameButStatus_frameWith (stat stat' : UInt16) (rest : List UInt8) :
    SameButStatus
      (frameWith protocolVersion quality frameType idcode timestamp (u16ToBeBytes stat ++ rest))
      (frameWith protocolVersion quality frameType idcode timestamp
        (u16ToBeBytes stat' ++ rest)) := by
  constructor
  · simp only [frameWith_length, List.length_append, u16ToBeBytes_length]
  · intro j h₁₄ h₁₅ hj
    simp only [frameWith_length, List.length_append, u16ToBeBytes_length, minFrameBytes,
      frameHeaderBytes, frameChecksumBytes] at hj
    simp only [frameWith, List.length_append, u16ToBeBytes_length]
    generalize hheader : headerWith protocolVersion quality frameType
      (minFrameBytes + (2 + rest.length)) idcode timestamp = header
    have hlength : header.length = 14 := hheader ▸ rfl
    have hstat : (u16ToBeBytes stat').length = (u16ToBeBytes stat).length := rfl
    refine getElem?_outside hstat ?_ ?_
    · simp only [hlength, u16ToBeBytes_length]
      omega
    · simp only [hlength, u16ToBeBytes_length]
      omega

end Frame

/-! ### Data frames -/

/-- What a V2 endpoint says of its time. -/
def V2EndpointMetadata.status (metadata : V2EndpointMetadata) (degradedTime : Bool) : UInt16 :=
  if metadata.goodStat && !degradedTime then 0
  else WireV2.statFlagSyncUncertain ||| WireV2.statPmuTimeQualityUnknown

lemma V2EndpointMetadata.status_eq_zero {metadata : V2EndpointMetadata} {degradedTime : Bool} :
    metadata.status degradedTime = 0 ↔ metadata.goodStat = true ∧ degradedTime = false := by
  unfold V2EndpointMetadata.status
  cases metadata.goodStat <;> cases degradedTime <;> decide

lemma V2EndpointMetadata.status_ne_zero {metadata : V2EndpointMetadata} {degradedTime : Bool}
    (h : metadata.status degradedTime ≠ 0) : metadata.status degradedTime =
      WireV2.statFlagSyncUncertain ||| WireV2.statPmuTimeQualityUnknown := by
  unfold V2EndpointMetadata.status at h ⊢
  exact if_neg fun hgood => h (if_pos hgood)

section Contents

variable {context : EndpointContext} {seed : UInt64} {tick tick' : Tick} {bytes : List UInt8}

lemma contents_v2 (hversion : context.descriptor.wireVersion = .v2)
    (hcontents : (QueuedFrame.data tick).contents context seed = some bytes) :
    ∃ metadata ∈ context.descriptor.v2, bytes = frameWith v2ProtocolVersion
      WireV2.messageTimeQualityUnknown WireV2.frameTypePeriodicData context.descriptor.streamId
      tick.timestamp (u16ToBeBytes (metadata.status tick.degradedTime) ++
        sampledBody context.descriptor seed tick.sampleIndex tick.signal fun channel =>
          WireV2.phunitScale (metadata.phunits.getD channel 0)) := by
  simp only [QueuedFrame.contents, encodeDataFrame, hversion, emptyDataFrame,
    WireV2.encodePeriodicDataWithScenario] at hcontents
  cases hmetadata : context.descriptor.v2 with
  | none => simp [hmetadata] at hcontents
  | some metadata =>
    simp only [hmetadata, DataFrame.bytes, Option.some.injEq] at hcontents
    exact ⟨metadata, rfl, hcontents.symm⟩

lemma contents_v3 (hversion : context.descriptor.wireVersion = .v3) :
    (QueuedFrame.data tick).contents context seed = some (frameWith v3ProtocolVersion 0
      WireV3.frameTypePeriodicData context.descriptor.streamId tick.timestamp
      (u16ToBeBytes WireV3.statFlagSyncUncertain ++ u16ToBeBytes WireV3.timeQualityUnknown ++
        sampledBody context.descriptor seed tick.sampleIndex tick.signal fun channel =>
          if channel < 3 then context.descriptor.voltageScale
          else context.descriptor.currentScale)) := by
  simp only [QueuedFrame.contents, encodeDataFrame, hversion, emptyDataFrame,
    WireV3.encodePeriodicDataWithScenario, DataFrame.bytes]

/-- Ticks that differ in the quality of their time make frames that differ in their status. -/
lemma contents_sameButStatus
    (hcontents : (QueuedFrame.data tick).contents context seed = some bytes)
    (hsample : tick'.sampleIndex = tick.sampleIndex) (htime : tick'.timestamp = tick.timestamp)
    (hsignal : tick'.signal = tick.signal) :
    ∃ bytes', (QueuedFrame.data tick').contents context seed = some bytes' ∧
      SameButStatus bytes bytes' := by
  cases hversion : context.descriptor.wireVersion with
  | v2 =>
    obtain ⟨metadata, hmetadata, rfl⟩ := contents_v2 hversion hcontents
    rw [← hsample, ← htime, ← hsignal]
    refine ⟨_, ?_, sameButStatus_frameWith _ (metadata.status tick'.degradedTime) _⟩
    simp only [QueuedFrame.contents, encodeDataFrame, hversion, emptyDataFrame,
      WireV2.encodePeriodicDataWithScenario, Option.mem_def.mp hmetadata, DataFrame.bytes]
    rfl
  | v3 =>
    rw [contents_v3 hversion] at hcontents
    obtain rfl := Option.some.inj hcontents
    rw [contents_v3 hversion, hsample, htime, hsignal]
    exact ⟨_, rfl, rfl, fun _ _ _ _ => rfl⟩

end Contents

/-! ### The boundary and the server behind it -/

namespace Server

/-- A scenario that degrades the time of a stream is in effect. -/
def DegradesTime (s : Server) (streamId : UInt16) : Prop :=
  ∃ controller ∈ s.scenarioController, ∃ a,
    controller.Affects (.endpoint streamId) a ∧ a.scenario.kind = .degradedTime

/-- Two servers whose endpoints and clocks are the same, and whose endpoints are in the effect of the
same scenarios, but for those that degrade time. -/
structure SameButTime (s s' : Server) : Prop where
  endpoints : s'.endpoints = s.endpoints
  wallClock : s'.wallClock = s.wallClock
  effects : ∀ streamId a, a.scenario.kind ≠ .degradedTime →
    ((∃ controller ∈ s'.scenarioController, controller.Affects (.endpoint streamId) a) ↔
      ∃ controller ∈ s.scenarioController, controller.Affects (.endpoint streamId) a)

/-- The tick of an endpoint at a boundary. -/
def tickAt (s : Server) (sampleIndex i : Nat) : Tick :=
  (s.boundaryAt sampleIndex).tick ((s.boundaryAt sampleIndex).plan i)

lemma degrades_iff {s : Server} {streamId : UInt16} :
    (s.scenarioController.map fun c => c.framePlan streamId).any FramePlan.degradedTime = true ↔
      s.DegradesTime streamId := by
  unfold DegradesTime
  cases s.scenarioController with
  | none => simp
  | some controller =>
    have heffects := (controller.framePlan_effects streamId).degradedTime
    simpa using heffects

/-- The excursion of a plan is that of the scenario in effect. -/
lemma signal_iff {s : Server} {streamId : UInt16} {x : SignalExcursion} :
    (s.scenarioController.map fun c => c.framePlan streamId).bind FramePlan.signal = some x ↔
      ∃ a, (∃ controller ∈ s.scenarioController, controller.Affects (.endpoint streamId) a) ∧
        a.scenario.kind = .signalExcursion ∧ a.scenario.signal = some x := by
  cases s.scenarioController with
  | none => simp
  | some controller =>
    have heffects := (controller.framePlan_effects streamId).signal x
    simpa using heffects

lemma boundaryAt_congr {s s' : Server} (hcontexts : s'.core.contexts = s.core.contexts)
    (hcontroller : s'.scenarioController = s.scenarioController)
    (hclock : s'.wallClock = s.wallClock) (hhealth : s'.timeHealthState = s.timeHealthState)
    (sampleIndex : Nat) : s'.boundaryAt sampleIndex = s.boundaryAt sampleIndex := by
  have hplans (s : Server) : (s.endpoints.map fun e =>
        s.scenarioController.map fun c => c.framePlan e.descriptor.streamId) =
      s.core.contexts.map fun context =>
        s.scenarioController.map fun c => c.framePlan context.descriptor.streamId := by
    simp only [core, List.map_map]
    rfl
  simp only [boundaryAt, hclock, hhealth]
  rw [hplans s', hplans s, hcontexts, hcontroller]

lemma plan_boundaryAt {s : Server} {e : Endpoint} {i : Nat} (he : s.endpoints[i]? = some e)
    (sampleIndex : Nat) : (s.boundaryAt sampleIndex).plan i =
      s.scenarioController.map fun c => c.framePlan e.descriptor.streamId := by
  rw [Boundary.plan, boundaryAt, List.getElem?_map, he]
  rfl

/-- Where only the quality of time differs, only the quality of a tick's time does. -/
lemma SameButTime.tickAt {s s' : Server} (h : s.SameButTime s') (sampleIndex i : Nat) :
    (s'.tickAt sampleIndex i).sampleIndex = (s.tickAt sampleIndex i).sampleIndex ∧
      (s'.tickAt sampleIndex i).timestamp = (s.tickAt sampleIndex i).timestamp ∧
      (s'.tickAt sampleIndex i).signal = (s.tickAt sampleIndex i).signal := by
  refine ⟨rfl, ?_, ?_⟩
  · change s'.wallClock.timestampForSample sampleIndex = s.wallClock.timestampForSample sampleIndex
    rw [h.wallClock]
  · change ((s'.boundaryAt sampleIndex).plan i).bind FramePlan.signal =
      ((s.boundaryAt sampleIndex).plan i).bind FramePlan.signal
    cases he : s.endpoints[i]? with
    | none =>
      have he' : s'.endpoints[i]? = none := h.endpoints ▸ he
      simp [Boundary.plan, boundaryAt, he, he']
    | some e =>
      have he' : s'.endpoints[i]? = some e := h.endpoints ▸ he
      rw [plan_boundaryAt he, plan_boundaryAt he']
      refine Option.ext fun x => ?_
      rw [signal_iff, signal_iff]
      refine exists_congr fun a => and_congr_left fun hsignal => h.effects _ a ?_
      simp [hsignal.1]

end Server

/-! ### Runs -/

section Registered

variable {registry : Registry} {codec : ManagementCodec} {l₀ l l' : EventLoop}
  {h : List (Machine.Taken EventLoop Input (List Report))} {i : Nat} {slot : Slot}

lemma crossBoundary_index {c c' : ScenarioController} {n : Nat}
    (h : c.crossBoundary n = .ok c') : c'.currentSampleIndex = some n := by
  obtain ⟨expired, hexpired, h⟩ := bind_eq_ok.mp h
  obtain ⟨active, -, hexpired⟩ := bind_eq_ok.mp hexpired
  obtain rfl := Except.ok.inj hexpired
  split_ifs at h
  · obtain ⟨-, rfl⟩ := ScenarioController.bumpRevision_eq_ok.mp h
    rfl
  · obtain rfl := Except.ok.inj h
    rfl

/-- A controller that takes a boundary is at it. -/
lemma advanceController_index {c c' : Option ScenarioController} {n : Nat}
    (h : Server.advanceController n c = .ok c') : ∀ d ∈ c', d.currentSampleIndex = some n := by
  rcases Server.advanceController_ok h with ⟨-, rfl⟩ | ⟨d, d', -, rfl, hstep⟩
  · simp
  rintro _ ⟨⟩
  obtain ⟨⟨r, d''⟩, hadvance, hanswer⟩ := bind_eq_ok.mp hstep
  obtain ⟨houtput, rfl⟩ := ok_pair_eq.mp hanswer
  obtain rfl : (.ok () : Except ScenarioControllerError Unit) = r := by
    simpa using houtput
  unfold ScenarioController.advanceBoundary at hadvance
  cases hcurrent : d.currentSampleIndex with
  | none =>
    simp only [hcurrent] at hadvance
    obtain ⟨_, hcross, hadvance⟩ := bind_eq_ok.mp hadvance
    obtain ⟨-, rfl⟩ := ok_pair_eq.mp hadvance
    exact crossBoundary_index hcross
  | some previous =>
    simp only [hcurrent] at hadvance
    split_ifs at hadvance
    · cases hadvance
    obtain ⟨_, hcross, hadvance⟩ := bind_eq_ok.mp hadvance
    obtain ⟨-, rfl⟩ := ok_pair_eq.mp hadvance
    exact crossBoundary_index hcross

/-- The server behind a boundary: the time was looked at, the controller is at the boundary, and the
ticks of the boundary are those of the server. -/
lemma server_of_due {input : Input} {log : List Report}
    (hs : (eventLoop registry codec).step l input = .ok (log, l')) {boundary : Boundary}
    (hdue : l.server.dueBoundary input = some boundary) :
    (∃ answers, input = .boundary answers ∧ l'.server.timeHealthState =
      (l.server.timeHealthMonitor.observeBoundary answers.wallClock
        (l.server.timeSynchronizationSource.isVerified answers.status)).1) ∧
    (∀ c ∈ l'.server.scenarioController, c.currentSampleIndex = some boundary.sampleIndex) ∧
    boundary = l'.server.boundaryAt boundary.sampleIndex := by
  have hstep := EventLoop.step_core hs
  cases input with
  | event event => cases hdue
  | expire now => cases hdue
  | boundary answers =>
    unfold Server.dueBoundary at hdue
    generalize hcore : l'.server.core = core' at hstep
    cases hstep with
    | waits waits =>
      have hnone : (l.server.scheduler.takeDue answers.now).1 = none := waits
      cases hwaits : l.server.scheduler.takeDue answers.now with
      | mk due scheduler =>
        rw [hwaits] at hnone
        obtain rfl : due = none := hnone
        simp [hwaits] at hdue
    | refused due refused =>
      have hdue' : l.server.scheduler.takeDue answers.now = _ := due
      have hrefused : Server.advanceController _ l.server.scenarioController = _ := refused
      simp only [hdue', hrefused] at hdue
      cases hdue
    | @crosses _ sampleIndex _ _ c due advanced =>
      have hdue' : l.server.scheduler.takeDue answers.now = _ := due
      have hadvanced : Server.advanceController sampleIndex l.server.scenarioController = .ok c :=
        advanced
      simp only [hdue', hadvanced, Option.some.injEq] at hdue
      subst hdue
      have hcontroller := congrArg ServerCore.scenarioController hcore
      have hcontexts := congrArg ServerCore.contexts hcore
      have hclock := congrArg ServerCore.wallClock hcore
      have hhealth := congrArg ServerCore.timeHealthState hcore
      refine ⟨⟨answers, rfl, hhealth⟩, ?_, ?_⟩
      · change l'.server.scenarioController = _ at hcontroller
        rw [hcontroller]
        exact advanceController_index hadvanced
      · have hsame : l'.server.boundaryAt sampleIndex =
            (l.server.atBoundary answers c).boundaryAt sampleIndex :=
          Server.boundaryAt_congr (s := l.server.atBoundary answers c) hcontexts hcontroller hclock
            hhealth sampleIndex
        exact hsame.symm

/-- The endpoint of an index keeps its context. -/
lemma endpoint_kept (hcontexts : l'.server.core.contexts = l.server.core.contexts) {e : Endpoint}
    (he : l.server.endpoints[i]? = some e) :
    ∃ e', l'.server.endpoints[i]? = some e' ∧ e'.toEndpointContext = e.toEndpointContext := by
  have hat := congrArg (·[i]?) hcontexts
  simp only [Server.core, List.getElem?_map, he, Option.map_some] at hat
  exact Option.map_eq_some_iff.mp hat

lemma mem_placeLog {log : List Report} {connectionId : Nat} {activity : Activity}
    (h : Report.connection i slot connectionId activity ∈ log) :
    (connectionId, activity) ∈ Server.placeLog i slot log := by
  refine List.mem_filterMap.mpr ⟨(slot, connectionId, activity), ?_, if_pos rfl⟩
  exact List.mem_filterMap.mpr ⟨_, h, if_pos rfl⟩

/-- The data frame of a tick that is queued in a run is the frame of the tick that is due. -/
lemma due_of_queued (started : Started l₀) (run : (eventLoop registry codec).Run l₀ h l)
    {input : Input} {log : List Report}
    (hs : (eventLoop registry codec).step l input = .ok (log, l')) {e : Endpoint}
    (he : l.server.endpoints[i]? = some e) {connectionId : Nat} {tick : Tick}
    (hqueued : Report.connection i slot connectionId (.queued (.data tick)) ∈ log) :
    l.server.dueTick input i = some tick := by
  obtain ⟨e', he', -⟩ := endpoint_kept (EventLoop.step_core hs).contexts he
  have hbelow : ∀ entry ∈ placeHistory i slot h, entry.1 < l.server.nextConnectionId :=
    placeHistory_below started run he
  obtain ⟨firstId, due', hpath, -, -⟩ :=
    path_of_step slot hs (routed_of_run started run) hbelow he he'
  have hsub := (List.sublist_append_left _ _).trans hpath.ticks
  have hmem : tick ∈ ticksQueued (Server.placeLog i slot log) :=
    List.mem_filterMap.mpr ⟨_, mem_placeLog hqueued, rfl⟩
  simpa using hsub.subset hmem

/-- The time of a tick is degraded where it was not found verified, and where a scenario says so. -/
lemma tickAt_degradedTime {s : Server} {e : Endpoint} (he : s.endpoints[i]? = some e)
    (sampleIndex : Nat) : (s.tickAt sampleIndex i).degradedTime = false ↔
      s.timeHealthState = .verified ∧ ¬ s.DegradesTime e.descriptor.streamId := by
  have hhealth : s.timeHealthState.isDegraded = false ↔ s.timeHealthState = .verified := by
    cases s.timeHealthState <;> simp [TimeHealthState.isDegraded]
  rw [← hhealth, ← Server.degrades_iff, Bool.not_eq_true, ← Bool.or_eq_false_iff,
    ← Server.plan_boundaryAt he sampleIndex]
  rfl

/-- A data frame that is handed out in a run, and is so part of what is written, is of a boundary at
which the time was looked at and scenarios took effect. On V2 it says that its time is good exactly
where the endpoint is listed as good, the time was found verified and no scenario degrades it, and
otherwise that it is uncertain and of unknown quality; on V3 it always says so. But for what it says of
its time, it would be the same whatever was found of the time and whatever scenarios degraded it. -/
theorem time_quality (started : Started l₀) (run : (eventLoop registry codec).Run l₀ h l)
    {x : Machine.Taken EventLoop Input (List Report)} (hx : x ∈ h) {e : Endpoint}
    (he : x.before.server.endpoints[i]? = some e) {connectionId : Nat} {tick : Tick}
    (hqueued : Report.connection i slot connectionId (.queued (.data tick)) ∈ x.output) :
    (∃ answers, x.input = .boundary answers ∧ x.after.server.timeHealthState =
      (x.before.server.timeHealthMonitor.observeBoundary answers.wallClock
        (x.before.server.timeSynchronizationSource.isVerified answers.status)).1) ∧
    (∀ c ∈ x.after.server.scenarioController, c.currentSampleIndex = some tick.sampleIndex) ∧
    ∃ bytes, (QueuedFrame.data tick).contents e.toEndpointContext l₀.server.seed = some bytes ∧
      (∃ frames : List (List UInt8), (framesQueued (connectionLog connectionId (placeHistory i slot h))).map
          (QueuedFrame.contents e.toEndpointContext l₀.server.seed) = frames.map some ∧
        bytesWritten (connectionLog connectionId (placeHistory i slot h)) <+: frames.flatten ∧
        bytes ∈ frames) ∧
      (e.descriptor.wireVersion = .v2 → ∃ metadata ∈ e.descriptor.v2,
        (u16At bytes 14 = 0 ↔ metadata.goodStat = true ∧
          x.after.server.timeHealthState = .verified ∧
          ¬ x.after.server.DegradesTime e.descriptor.streamId) ∧
        (u16At bytes 14 ≠ 0 → u16At bytes 14 =
          WireV2.statFlagSyncUncertain ||| WireV2.statPmuTimeQualityUnknown)) ∧
      (e.descriptor.wireVersion = .v3 →
        u16At bytes 14 = WireV3.statFlagSyncUncertain ∧
        u16At bytes 16 = WireV3.timeQualityUnknown) ∧
      tick = x.after.server.tickAt tick.sampleIndex i ∧
      ∀ s, x.after.server.SameButTime s → ∃ bytes',
        (QueuedFrame.data (s.tickAt tick.sampleIndex i)).contents e.toEndpointContext
          l₀.server.seed = some bytes' ∧ SameButStatus bytes bytes' := by
  obtain ⟨h₀, h₁, rfl⟩ := List.append_of_mem hx
  obtain ⟨run₀, hs, run₁⟩ := run.step_of_mid
  have hdueTick := due_of_queued started run₀ hs he hqueued
  obtain ⟨boundary, hdue, htick⟩ := Option.map_eq_some_iff.mp hdueTick
  obtain ⟨hobserved, hindex, hboundary⟩ := server_of_due hs hdue
  have hsample : boundary.sampleIndex = tick.sampleIndex := htick ▸ rfl
  rw [hsample] at hindex hboundary
  have htickAt : tick = x.after.server.tickAt tick.sampleIndex i := by
    rw [Server.tickAt, ← hboundary]
    exact htick.symm
  -- the frame of the tick is among those that are written
  have hmem : (QueuedFrame.data tick) ∈ framesQueued
      (connectionLog connectionId (placeHistory i slot (h₀ ++ x :: h₁))) := by
    refine List.mem_filterMap.mpr ⟨.queued (.data tick), ?_, rfl⟩
    refine List.mem_filterMap.mpr ⟨(connectionId, .queued (.data tick)), ?_, if_pos rfl⟩
    refine mem_placeLog (List.mem_flatMap.mpr ⟨x, ?_, hqueued⟩)
    exact List.mem_append_right _ List.mem_cons_self
  have hcontexts : l.server.core.contexts = x.before.server.core.contexts :=
    (contexts_of_run run).trans (contexts_of_run run₀).symm
  obtain ⟨e', he', hcontext⟩ := endpoint_kept hcontexts he
  have hin := (inOrder_of_run started run he' slot connectionId).whole
  change ∃ frames : List (List UInt8), List.map (QueuedFrame.contents e'.toEndpointContext _) _ = _ ∧
    _ at hin
  rw [hcontext] at hin
  obtain ⟨frames, hframes, hwritten⟩ := hin
  obtain ⟨bytes, hbytes, hcontents⟩ : ∃ bytes ∈ frames,
      (QueuedFrame.data tick).contents e.toEndpointContext l₀.server.seed = some bytes := by
    have hsome := List.mem_map_of_mem (f := QueuedFrame.contents e.toEndpointContext l₀.server.seed)
      hmem
    rw [hframes] at hsome
    obtain ⟨bytes, hbytes, heq⟩ := List.mem_map.mp hsome
    exact ⟨bytes, hbytes, heq.symm⟩
  obtain ⟨eAfter, heAfter, hcontextAfter⟩ := endpoint_kept (EventLoop.step_core hs).contexts he
  have hdegraded := tickAt_degradedTime heAfter tick.sampleIndex
  rw [← htickAt, hcontextAfter] at hdegraded
  refine ⟨hobserved, hindex, bytes, hcontents, ⟨frames, hframes, hwritten, hbytes⟩, ?_, ?_, htickAt,
    ?_⟩
  · intro hversion
    obtain ⟨metadata, hmetadata, rfl⟩ := contents_v2 hversion hcontents
    refine ⟨metadata, hmetadata, ?_, ?_⟩
    · rw [frameWith_status, V2EndpointMetadata.status_eq_zero, hdegraded]
    · rw [frameWith_status]
      exact V2EndpointMetadata.status_ne_zero
  · intro hversion
    obtain rfl := Option.some.inj ((contents_v3 hversion).symm.trans hcontents)
    exact ⟨by rw [List.append_assoc, frameWith_status], frameWith_second _ _ _⟩
  · intro s hs
    obtain ⟨hsampled, htimed, hsignalled⟩ := hs.tickAt tick.sampleIndex i
    rw [← htickAt] at hsampled htimed hsignalled
    exact contents_sameButStatus hcontents hsampled htimed hsignalled

/-- A data frame is handed to the connection of an identifier. -/
def Report.handsOut (connectionId : Nat) : Report → Bool
  | .connection 0 0 connectionId' (.queued (.data _)) => connectionId' = connectionId
  | _ => false

lemma handsOut_any {log : List Report} {connectionId : Nat}
    (hany : log.any (Report.handsOut connectionId) = true) :
    ∃ tick, Report.connection 0 0 connectionId (.queued (.data tick)) ∈ log := by
  obtain ⟨report, hmem, hhands⟩ := List.any_eq_true.mp hany
  unfold Report.handsOut at hhands
  split at hhands
  · obtain rfl := of_decide_eq_true hhands
    exact ⟨_, hmem⟩
  · cases hhands

/-- The first frame of a listed endpoint says that its time is good. The second is of a boundary at
which the clock was found to have gone back by a second. -/
theorem time_quality_small : ∃ (x₁ x₂ : Machine.Taken EventLoop Input (List Report))
    (context : EndpointContext) (tick₁ tick₂ : Tick) (bytes₁ bytes₂ : List UInt8),
    Report.connection 0 0 1 (.queued (.data tick₁)) ∈ x₁.output ∧
    Report.connection 0 0 1 (.queued (.data tick₂)) ∈ x₂.output ∧
    (QueuedFrame.data tick₁).contents context 1 = some bytes₁ ∧
    (QueuedFrame.data tick₂).contents context 1 = some bytes₂ ∧
    u16At bytes₁ 14 = 0 ∧ u16At bytes₂ 14 = 0x21c0 := by
  have htrace : soleTrace .v2 none [acceptOne, bytesArrive 3 (soleCommand .start),
      .boundary ⟨20000000, 1000000000, none, fun _ _ => soleAnswers [] (.accepts 100)⟩,
      .boundary ⟨40000000, 0, none, fun _ _ => soleAnswers [] (.accepts 100)⟩] (fun steps l =>
        l.server.seed = 1 && (steps[2]?).any (fun x =>
          x.output.any (Report.handsOut 1) && x.after.server.timeHealthState = .verified &&
          x.after.server.scenarioController.isNone &&
          (x.before.server.endpoints[0]?).any fun e => e.descriptor.wireVersion = .v2 &&
            e.descriptor.v2.all V2EndpointMetadata.goodStat) &&
        (steps[3]?).any (fun x =>
          x.output.any (Report.handsOut 1) &&
          x.after.server.timeHealthState = .materialClockRegression)) = true := by
    decide +kernel
  obtain ⟨l₀, steps, l, started, hinputs, run, hcheck⟩ := run_of_soleTrace htrace
  obtain ⟨x₀, x₁, x₂, x₃, rfl⟩ : ∃ x₀ x₁ x₂ x₃, steps = [x₀, x₁, x₂, x₃] :=
    List.length_eq_four.mp (by simpa using congrArg List.length hinputs)
  simp only [List.getElem?_cons_succ, List.getElem?_cons_zero, Option.any_some,
    Bool.and_eq_true, decide_eq_true_eq] at hcheck
  obtain ⟨⟨hseed, ⟨⟨hfirst, hverified⟩, hno⟩, hgood⟩, hsecond, hregressed⟩ := hcheck
  obtain ⟨e, he, hgood⟩ := (Option.any_eq_true _ _).mp hgood
  simp only [Bool.and_eq_true, decide_eq_true_eq] at hgood
  obtain ⟨hversion, hgood⟩ := hgood
  obtain ⟨tick₁, hfirst⟩ := handsOut_any hfirst
  obtain ⟨tick₂, hsecond⟩ := handsOut_any hsecond
  have hseed₀ : l₀.server.seed = 1 := (seed_of_run run).symm.trans hseed
  have hsplit : [x₀, x₁, x₂, x₃] = [x₀, x₁] ++ x₂ :: [x₃] := rfl
  have hsplit' : [x₀, x₁, x₂, x₃] = [x₀, x₁, x₂] ++ x₃ :: [] := rfl
  obtain ⟨run₂, -, -⟩ := (hsplit ▸ run).step_of_mid
  obtain ⟨run₃, -, -⟩ := (hsplit' ▸ run).step_of_mid
  obtain ⟨e', he', hcontext⟩ :=
    endpoint_kept ((contexts_of_run run₃).trans (contexts_of_run run₂).symm) he
  obtain ⟨-, -, bytes₁, hbytes₁, -, hstatus₁, -⟩ :=
    time_quality started run (by simp) he hfirst
  obtain ⟨-, -, bytes₂, hbytes₂, -, hstatus₂, -⟩ :=
    time_quality started run (by simp) he' hsecond
  rw [hcontext] at hbytes₂ hstatus₂
  rw [hseed₀] at hbytes₁ hbytes₂
  refine ⟨x₂, x₃, e.toEndpointContext, tick₁, tick₂, bytes₁, bytes₂, hfirst, hsecond, hbytes₁,
    hbytes₂, ?_, ?_⟩
  · obtain ⟨metadata, hmetadata, hzero, -⟩ := hstatus₁ hversion
    refine hzero.mpr ⟨?_, hverified, ?_⟩
    · rw [Option.mem_def.mp hmetadata] at hgood
      exact hgood
    · rintro ⟨controller, hcontroller, -⟩
      rw [Option.isNone_iff_eq_none.mp hno] at hcontroller
      cases hcontroller
  · obtain ⟨metadata, -, hzero, hunknown⟩ := hstatus₂ hversion
    refine hunknown fun hstatus => ?_
    obtain ⟨-, hverified', -⟩ := hzero.mp hstatus
    cases hregressed.symm.trans hverified'

end Registered

end PmuSimulator
