import Mathlib
import PmuSimulator.Server.Core

/-!
# Time at the boundaries of a run

Two clocks are read at a boundary. The monotonic clock tells the scheduler whether a sample is due:
`onTime_of_run` says when it is right about that. The wall clock is compared with what it read at the
boundary before: `regression_of_run` says which steps back the comparison finds.
-/

namespace PmuSimulator

/-! ### Samples that are due -/

namespace Scheduler

variable {scheduler : Scheduler} {now : Instant}

/-- What is taken is due. -/
def OnTime (scheduler : Scheduler) (now : Instant) : Prop :=
  ∀ sampleIndex skipped, (scheduler.takeDue now).1 = some (sampleIndex, skipped) →
    scheduler.started + sampleOffset sampleIndex scheduler.dataRateHz ≤ now

lemma takeDue_eq_some {sampleIndex skipped : Nat} :
    (scheduler.takeDue now).1 = some (sampleIndex, skipped) ↔
      scheduler.nextSampleIndex ≤ scheduler.currentIndex now ∧
        sampleIndex = scheduler.currentIndex now ∧
        skipped = scheduler.currentIndex now - scheduler.nextSampleIndex := by
  unfold takeDue
  by_cases h : scheduler.currentIndex now < scheduler.nextSampleIndex
  · simp [h]
  · simp [h, Nat.not_lt.mp h, eq_comm]

variable (scheduler now) in
/-- The offset of the index that is reached has passed. -/
lemma sampleOffset_currentIndex :
    sampleOffset (scheduler.currentIndex now) scheduler.dataRateHz ≤ now - scheduler.started := by
  unfold sampleOffset currentIndex
  apply (Nat.min_le_left _ _).trans
  have hreached : min ((now - scheduler.started) * scheduler.dataRateHz.toNat / nanosPerSecond)
      u64Max * nanosPerSecond ≤ (now - scheduler.started) * scheduler.dataRateHz.toNat :=
    (Nat.mul_le_mul_right _ (Nat.min_le_left _ _)).trans (Nat.div_mul_le_self _ _)
  exact Nat.div_le_of_le_mul (hreached.trans (Nat.mul_comm _ _).le)

lemma currentIndex_early (h : now < scheduler.started) : scheduler.currentIndex now = 0 := by
  simp [currentIndex, Nat.sub_eq_zero_of_le h.le]

/-- Before its start, a scheduler takes the first sample. -/
lemma onTime_iff : scheduler.OnTime now ↔
    scheduler.started ≤ now ∨ scheduler.nextSampleIndex ≠ 0 := by
  constructor
  · intro htime
    by_contra hearly
    obtain ⟨hnow, hfirst⟩ := not_or.mp hearly
    have hindex := currentIndex_early (Nat.not_le.mp hnow)
    have htaken := htime 0 0 (takeDue_eq_some.mpr (by simp [hindex, not_not.mp hfirst]))
    exact hnow ((Nat.le_add_right _ _).trans htaken)
  · rintro hstarted sampleIndex skipped htaken
    obtain ⟨hnext, rfl, -⟩ := takeDue_eq_some.mp htaken
    have hreached : scheduler.started ≤ now := by
      rcases hstarted with hstarted | hlater
      · exact hstarted
      · by_contra hearly
        rw [currentIndex_early (Nat.not_le.mp hearly)] at hnext
        exact hlater (Nat.le_zero.mp hnext)
    have hoffset := sampleOffset_currentIndex scheduler now
    exact (Nat.add_le_add_left hoffset _).trans (Nat.add_sub_cancel' hreached).le

end Scheduler

section Registered

variable {registry : Registry} {codec : ManagementCodec} {l₀ l : EventLoop} {h : Steps}

/-- A scheduler keeps its start and its rate. -/
lemma CoreStep.schedule {core core' : ServerCore} {input : Input} (h : CoreStep core input core') :
    core'.scheduler.started = core.scheduler.started ∧
      core'.scheduler.dataRateHz = core.scheduler.dataRateHz := by
  have hdue : ∀ {now due scheduler}, core.scheduler.takeDue now = (due, scheduler) →
      scheduler.started = core.scheduler.started ∧
        scheduler.dataRateHz = core.scheduler.dataRateHz := by
    intro now due scheduler hdue
    obtain rfl : (core.scheduler.takeDue now).2 = scheduler := by rw [hdue]
    unfold Scheduler.takeDue
    simp only
    split_ifs
    · exact ⟨rfl, rfl⟩
    · exact ⟨rfl, rfl⟩
  cases h with
  | asks run requests => exact ⟨rfl, rfl⟩
  | expire => exact ⟨rfl, rfl⟩
  | waits => exact ⟨rfl, rfl⟩
  | refused due => exact hdue due
  | crosses due => exact hdue due

lemma schedule_of_run (run : (eventLoop registry codec).Run l₀ h l) :
    l.server.scheduler.started = l₀.server.scheduler.started ∧
      l.server.scheduler.dataRateHz = l₀.server.scheduler.dataRateHz := by
  refine run.invariant (P := fun l =>
    l.server.scheduler.started = l₀.server.scheduler.started ∧
      l.server.scheduler.dataRateHz = l₀.server.scheduler.dataRateHz) ⟨rfl, rfl⟩ ?_
  intro r input log r' hr hs
  have hstep := (EventLoop.step_core hs).schedule
  exact ⟨hstep.1.trans hr.1, hstep.2.trans hr.2⟩

/-- What is taken in a run is due, unless the loop is awake before the first sample is. -/
theorem onTime_of_run (run : (eventLoop registry codec).Run l₀ h l) (now : Instant) :
    l.server.scheduler.OnTime now ↔
      l₀.server.scheduler.started ≤ now ∨ l.server.scheduler.nextSampleIndex ≠ 0 := by
  rw [Scheduler.onTime_iff, (schedule_of_run run).1]

end Registered

/-- The loop is awake again long after the first sample was taken. -/
theorem onTime_of_run_small : ∃ l : EventLoop, l.server.scheduler.nextSampleIndex ≠ 0 ∧
    l.server.scheduler.OnTime 70000000 := by
  have htrace : soleTrace .v2 none [boundaryAnswered 20000000 (.failed .wouldBlock)]
      (fun _ l => l.server.scheduler.nextSampleIndex = 1) = true := by
    decide +kernel
  obtain ⟨l₀, steps, l, -, -, run, hnext⟩ := run_of_soleTrace htrace
  have hlater : l.server.scheduler.nextSampleIndex ≠ 0 := by
    rw [of_decide_eq_true hnext]
    exact Nat.one_ne_zero
  exact ⟨l, hlater, (onTime_of_run run 70000000).mpr (.inr hlater)⟩

/-- A client connects before the first sample is due, and the loop wakes up for it. -/
theorem taken_early : ¬ ∀ (registry : Registry) (codec : ManagementCodec) (l₀ l : EventLoop)
    (h : Steps), Started l₀ → (eventLoop registry codec).Run l₀ h l →
      ∀ now, l.server.scheduler.OnTime now := by
  intro hall
  have htrace : soleTrace .v2 none [acceptOne] (fun _ l =>
      (l.server.scheduler.takeDue 1).1 = some (0, 0) ∧
        ¬ l.server.scheduler.started ≤ 1) = true := by
    decide +kernel
  obtain ⟨l₀, steps, l, started, -, run, hcheck⟩ := run_of_soleTrace htrace
  obtain ⟨htaken, hstarted⟩ := of_decide_eq_true hcheck
  have hdue := hall _ _ l₀ l steps started run 1 0 0 htaken
  exact hstarted ((Nat.le_add_right _ _).trans hdue)

/-! ### The wall clock -/

/-- A look at the scheduler that finds a sample due. -/
def Scheduler.TakesAt (scheduler : Scheduler) (input : Input) (answers : BoundaryAnswers) : Prop :=
  input = .boundary answers ∧ (scheduler.takeDue answers.now).1 ≠ none

namespace TimeHealthMonitor

variable {monitor : TimeHealthMonitor} {wallClock : SystemTime} {verified : Bool}

lemma observeBoundary_isDegraded :
    (monitor.observeBoundary wallClock verified).1.isDegraded = true ↔
      wallClock < 0 ∨ verified = false ∨ ∃ last, monitor.lastObservedWallClock = some last ∧
        (monitor.reportingInterval : Int) < last - wallClock := by
  unfold observeBoundary
  by_cases hepoch : wallClock < 0
  · simp [SystemTime.sinceEpoch, hepoch, TimeHealthState.isDegraded]
  cases verified with
  | false => simp [TimeHealthState.isDegraded]
  | true =>
    have hsince : wallClock.sinceEpoch.isNone = false := by
      simp [SystemTime.sinceEpoch, Int.not_lt.mp hepoch]
    have hregression : monitor.hasMaterialClockRegression wallClock = true ↔
        ∃ last, monitor.lastObservedWallClock = some last ∧
          (monitor.reportingInterval : Int) < last - wallClock := by
      unfold hasMaterialClockRegression
      cases monitor.lastObservedWallClock with
      | none => simp
      | some last =>
        by_cases hforward : last ≤ wallClock
        · have hnever : ¬ (monitor.reportingInterval : Int) < last - wallClock := by
            have hpositive : (0 : Int) ≤ monitor.reportingInterval := Int.natCast_nonneg _
            exact Int.not_lt.mpr ((Int.sub_nonpos_of_le hforward).trans hpositive)
          simp [hforward, hnever]
        · simp [hforward]
    simp only [hsince, Bool.not_true, Bool.or_self, Bool.false_eq_true, if_false, hepoch, false_or]
    rw [← hregression]
    cases monitor.hasMaterialClockRegression wallClock <;> simp [TimeHealthState.isDegraded]

end TimeHealthMonitor

section Registered

variable {registry : Registry} {codec : ManagementCodec} {l₀ l : EventLoop} {h : Steps}

/-- The time health that a boundary observes. -/
def ServerCore.health (core : ServerCore) (answers : BoundaryAnswers) :
    TimeHealthState × TimeHealthMonitor :=
  core.timeHealthMonitor.observeBoundary answers.wallClock
    (core.timeSynchronizationSource.isVerified answers.status)

/-- Only a boundary that is due looks at the time. -/
lemma CoreStep.looks {core core' : ServerCore} {input : Input} (h : CoreStep core input core') :
    core'.timeHealthMonitor = core.timeHealthMonitor ∧
        (∀ answers, ¬ core.scheduler.TakesAt input answers) ∨
      ∃ answers, core.scheduler.TakesAt input answers ∧
        core'.timeHealthState = (core.health answers).1 ∧
        core'.timeHealthMonitor = (core.health answers).2 := by
  cases h with
  | asks run requests => exact .inl ⟨rfl, fun answers htakes => by cases htakes.1⟩
  | expire => exact .inl ⟨rfl, fun answers htakes => by cases htakes.1⟩
  | waits hwaits =>
    refine .inl ⟨rfl, fun answers htakes => ?_⟩
    obtain ⟨hinput, hdue⟩ := htakes
    obtain rfl := Input.boundary.inj hinput
    exact hdue hwaits
  | refused due => exact .inr ⟨_, ⟨rfl, by simp [due]⟩, rfl, rfl⟩
  | crosses due => exact .inr ⟨_, ⟨rfl, by simp [due]⟩, rfl, rfl⟩

lemma CoreStep.keeps {core core' : ServerCore} {input : Input} (h : CoreStep core input core') :
    core'.timeSynchronizationSource = core.timeSynchronizationSource ∧
      core'.timeHealthMonitor.reportingInterval = core.timeHealthMonitor.reportingInterval := by
  cases h with
  | asks run requests => exact ⟨rfl, rfl⟩
  | expire => exact ⟨rfl, rfl⟩
  | waits => exact ⟨rfl, rfl⟩
  | refused due => exact ⟨rfl, rfl⟩
  | crosses due => exact ⟨rfl, rfl⟩

/-- The interval the monitor was made for is that of the scheduler. -/
def Server.reportingInterval (s : Server) : Duration :=
  nanosPerSecond / s.scheduler.dataRateHz.toNat

lemma interval_of_run (started : Started l₀) (run : (eventLoop registry codec).Run l₀ h l) :
    l.server.timeHealthMonitor.reportingInterval = l.server.reportingInterval := by
  refine run.invariant (P := fun l =>
    l.server.timeHealthMonitor.reportingInterval = l.server.reportingInterval) ?_ ?_
  · obtain ⟨-, input, hbind⟩ := started
    obtain ⟨first, rest, clock, started, endpoints, -, -, -, -, hs⟩ := bindInner_ok hbind
    rw [hs]
    rfl
  · intro r input log r' hr hs
    have hstep := EventLoop.step_core hs
    have hrate : r'.server.reportingInterval = r.server.reportingInterval :=
      congrArg (fun rate : UInt16 => nanosPerSecond / rate.toNat) hstep.schedule.2
    exact hstep.keeps.2.trans (hr.trans hrate.symm)

/-- Where no sample is taken, the monitor waits. -/
lemma monitor_of_run (run : (eventLoop registry codec).Run l₀ h l)
    (hwaits : ∀ x ∈ h, ∀ answers, ¬ x.before.server.scheduler.TakesAt x.input answers) :
    l.server.timeHealthMonitor = l₀.server.timeHealthMonitor := by
  refine run.history (P := fun h l => (∀ x ∈ h, ∀ answers,
    ¬ x.before.server.scheduler.TakesAt x.input answers) →
      l.server.timeHealthMonitor = l₀.server.timeHealthMonitor) (fun _ => rfl) ?_ hwaits
  intro h r input log r' _ hr hs hwaits
  have hbefore := hr fun x hx => hwaits x (List.mem_append_left _ hx)
  rcases (EventLoop.step_core hs).looks with ⟨hsame, -⟩ | ⟨answers, htakes, -⟩
  · exact hsame.trans hbefore
  · exact absurd htakes (hwaits ⟨r, input, log, r'⟩ (by simp) answers)

/-- Two boundaries of a history, with none between them. -/
structure Successive (h : Steps) (x₁ x₂ : Machine.Taken EventLoop Input (List Report))
    (answers₁ answers₂ : BoundaryAnswers) : Prop where
  first : x₁.before.server.scheduler.TakesAt x₁.input answers₁
  second : x₂.before.server.scheduler.TakesAt x₂.input answers₂
  between : ∃ before waits after, h = before ++ x₁ :: (waits ++ x₂ :: after) ∧
    ∀ x ∈ waits, ∀ answers, ¬ x.before.server.scheduler.TakesAt x.input answers

/-- What is observed at the second of two successive boundaries. -/
lemma degraded_of_successive (started : Started l₀) (run : (eventLoop registry codec).Run l₀ h l)
    {x₁ x₂ : Machine.Taken EventLoop Input (List Report)} {answers₁ answers₂ : BoundaryAnswers}
    (successive : Successive h x₁ x₂ answers₁ answers₂) :
    x₂.after.server.timeHealthState.isDegraded = true ↔ answers₂.wallClock < 0 ∨
      x₂.before.server.timeSynchronizationSource.isVerified answers₂.status = false ∨
      (x₂.before.server.reportingInterval : Int) < answers₁.wallClock - answers₂.wallClock := by
  obtain ⟨first, second, before, waits, after, rfl, hwaits⟩ := successive
  obtain ⟨run₁, hs₁, run⟩ := run.step_of_mid
  obtain ⟨run₂, hs₂, -⟩ := run.step_of_mid
  have hinterval : x₂.before.server.timeHealthMonitor.reportingInterval =
      x₂.before.server.reportingInterval := interval_of_run started ((run₁.snoc hs₁).trans run₂)
  have hlast : x₂.before.server.timeHealthMonitor.lastObservedWallClock =
      some answers₁.wallClock := by
    rw [monitor_of_run run₂ hwaits]
    rcases (EventLoop.step_core hs₁).looks with ⟨-, hnot⟩ | ⟨answers, htakes, -, hmonitor⟩
    · exact absurd first (hnot answers₁)
    · obtain rfl := Input.boundary.inj (htakes.1.symm.trans first.1)
      exact congrArg TimeHealthMonitor.lastObservedWallClock hmonitor
  rcases (EventLoop.step_core hs₂).looks with ⟨-, hnot⟩ | ⟨answers, htakes, hstate, -⟩
  · exact absurd second (hnot answers₂)
  · obtain rfl := Input.boundary.inj (htakes.1.symm.trans second.1)
    change x₂.after.server.timeHealthState = (x₂.before.server.core.health answers).1 at hstate
    rw [hstate, ServerCore.health, TimeHealthMonitor.observeBoundary_isDegraded]
    change _ ∨ _ ∨ (∃ last, x₂.before.server.timeHealthMonitor.lastObservedWallClock = some last ∧
      (x₂.before.server.timeHealthMonitor.reportingInterval : Int) < _) ↔ _
    rw [hlast, hinterval]
    simp only [Option.some.injEq, exists_eq_left']
    exact Iff.rfl

/-- A step back that is longer than an interval degrades the time health exactly if what is left of it
after the time that has passed is, or the clock is distrusted for another reason. -/
theorem regression_of_run (started : Started l₀) (run : (eventLoop registry codec).Run l₀ h l)
    {x₁ x₂ : Machine.Taken EventLoop Input (List Report)} {answers₁ answers₂ : BoundaryAnswers}
    (successive : Successive h x₁ x₂ answers₁ answers₂) {back : Duration}
    (hread : answers₂.wallClock =
      answers₁.wallClock + ((answers₂.now : Int) - (answers₁.now : Int)) - (back : Int)) :
    (x₂.before.server.reportingInterval < back →
        x₂.after.server.timeHealthState.isDegraded = true) ↔
      back ≤ x₂.before.server.reportingInterval ∨
      (answers₂.now : Int) - (answers₁.now : Int) + x₂.before.server.reportingInterval < back ∨
      x₂.before.server.timeSynchronizationSource.isVerified answers₂.status = false ∨
      answers₂.wallClock < 0 := by
  rw [degraded_of_successive started run successive]
  have hleft : answers₁.wallClock - answers₂.wallClock =
      (back : Int) - ((answers₂.now : Int) - (answers₁.now : Int)) := by
    rw [hread]
    ring
  rw [hleft, lt_sub_iff_add_lt']
  by_cases hmaterial : back ≤ x₂.before.server.reportingInterval
  · simp [hmaterial, Nat.not_lt.mpr hmaterial]
  · simp only [hmaterial, Nat.not_le.mp hmaterial, true_imp_iff, false_or]
    tauto

end Registered

/-- The scheduler is looked at, and the wall clock reads what it is given. -/
def clockReads (now : Instant) (wallClock : SystemTime) : BoundaryAnswers :=
  ⟨now, wallClock, none, fun _ _ => soleAnswers [] (.failed .wouldBlock)⟩

/-- Two boundaries, one interval apart. -/
lemma successive_of_trace (wallClock₁ wallClock₂ : SystemTime) (state : TimeHealthState)
    (h : soleTrace .v2 none [.boundary (clockReads 20000000 wallClock₁),
      .boundary (clockReads 40000000 wallClock₂)] (fun steps l =>
        decide (l.server.timeHealthState = state) &&
        (steps.zip [20000000, 40000000]).all fun x =>
          (x.1.before.server.scheduler.takeDue x.2).1.isSome &&
            decide (x.1.before.server.reportingInterval = 20000000)) = true) :
    ∃ l₀ l x₁ x₂, Started l₀ ∧ (eventLoop takingRegistry silentCodec).Run l₀ [x₁, x₂] l ∧
      Successive [x₁, x₂] x₁ x₂ (clockReads 20000000 wallClock₁) (clockReads 40000000 wallClock₂) ∧
      x₂.before.server.reportingInterval = 20000000 ∧
      x₂.after.server.timeHealthState = state := by
  obtain ⟨l₀, steps, l, started, hinputs, run, hcheck⟩ := run_of_soleTrace h
  obtain ⟨x₁, x₂, rfl⟩ : ∃ x₁ x₂, steps = [x₁, x₂] :=
    List.length_eq_two.mp (by simpa using congrArg List.length hinputs)
  simp only [List.zip_cons_cons, List.zip_nil_right, List.all_cons, List.all_nil, Bool.and_true,
    Bool.and_eq_true, decide_eq_true_eq, Option.isSome_iff_ne_none] at hcheck
  obtain ⟨hstate, ⟨hdue₁, -⟩, hdue₂, hinterval⟩ := hcheck
  have hinput₁ : x₁.input = .boundary (clockReads 20000000 wallClock₁) :=
    Option.some.inj (congrArg (·[0]?) hinputs)
  have hinput₂ : x₂.input = .boundary (clockReads 40000000 wallClock₂) :=
    Option.some.inj (congrArg (·[1]?) hinputs)
  have hend : x₂.after = l := by
    obtain ⟨-, -, hrest⟩ := run.step_of_mid (h := [x₁])
    exact hrest.eq_of_nil
  refine ⟨l₀, l, x₁, x₂, started, run, ⟨⟨hinput₁, hdue₁⟩, ⟨hinput₂, hdue₂⟩, [], [], [], rfl, ?_⟩,
    hinterval, hend ▸ hstate⟩
  exact fun x hx => by cases hx

/-- The clock is set back by fifty milliseconds in an interval of twenty. -/
theorem regression_of_run_small : ∃ x : Machine.Taken EventLoop Input (List Report),
    x.before.server.reportingInterval = 20000000 ∧
      x.after.server.timeHealthState.isDegraded = true := by
  obtain ⟨l₀, l, x₁, x₂, started, run, successive, hinterval, -⟩ :=
    successive_of_trace 1000000000 970000000 .materialClockRegression (by decide +kernel)
  have hread : (970000000 : Int) =
      1000000000 + (((40000000 : Nat) : Int) - ((20000000 : Nat) : Int)) - ((50000000 : Nat) : Int) := by
    decide
  have hfound := regression_of_run started run successive hread
  rw [hinterval] at hfound
  exact ⟨x₂, hinterval, hfound.mpr (.inr (.inl (by decide))) (by decide)⟩

/-- The clock is set back by thirty milliseconds in an interval of twenty. -/
theorem regression_missed : ¬ ∀ (registry : Registry) (codec : ManagementCodec) (l₀ l : EventLoop)
    (h : Steps) (x₁ x₂ : Machine.Taken EventLoop Input (List Report))
    (answers₁ answers₂ : BoundaryAnswers) (back : Duration), Started l₀ →
      (eventLoop registry codec).Run l₀ h l → Successive h x₁ x₂ answers₁ answers₂ →
      answers₂.wallClock =
        answers₁.wallClock + ((answers₂.now : Int) - (answers₁.now : Int)) - (back : Int) →
      x₂.before.server.reportingInterval < back →
      x₂.after.server.timeHealthState.isDegraded = true := by
  intro hall
  obtain ⟨l₀, l, x₁, x₂, started, run, successive, hinterval, hstate⟩ :=
    successive_of_trace 1000000000 990000000 .verified (by decide +kernel)
  have hdegraded := hall _ _ l₀ l _ x₁ x₂ _ _ 30000000 started run successive (by decide)
    (by rw [hinterval]; decide)
  rw [hstate] at hdegraded
  cases hdegraded

end PmuSimulator
